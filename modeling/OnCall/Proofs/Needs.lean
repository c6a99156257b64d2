import OnCall.Proofs.Degradation

/-!
# Every investigation gets by with what it needs

An investigation says beforehand what it needs beside the cluster record. Its context holds no more
than that, and asking a context for what it does not hold is a failure.

* `Context.SameCase`, `Context.SameMeans`: contexts that agree in all that an investigation reads.
* `Investigation.run_congr`: **an investigation reads nothing else of its context**; in particular not
  the name, which stands only in the failure for a cloud account that was not asked for.
* `Investigation.Covered`: an investigation asks its context only for what is there;
  `Investigation.covered_of_build`: **so it is in every context that is made for its needs**.
* `Desk.gives_concludeRevoked`: the context for revoked credentials is made without a call.
* `Desk.needs_cover_uses`: **no attempt asks for what was not fetched for it.**
-/

namespace OnCall

/-! ## 1. What is read of a context -/

namespace Context

/-- The contexts are for the same case. -/
structure SameCase (ctx ctx' : Context) : Prop where
  alert : ctx'.alert = ctx.alert
  cluster : ctx'.cluster = ctx.cluster
  analyst : ctx'.analyst = ctx.analyst
  settings : ctx'.settings = ctx.settings

/-- They also answer alike when asked for the cloud account and the id of the infrastructure. -/
structure SameMeans (ctx ctx' : Context) : Prop extends ctx.SameCase ctx' where
  cloud : ctx'.cloudClient = ctx.cloudClient
  infra : ctx'.infraId = ctx.infraId

end Context

variable {ctx ctx' : Context}

theorem EgressFinding.run_congr (same : ctx.SameMeans ctx') :
    EgressFinding.run ctx' = EgressFinding.run ctx := by
  simp only [EgressFinding.run, EgressFinding.target, same.cluster, same.cloud, same.infra]

namespace Unreachable

theorem inspect_congr (same : ctx.SameMeans ctx') (now : Instant) :
    inspect ctx' now = inspect ctx now := by
  simp only [inspect, same.cluster, same.settings, same.cloud, same.infra]

theorem noteHibernation_congr (same : ctx.SameCase ctx') (now : Instant) :
    noteHibernation ctx' now = noteHibernation ctx now := by
  simp only [noteHibernation, same.cluster, same.settings]

theorem concludeByEgress_congr (same : ctx.SameMeans ctx') :
    concludeByEgress ctx' = concludeByEgress ctx := by
  simp only [concludeByEgress, same.cluster, same.settings, EgressFinding.run_congr same]

theorem triggered_congr (same : ctx.SameMeans ctx') (now : Instant) :
    triggered ctx' now = triggered ctx now := by
  simp only [triggered, inspect_congr same, noteHibernation_congr same.toSameCase,
    concludeByEgress_congr same]

theorem liftOne_congr (same : ctx.SameCase ctx') (now : Instant) (change : Restriction.Change) :
    liftOne ctx' now change = liftOne ctx now change := by
  simp only [liftOne, same.cluster, same.settings]

theorem recovered_congr (same : ctx.SameMeans ctx') (now : Instant) :
    recovered ctx' now = recovered ctx now := by
  simp only [recovered, same.cluster, same.cloud, same.infra, liftOne_congr same.toSameCase]

end Unreachable

namespace Provisioning

theorem noteAccessProtection_congr (same : ctx.SameCase ctx') :
    noteAccessProtection ctx' = noteAccessProtection ctx := by
  simp only [noteAccessProtection, same.cluster]

theorem concludeByEgress_congr (same : ctx.SameMeans ctx') :
    concludeByEgress ctx' = concludeByEgress ctx := by
  simp only [concludeByEgress, same.cluster, EgressFinding.run_congr same]

theorem unroutedSubnets_congr (same : ctx.SameMeans ctx') :
    unroutedSubnets ctx' = unroutedSubnets ctx := by
  simp only [unroutedSubnets, same.cluster, same.cloud]

theorem run_congr (same : ctx.SameMeans ctx') : run ctx' = run ctx := by
  simp only [run, same.cluster, noteAccessProtection_congr same.toSameCase,
    unroutedSubnets_congr same, concludeByEgress_congr same]

end Provisioning

/-- The assisted investigation does without means. -/
theorem Assisted.run_congr (same : ctx.SameCase ctx') : run ctx' = run ctx := by
  simp only [run, same.alert, same.cluster, same.analyst, same.settings]

namespace Investigation

variable {i : Investigation}

theorem run_of_steps (same : ∀ now, i.steps ctx' now = i.steps ctx now) : i.run ctx' = i.run ctx := by
  simp only [run, same]

/-- **An investigation reads nothing else of its context.** -/
theorem run_congr (same : ctx.SameMeans ctx') : i.run ctx' = i.run ctx := by
  refine run_of_steps fun now => ?_
  cases i with
  | unreachable =>
    simp only [steps, same.alert, Unreachable.recovered_congr same, Unreachable.triggered_congr same]
  | provisioning => exact Provisioning.run_congr same
  | assisted => exact Assisted.run_congr same.toSameCase

/-- One that does not need the cloud account reads no means either. -/
theorem run_congr_of_unneeded (unneeded : i.needs.cloud = false) (same : ctx.SameCase ctx') :
    i.run ctx' = i.run ctx := by
  refine run_of_steps fun now => ?_
  cases i with
  | unreachable => cases unneeded
  | provisioning => cases unneeded
  | assisted => exact Assisted.run_congr same

/-! ## 2. What is there -/

/-- **An investigation asks its context only for what is there.** -/
structure Covered (i : Investigation) (ctx : Context) : Prop where
  /-- The cloud account is there, or it is all the same which one is. -/
  cloud : (i.needs.cloud = true ∧ ∃ client, ctx.cloudClient = .ok client) ∨
    (i.needs.cloud = false ∧ ∀ cloud, i.run { ctx with cloud } = i.run ctx)
  /-- The failure for a cloud account that was not asked for names the context. Nothing that is done
  depends on that name, in no branch. -/
  unnamed : ∀ investigation, i.run { ctx with investigation } = i.run ctx
  /-- The id of the infrastructure of a cluster that has gone missing is known. -/
  infra : i = .unreachable → ∃ infraId, ctx.infraId = .ok infraId
  /-- The steps fail by what a platform said, or because nobody can be blamed. -/
  fails : ∀ now n (log : Log) f n', Inquiry.Gives (i.steps ctx now) n log (.error f) n' →
    log.Stuck ctx.cluster.ccs f
  /-- What keeps a probe from running is what a platform said, or that there are no subnets, or, for
  an installation, that its cluster has no infrastructure yet. -/
  probes : i.needs.cloud = true → ∀ (log : Log) f,
    Program.Run (EgressFinding.run ctx) log (.toolingError f) →
    (∃ c, log.RefusedBy c f) ∨ (∃ infraId, f = .root (.noSubnets infraId)) ∨
      (i = .provisioning ∧ log = [] ∧ ctx.infraId = .error f)

/-- Subnets are not listed if their lookup was refused. -/
theorem refused_of_listed {client : CloudClient} {infraId : String} {log : Log} {f : Failure}
    (listed : EgressFinding.Listed ctx client infraId log (.error f)) : ∃ c, log.RefusedBy c f := by
  cases listed with
  | looked => exact ⟨_, [], rfl⟩

/-- Why a probe does not run where the cloud account is there. -/
theorem probes_of_cloud {client : CloudClient} {log : Log} {f : Failure}
    (cloud : ctx.cloudClient = .ok client)
    (h : Program.Run (EgressFinding.run ctx) log (.toolingError f)) :
    (∃ c, log.RefusedBy c f) ∨ (∃ infraId, f = .root (.noSubnets infraId)) ∨
      (log = [] ∧ ctx.infraId = .error f) := by
  generalize same : EgressFinding.toolingError f = finding at h
  cases EgressFinding.probed_of_run h with
  | unaimed aimed =>
    cases same
    cases aimed with
    | unequipped missing =>
      rcases missing with wrong | infra
      · rw [cloud] at wrong
        cases wrong
      · exact .inr (.inr ⟨rfl, infra⟩)
    | unlisted listed => exact .inl (refused_of_listed listed)
    | subnetless => exact .inr (.inl ⟨_, rfl⟩)
  | @verified before target aimed reply =>
    rcases reply with g | _ | endpoints
    · cases same
      exact .inl ⟨.verifyEgress target, before, rfl⟩
    · cases same
    · cases same

/-- **What an investigation needs is all that it asks for.** -/
theorem covered_of_build {d : Desk} {alert : Alert} {s s' : Dossier} {log : Log}
    (h : Resolving.Gives (d.contextFor i alert i.needs) s log (.ok ctx) s') : i.Covered ctx := by
  have equipped := equipped_of_build h
  have infra : i = .unreachable → ∃ infraId, ctx.infraId = .ok infraId := by
    rintro rfl
    exact equipped.infra rfl
  refine ⟨?_, ?_, infra, fun now => fails_steps equipped now, ?_⟩
  · cases needed : i.needs.cloud with
    | true => exact .inl ⟨rfl, equipped.cloud needed⟩
    | false => exact .inr ⟨rfl, fun _ => run_congr_of_unneeded needed ⟨rfl, rfl, rfl, rfl⟩⟩
  · intro name
    cases needed : i.needs.cloud with
    | false => exact run_congr_of_unneeded needed ⟨rfl, rfl, rfl, rfl⟩
    | true =>
      obtain ⟨client, cloud⟩ := equipped.cloud needed
      have renamed : Context.cloudClient { ctx with investigation := name } = ctx.cloudClient := by
        simp only [Context.cloudClient] at cloud ⊢
        split at cloud
        · rfl
        · cases cloud
      exact run_congr ⟨⟨rfl, rfl, rfl, rfl⟩, renamed, rfl⟩
  · intro needed log f ran
    obtain ⟨client, cloud⟩ := equipped.cloud needed
    refine (probes_of_cloud cloud ran).imp_right fun h => h.imp_right ?_
    rintro ⟨rfl, missing⟩
    cases i with
    | unreachable =>
      obtain ⟨infraId, known⟩ := infra rfl
      rw [known] at missing
      cases missing
    | provisioning => exact ⟨rfl, rfl, missing⟩
    | assisted => cases needed

end Investigation

/-! ## 3. Revoked credentials -/

/-- With the cluster on file, a context that needs no more is made without a call. -/
theorem Context.gives_build_none {alert : Alert} {settings : Settings} {analyst : Bool} {name : String}
    {s s' : Dossier} {c : Cluster} {log : Log} {r : Except ResolutionFailure Context}
    (known : s.cluster = some c) :
    Resolving.Gives (build alert settings analyst name .none) s log r s' ↔
      log = [] ∧ r = .ok ⟨alert, name, c, none, none, analyst, settings, .empty name⟩ ∧ s' = s := by
  obtain ⟨cluster, deployment, cloud⟩ := s
  cases known
  exact Inquiry.run_done_pair

namespace Desk

variable {d : Desk} {i : Investigation} {alert : Alert} {s s' : Dossier} {log : Log}

/-- With the cluster on file, revoked credentials are concluded without a call. -/
theorem gives_concludeRevoked {c : Cluster} {name : String} {f : ResolutionFailure}
    {r : Except Failure (Context × Conclusion)} (known : s.cluster = some c) :
    Filing.Gives (d.concludeRevoked alert name f) s log r s' ↔
      log = [] ∧ r = .ok (⟨alert, name, c, none, none, d.analyst, d.settings, .empty name⟩,
        Credentials.conclude f (.empty name)) ∧ s' = s := by
  obtain ⟨cluster, deployment, cloud⟩ := s
  cases known
  exact Inquiry.run_done_pair

/-- Carrying out a conclusion asks for no cloud account. -/
theorem carryOut_cloud (ctx : Context) (c : Conclusion) (cloud : Option CloudClient) :
    d.carryOut i.name { ctx with cloud } c = d.carryOut i.name ctx c := rfl

/-! ## 4. Attempts -/

/-- **No attempt asks for what was not fetched for it**, whatever the investigation, the alert, what
is on file and what the platforms answer. The investigation asks its context only for what is there.
An attempt fails by what a platform said. Where the credentials were revoked, the context without
them is always made, without a call, and neither what is concluded in it nor what is done about that
asks for the cloud account. -/
theorem needs_cover_uses (d : Desk) (i : Investigation) (alert : Alert) (s : Dossier) :
    (∀ log ctx s', Resolving.Gives (d.contextFor i alert i.needs) s log (.ok ctx) s' →
      i.Covered ctx) ∧
    (∀ (log : Log) f s', Filing.Gives (d.attempt i alert) s log (.error f) s' → log.Denied f) ∧
    ∀ log f s₁, Resolving.Gives (d.contextFor i alert i.needs) s log (.error f) s₁ →
      f.showsRevocation = true → ∃ ctx, ctx.cloud = none ∧
        (∀ l r s', Resolving.Gives (d.contextFor i alert .none) s₁ l r s' ↔
          l = [] ∧ r = .ok ctx ∧ s' = s₁) ∧
        (∀ l r s', Filing.Gives (d.concludeRevoked alert i.name f) s₁ l r s' ↔
          l = [] ∧ r = .ok (ctx, Credentials.conclude f (.empty i.name)) ∧ s' = s₁) ∧
        ∀ cloud c, d.carryOut i.name { ctx with cloud } c = d.carryOut i.name ctx c := by
  refine ⟨fun _ _ _ built => Investigation.covered_of_build built,
    fun _ _ _ run => denied_of_attempt run, ?_⟩
  intro log f s₁ built revoked
  obtain ⟨_, c, known⟩ := cloud_of_revoked built revoked
  exact ⟨_, rfl, fun _ _ _ => Context.gives_build_none known,
    fun _ _ _ => gives_concludeRevoked known, fun cloud c => carryOut_cloud _ c cloud⟩

/-- A cluster has gone missing, and its cloud account can be opened; or the credentials for it were
revoked. -/
theorem needs_cover_uses_gone_missing :
    let d := Desk.standard .standard false
    let alert : Alert := ⟨"Q1", "cluster has gone missing", .triggered, "c1"⟩
    let opened := Rehearsal.run ((d.contextFor .unreachable alert ⟨true, true⟩).run.run .empty)
      Rehearsal.standard
    let locked := Rehearsal.run ((d.contextFor .unreachable alert ⟨true, true⟩).run.run .empty)
      { Rehearsal.standard with
        faults := [(.forCluster, [some (.root (.reported "AccessDenied"))])] }
    (∃ ctx, opened.2.1.1 = .ok ctx ∧ Investigation.Covered .unreachable ctx) ∧
    ∃ f, locked.2.1.1 = .error f ∧ ∃ ctx, ctx.cloud = none ∧
      Filing.Gives (d.concludeRevoked alert Unreachable.name f) locked.2.1.2 []
        (.ok (ctx, Credentials.conclude f (.empty Unreachable.name))) locked.2.1.2 := by
  intro d alert opened locked
  have opening : Resolving.Gives (d.contextFor .unreachable alert ⟨true, true⟩) .empty opened.1
      opened.2.1.1 opened.2.1.2 := Rehearsal.resolves_played _ _ _
  have locking : Resolving.Gives (d.contextFor .unreachable alert ⟨true, true⟩) .empty locked.1
      locked.2.1.1 locked.2.1.2 := Rehearsal.resolves_played _ _ _
  have made : opened.2.1.1.toOption.isSome = true := by decide +kernel
  have revoked : ∃ f, locked.2.1.1 = .error f ∧ f.showsRevocation = true :=
    ⟨⟨.cloud, "c1", .root (.reported "AccessDenied")⟩, by rfl, by decide +kernel⟩
  clear_value opened locked
  obtain ⟨covered, _, reduced⟩ := needs_cover_uses d .unreachable alert .empty
  constructor
  · cases built : opened.2.1.1 with
    | error f =>
      rw [built] at made
      cases made
    | ok ctx =>
      rw [built] at opening
      exact ⟨ctx, rfl, covered _ _ _ opening⟩
  · obtain ⟨f, failed, shows⟩ := revoked
    rw [failed] at locking
    obtain ⟨ctx, without, _, concluded, _⟩ := reduced _ f _ locking shows
    exact ⟨f, failed, ctx, without, (concluded _ _ _).mpr ⟨rfl, rfl, rfl⟩⟩

end Desk

end OnCall
