import OnCall.Proofs.Conclusions
import OnCall.Proofs.Counters
import OnCall.Proofs.Refusals
import OnCall.Proofs.Traces

/-!
# What an attempt fails by

An attempt can go on without some answers. It fails only by a call that it cannot go on without, and
so it does when it comes to no decision.

* `Log.Denied`: a call that is needed was refused, and nothing came behind it.
* `Log.Unjudged`: the events that were found say of nobody that he stopped the machines.
* `Investigation.fails_steps`: **why the steps of an investigation fail**.
* `Desk.denied_of_attempt`, `Desk.undecided_of_attempt`: **why an attempt fails**, and why one is
  inconclusive.
* `Desk.repeatsDenied_handle`: **why an attempt is repeated**.
-/

namespace OnCall

/-! ## 1. Reasons -/

namespace Log

/-- **A call that is needed was refused**, and nothing came behind it. -/
def Denied (log : Log) (f : Failure) : Prop :=
  ∃ c g, c.isSecondary = false ∧ log.RefusedBy c g ∧ f.Bears g

/-- **Nobody can be blamed**: the last exchange told of events that do not say who stopped the
machines. -/
def Unjudged (ccs : Bool) (log : Log) (f : Failure) : Prop :=
  ∃ earlier client ids since most, ∃ events : List AuditEvent,
    log = earlier ++ [(Call.cloud client (.stopEvents ids since most)).exchange (.ok events)] ∧
      Judgement.ofEvents .standard ccs events = .error f

/-- An investigation cannot go on. -/
def Stuck (ccs : Bool) (log : Log) (f : Failure) : Prop := log.Denied f ∨ log.Unjudged ccs f

theorem Denied.append_left {log : Log} {f : Failure} (h : log.Denied f) (earlier : Log) :
    Denied (earlier ++ log) f := by
  obtain ⟨c, g, needed, refused, bears⟩ := h
  exact ⟨c, g, needed, refused.append_left earlier, bears⟩

theorem Unjudged.append_left {ccs : Bool} {log : Log} {f : Failure} (h : log.Unjudged ccs f)
    (earlier : Log) : Unjudged ccs (earlier ++ log) f := by
  obtain ⟨before, client, ids, since, most, events, rfl, judged⟩ := h
  exact ⟨earlier ++ before, client, ids, since, most, events, (List.append_assoc ..).symm, judged⟩

theorem Stuck.append_left {ccs : Bool} {log : Log} {f : Failure} (h : log.Stuck ccs f)
    (earlier : Log) : Stuck ccs (earlier ++ log) f :=
  h.imp (fun denied => denied.append_left earlier) fun unjudged => unjudged.append_left earlier

theorem atEnd_stuck (ccs : Bool) : AtEnd (Stuck ccs) := fun earlier _ _ h => h.append_left earlier

end Log

/-- An event that cannot be read is a finding. -/
theorem Actor.conclusive_of_error {e : AuditEvent} {f : Failure} (h : ofEvent e = .error f) :
    f.isConclusive = true := by
  unfold ofEvent at h
  split at h
  · cases h
    rfl
  · split at h
    · rename_i unknown
      cases h
      unfold checkVersion at unknown
      split at unknown
      · cases unknown
        rfl
      · split at unknown <;> cases unknown
        rfl
    · cases h

theorem Judgement.conclusive_of_continued {allow : Permissions} {ccs : Bool}
    {judged : Option Judgement} {events : List AuditEvent} {f : Failure}
    (h : continued allow ccs judged events = .error f) : f.isConclusive = true := by
  induction events generalizing judged with
  | nil =>
    cases judged with
    | none =>
      cases h
      rfl
    | some judgement => cases h
  | cons e events ih =>
    rw [continued] at h
    cases actor : Actor.ofEvent e with
    | error g =>
      rw [actor] at h
      cases h
      exact Actor.conclusive_of_error actor
    | ok actor' =>
      rw [actor] at h
      dsimp only at h
      split at h
      · exact ih h
      · cases h

/-- **That nobody can be blamed is a finding.** -/
theorem Log.Unjudged.conclusive {ccs : Bool} {log : Log} {f : Failure} (h : log.Unjudged ccs f) :
    f.isConclusive = true := by
  obtain ⟨_, _, _, _, _, _, _, judged⟩ := h
  exact Judgement.conclusive_of_continued judged

/-! ## 2. Investigations -/

namespace Restriction

theorem failsBy_deleteAll {policy : RetryPolicy} {clusterId : String} (ids : List String) :
    (deleteAll policy clusterId ids).FailsBy fun c => c.isSecondary = false := by
  induction ids with
  | nil => exact Fallible.failsBy_pure _
  | cons id ids ih =>
    exact Fallible.failsBy_bind (Fallible.failsBy_retried (Fallible.failsBy_call rfl)) fun _ => ih

/-- Lifting needs every answer. -/
theorem failsBy_lift (s : Settings) (cluster : Cluster) (r : Restriction) (now : Instant) :
    (lift s cluster r now).FailsBy fun c => c.isSecondary = false := by
  unfold lift changesWithin
  refine Fallible.failsBy_bind (Fallible.failsBy_bind (Fallible.failsBy_call rfl) fun _ =>
    Fallible.failsBy_pure _) fun changes => ?_
  split
  · exact Fallible.failsBy_pure _
  · refine Fallible.failsBy_bind (Fallible.failsBy_call rfl) fun listed => ?_
    dsimp only
    split
    · exact Fallible.failsBy_pure _
    · exact Fallible.failsBy_bind (failsBy_deleteAll _) fun _ => Fallible.failsBy_pure _

end Restriction

/-- What is required fails by a call that is needed. -/
theorem Inquiry.stuck_require {α : Type} {ccs : Bool} {text : String} {y : Fallible α}
    (h : y.FailsBy fun c => c.isSecondary = false) : (require text y).Fails (Log.Stuck ccs) :=
  fails_require h fun _ c _ g needed refused bears => .inl ⟨c, g, needed, refused, bears⟩

namespace Unreachable

variable {ctx : Context} {now : Instant} {client : CloudClient} {infraId : String}

theorem fails_inspect (cloud : ctx.cloudClient = .ok client) (infra : ctx.infraId = .ok infraId) :
    (inspect ctx now).Fails (Log.Stuck ctx.cluster.ccs) := by
  have ends := Log.atEnd_stuck ctx.cluster.ccs
  have required {text : String} {c : Call} (needed : c.isSecondary = false) :
      (Inquiry.require text (Work.call c)).Fails (Log.Stuck ctx.cluster.ccs) :=
    Inquiry.stuck_require (Fallible.failsBy_call needed)
  unfold inspect
  refine Inquiry.fails_ofExcept_bind cloud (Inquiry.fails_ofExcept_bind infra ?_)
  refine Inquiry.fails_bind ends (required rfl) fun stopped => ?_
  refine Inquiry.fails_bind ends (required rfl) fun running => ?_
  refine Inquiry.fails_bind ends (required rfl) fun expected => ?_
  split
  · exact Inquiry.fails_pure _
  · refine Inquiry.fails_bind_run (required rfl) fun n log events n₁ asked => ?_
    -- the events are the last that is asked for
    obtain ⟨told, _⟩ := Inquiry.gives_require_ok.mp asked
    rw [Fallible.gives_call.mp told]
    intro n₂ rest f n₃ failed
    rcases Inquiry.gives_bind.mp failed with ⟨_, _, _, _, _, _, wrong⟩ | ⟨g, same, judged⟩
    · cases (Inquiry.gives_pure.mp wrong).2.1
    · cases same
      obtain ⟨rfl, judged, _⟩ := Inquiry.gives_ofExcept.mp judged
      exact .inr ⟨[], client, _, _, _, events, rfl, judged.symm⟩

variable {R : Log → Failure → Prop}

theorem fails_noteHibernation (ends : Log.AtEnd R) : (noteHibernation ctx now).Fails R := by
  refine Inquiry.fails_bind ends (Inquiry.fails_attempt _) fun r => ?_
  split
  · dsimp only
    split
    · exact Inquiry.fails_note _ _
    · exact Inquiry.fails_pure _
  · exact Inquiry.fails_note _ _

theorem fails_concludeByEgress (ends : Log.AtEnd R) : (concludeByEgress ctx).Fails R := by
  refine Inquiry.fails_bind ends (Inquiry.fails_liftM _) fun finding => ?_
  split
  · exact Inquiry.fails_note_bind Inquiry.fails_finish
  · split
    · exact Inquiry.fails_note_bind (Inquiry.fails_note_bind Inquiry.fails_finish)
    · exact Inquiry.fails_note_bind (Inquiry.fails_note_bind Inquiry.fails_finish)
  · exact Inquiry.fails_note_bind Inquiry.fails_finish

/-- Once the instances and the events are known, nothing fails. -/
theorem fails_triggered (cloud : ctx.cloudClient = .ok client) (infra : ctx.infraId = .ok infraId) :
    (triggered ctx now).Fails (Log.Stuck ctx.cluster.ccs) := by
  have ends := Log.atEnd_stuck ctx.cluster.ccs
  have rest : Inquiry.Fails (Log.Stuck ctx.cluster.ccs) (do
      noteHibernation ctx now
      concludeByEgress ctx) :=
    Inquiry.fails_bind ends (fails_noteHibernation ends) fun _ => fails_concludeByEgress ends
  refine Inquiry.fails_bind ends (fails_inspect cloud infra) fun found => ?_
  refine Inquiry.fails_note_bind ?_
  dsimp only
  split
  · exact Inquiry.fails_note_bind rest
  · exact Inquiry.fails_note_bind rest
  · exact Inquiry.fails_note_bind (Inquiry.fails_note_bind Inquiry.fails_finish)

theorem fails_liftOne (ccs : Bool) (change : Restriction.Change) :
    (liftOne ctx now change).Fails (Log.Stuck ccs) := by
  refine Inquiry.fails_bind (Log.atEnd_stuck ccs)
    (Inquiry.stuck_require (Restriction.failsBy_lift _ _ _ _)) fun lifted => ?_
  split
  · exact Inquiry.fails_bind (Log.atEnd_stuck ccs) (Inquiry.fails_liftM _) fun _ =>
      Inquiry.fails_note_bind (Inquiry.fails_pure _)
  · exact Inquiry.fails_note_bind (Inquiry.fails_pure _)
  · exact Inquiry.fails_pure _

theorem fails_recovered (ccs : Bool) (cloud : ctx.cloudClient = .ok client)
    (infra : ctx.infraId = .ok infraId) : (recovered ctx now).Fails (Log.Stuck ccs) := by
  have ends := Log.atEnd_stuck ccs
  have required {text : String} {c : Call} (needed : c.isSecondary = false) :
      (Inquiry.require text (Work.call c)).Fails (Log.Stuck ccs) :=
    Inquiry.stuck_require (Fallible.failsBy_call needed)
  unfold recovered
  refine Inquiry.fails_ofExcept_bind cloud (Inquiry.fails_ofExcept_bind infra ?_)
  refine Inquiry.fails_bind ends (required rfl) fun running => ?_
  refine Inquiry.fails_bind ends (required rfl) fun expected => ?_
  split
  · exact Inquiry.fails_note_bind Inquiry.fails_finish
  · refine Inquiry.fails_note_bind ?_
    refine Inquiry.fails_bind ends (fails_liftOne ccs _) fun stoppedFlaps => ?_
    refine Inquiry.fails_bind ends (fails_liftOne ccs _) fun egressFlaps => ?_
    split
    · exact Inquiry.fails_finish
    · exact Inquiry.fails_finish

end Unreachable

namespace Provisioning

variable {ctx : Context} {client : CloudClient} {ccs : Bool}

theorem fails_withoutRoute (subnetIds : List String) :
    (withoutRoute client subnetIds).Fails (Log.Stuck ccs) := by
  induction subnetIds with
  | nil => exact Inquiry.fails_pure _
  | cons subnet others ih =>
    refine Inquiry.fails_bind (Log.atEnd_stuck ccs)
      (Inquiry.stuck_require (Fallible.failsBy_call rfl)) fun tables => ?_
    exact Inquiry.fails_bind (Log.atEnd_stuck ccs) ih fun _ => Inquiry.fails_pure _

theorem fails_unroutedSubnets (cloud : ctx.cloudClient = .ok client) :
    (unroutedSubnets ctx).Fails (Log.Stuck ccs) := by
  unfold unroutedSubnets
  split
  · exact Inquiry.fails_pure _
  · refine Inquiry.fails_ofExcept_bind cloud ?_
    refine Inquiry.fails_bind (Log.atEnd_stuck ccs) (fails_withoutRoute _) fun missing => ?_
    dsimp only
    split
    · exact Inquiry.fails_note_bind (Inquiry.fails_pure _)
    · exact Inquiry.fails_pure _

variable {R : Log → Failure → Prop}

theorem fails_noteAccessProtection (ends : Log.AtEnd R) : (noteAccessProtection ctx).Fails R := by
  refine Inquiry.fails_bind ends (Inquiry.fails_attempt _) fun r => ?_
  split
  · exact Inquiry.fails_note _ _
  · exact Inquiry.fails_pure _
  · exact Inquiry.fails_note _ _

theorem fails_concludeByEgress (ends : Log.AtEnd R) : (concludeByEgress ctx).Fails R := by
  refine Inquiry.fails_bind ends (Inquiry.fails_liftM _) fun finding => ?_
  split <;> exact Inquiry.fails_note_bind Inquiry.fails_finish

theorem fails_run (cloud : ctx.cloudClient = .ok client) : (run ctx).Fails (Log.Stuck ccs) := by
  have ends := Log.atEnd_stuck ccs
  unfold run
  split
  · exact Inquiry.fails_note_bind Inquiry.fails_finish
  · refine Inquiry.fails_note_bind ?_
    refine Inquiry.fails_bind ends (fails_noteAccessProtection ends) fun _ => ?_
    refine Inquiry.fails_bind ends (fails_unroutedSubnets cloud) fun missing => ?_
    split
    · exact fails_concludeByEgress ends
    · exact Inquiry.fails_note_bind Inquiry.fails_finish

end Provisioning

/-- The assisted investigation needs no answer. -/
theorem Assisted.fails_run {ctx : Context} {R : Log → Failure → Prop} (ends : Log.AtEnd R) :
    (run ctx).Fails R := by
  unfold run
  split
  · refine Inquiry.fails_bind ends (Inquiry.fails_attempt _) fun organization => ?_
    refine Inquiry.fails_bind ends Inquiry.fails_get fun notes => ?_
    refine Inquiry.fails_bind ends ?_ fun _ => Inquiry.fails_finish
    refine Inquiry.fails_bind ends (Inquiry.fails_liftM _) fun answer => ?_
    split
    · split <;> exact Inquiry.fails_note _ _
    · exact Inquiry.fails_note _ _
  · exact Inquiry.fails_note_bind Inquiry.fails_finish

namespace Investigation

/-- What an investigation needs before it starts is there. -/
structure Equipped (i : Investigation) (ctx : Context) : Prop where
  cloud : i.needs.cloud = true → ∃ client, ctx.cloudClient = .ok client
  infra : i.needs.deployment = true → ∃ infraId, ctx.infraId = .ok infraId

variable {i : Investigation} {ctx : Context}

/-- **Why the steps of an investigation fail.** -/
theorem fails_steps (equipped : i.Equipped ctx) (now : Instant) :
    (i.steps ctx now).Fails (Log.Stuck ctx.cluster.ccs) := by
  cases i with
  | unreachable =>
    obtain ⟨client, cloud⟩ := equipped.cloud rfl
    obtain ⟨infraId, infra⟩ := equipped.infra rfl
    show Inquiry.Fails _ (if ctx.alert.hasCleared then Unreachable.recovered ctx now
      else Unreachable.triggered ctx now)
    split
    · exact Unreachable.fails_recovered _ cloud infra
    · exact Unreachable.fails_triggered cloud infra
  | provisioning =>
    obtain ⟨client, cloud⟩ := equipped.cloud rfl
    exact Provisioning.fails_run cloud
  | assisted => exact Assisted.fails_run (Log.atEnd_stuck _)

end Investigation

/-! ## 3. Conclusions of the steps -/

/-- The conclusion does not say that the investigation was inconclusive. -/
def Conclusion.Decided (c : Conclusion) : Prop :=
  c.routing ≠ .escalate "investigation was inconclusive"

theorem Conclusion.decided_escalate {note reason : String} {sides : List SideAction}
    (other : reason ≠ "investigation was inconclusive") :
    Decided ⟨note, sides, .escalate reason⟩ :=
  fun same => other (Routing.escalate.inj same)

theorem Conclusion.decided_silence {note reason : String} {sides : List SideAction} :
    Decided ⟨note, sides, .silence reason⟩ := nofun

/-- Whatever the inquiry concludes, it is a decision. -/
abbrev Inquiry.Decides (x : Inquiry Conclusion) : Prop := x.Concludes fun _ c => c.Decided

theorem Conclusion.covers_decided : Covers fun _ c => c.Decided where
  escalate := fun _ _ => decided_escalate
  silence := fun _ _ => decided_silence
  restrict := fun _ _ _ _ => decided_silence
  advise := fun _ _ _ => decided_escalate

theorem Investigation.decides_steps (i : Investigation) (ctx : Context) (now : Instant) :
    (i.steps ctx now).Decides :=
  i.concludes_steps ctx now Conclusion.covers_decided

/-! ## 4. Runs of an investigation -/

namespace Investigation

variable {i : Investigation} {ctx : Context} {n n' : Notes} {log : Log}

/-- **How an investigation ends**: as its steps do, or inconclusively after a finding. -/
theorem gives_run {r : Except Failure Conclusion} (h : Inquiry.Gives (i.run ctx) n log r n') :
    ∃ now rest n₁, log = ⟨Ask.now, now⟩ :: rest ∧
      (((∃ c, r = .ok c) ∨ ∃ f, r = .error f ∧ f.isConclusive = false) ∧
          Inquiry.Gives (i.steps ctx now) n rest r n₁ ∨
        ∃ f, f.isConclusive = true ∧ Inquiry.Gives (i.steps ctx now) n rest (.error f) n₁ ∧
          r = .ok ((Conclusion.Draft.ofNotes (n₁.add .warning f.full)).escalate
            "investigation was inconclusive")) := by
  obtain ⟨now, rest, r₀, n₁, rfl, ran, settled⟩ := gives_run_iff.mp h
  refine ⟨now, rest, n₁, rfl, ?_⟩
  cases r₀ with
  | ok c =>
    cases settled
    exact .inl ⟨.inl ⟨c, rfl⟩, ran⟩
  | error f =>
    cases kind : f.isConclusive with
    | true =>
      rw [settle_finding kind] at settled
      cases settled
      exact .inr ⟨f, kind, ran, rfl⟩
    | false =>
      rw [settle_other kind] at settled
      cases settled
      exact .inl ⟨.inr ⟨f, rfl, kind⟩, ran⟩

/-- **Why an investigation fails.** -/
theorem denied_of_run (equipped : i.Equipped ctx) {f : Failure}
    (h : Inquiry.Gives (i.run ctx) n log (.error f) n') : log.Denied f := by
  obtain ⟨now, rest, n₁, rfl, ⟨⟨_, wrong⟩ | ⟨_, same, transient⟩, ran⟩ | ⟨_, _, _, wrong⟩⟩ :=
    gives_run h
  · cases wrong
  · cases same
    rcases fails_steps equipped now _ _ _ _ ran with denied | unjudged
    · exact denied.append_left [_]
    · rw [unjudged.conclusive] at transient
      cases transient
  · cases wrong

/-- **Why an investigation is inconclusive.** -/
theorem undecided_of_run (equipped : i.Equipped ctx) {c : Conclusion}
    (h : Inquiry.Gives (i.run ctx) n log (.ok c) n') (undecided : ¬ c.Decided) :
    ∃ f, f.isConclusive = true ∧ log.Stuck ctx.cluster.ccs f := by
  obtain ⟨now, rest, n₁, rfl, ⟨_, ran⟩ | ⟨f, finding, ran, _⟩⟩ := gives_run h
  · exact absurd (decides_steps i ctx now _ _ _ _ ran) undecided
  · exact ⟨f, finding, (fails_steps equipped now _ _ _ _ ran).append_left [_]⟩

/-- What an investigation asks for is in its context. -/
theorem equipped_of_build {d : Desk} {alert : Alert} {s s' : Dossier}
    (h : Resolving.Gives (d.contextFor i alert i.needs) s log (.ok ctx) s') : i.Equipped ctx := by
  obtain ⟨_, _, l₁, l₂, l₃, d₁, d₂, rfl, _, deployed, opened⟩ := Context.gives_build_ok h
  constructor
  · intro needed
    rw [needed] at opened
    obtain ⟨client, known⟩ := Resolving.exists_of_needed opened
    exact ⟨client, by rw [Context.cloudClient, known]⟩
  · intro needed
    rw [needed] at deployed
    obtain ⟨v, known⟩ := Resolving.exists_of_needed deployed
    exact ⟨v.infraId, by rw [Context.infraId, known]; rfl⟩

end Investigation

/-! ## 5. Attempts -/

namespace Resolving

variable {α β : Type} {x : Resolving α} {f : α → Resolving β} {P : Call → Prop}

/-- The program fails by a call of this kind that was refused, and by nothing else. -/
def FailsBy (P : Call → Prop) (x : Resolving α) : Prop :=
  ∀ d log f d', Gives x d log (.error f) d' → ∃ c, P c ∧ log.RefusedBy c f.raw

theorem failsBy_pure (a : α) : FailsBy P (pure a : Resolving α) := by
  intro d log e d' h
  cases (gives_pure.mp h).2.1

theorem failsBy_bind (hx : FailsBy P x) (hf : ∀ a, FailsBy P (f a)) : FailsBy P (x >>= f) := by
  intro d log e d' h
  rcases gives_bind.mp h with ⟨first, a, d₁, second, rfl, _, failed⟩ | ⟨e', same, failed⟩
  · obtain ⟨c, kind, refused⟩ := hf a _ _ _ _ failed
    exact ⟨c, kind, refused.append_left first⟩
  · cases same
    exact hx _ _ _ _ failed

theorem failsBy_cached {look : Dossier → Option α} {keep : α → Dossier → Dossier}
    {resource : Resource} {id : String} {y : Fallible α} (hy : y.FailsBy P) :
    FailsBy P (cached look keep resource id y) :=
  fun _ _ _ _ h => hy _ _ (error_of_cached h).2

theorem failsBy_ifNeeded {needed : Bool} (hx : FailsBy P x) : FailsBy P (ifNeeded needed x) :=
  fun _ _ _ _ h => hx _ _ _ _ (error_of_ifNeeded h).2

variable {alert : Alert} {settings : Settings} {analyst : Bool} {name : String}
  {needs : Requirements}

theorem failsBy_cluster : (Resolving.cluster alert).FailsBy fun c => c.isSecondary = false := by
  rw [cluster_eq_cached]
  exact failsBy_cached (Fallible.failsBy_call rfl)

/-- A context is not made for want of an answer that is needed. -/
theorem failsBy_build :
    (Context.build alert settings analyst name needs).FailsBy fun c => c.isSecondary = false := by
  have deployed : (Resolving.deployment alert).FailsBy fun c => c.isSecondary = false := by
    rw [deployment_eq_cached]
    exact failsBy_bind failsBy_cluster fun _ => failsBy_cached (Fallible.failsBy_call rfl)
  have opened : (Resolving.cloud alert).FailsBy fun c => c.isSecondary = false := by
    rw [cloud_eq_cached]
    exact failsBy_bind failsBy_cluster fun _ => failsBy_cached (Fallible.failsBy_call rfl)
  rw [Context.build_eq]
  refine failsBy_bind failsBy_cluster fun _ => failsBy_bind (failsBy_ifNeeded deployed) fun _ => ?_
  exact failsBy_bind (failsBy_ifNeeded opened) fun _ => failsBy_pure _

end Resolving

namespace Desk

variable {d : Desk} {i : Investigation} {alert : Alert} {s s' : Dossier} {log : Log}

theorem denied_of_context {needs : Requirements} {f : ResolutionFailure}
    (h : Resolving.Gives (d.contextFor i alert needs) s log (.error f) s') :
    log.Denied (unresolved f) := by
  obtain ⟨c, needed, refused⟩ := Resolving.failsBy_build _ _ _ _ h
  exact ⟨c, f.raw, needed, refused,
    (Failure.Bears.asInfrastructure _ f.failure).trans (.context f.message f.raw)⟩

/-- **Why an attempt fails**: a call that is needed was refused. -/
theorem denied_of_attempt {f : Failure} (run : Filing.Gives (d.attempt i alert) s log (.error f) s') :
    log.Denied f := by
  rcases gives_attempt run with ⟨ctx, l₁, l₂, g | c, notes, rfl, built, ran, same⟩ |
    ⟨_, l₁, l₂, s₁, g | ctx, rfl, _, _, rebuilt, same⟩ | ⟨g, built, same⟩
  · cases same
    exact (Investigation.denied_of_run (Investigation.equipped_of_build built) ran).append_left l₁
  · cases same
  · cases same
    exact (denied_of_context rebuilt).append_left l₁
  · cases same
  · cases same
    exact denied_of_context built

/-- **Why an attempt is inconclusive**: a call that is needed was refused, or nobody can be blamed;
and that is a finding. -/
theorem undecided_of_attempt {ctx : Context} {c : Conclusion}
    (run : Filing.Gives (d.attempt i alert) s log (.ok (ctx, c)) s') (undecided : ¬ c.Decided) :
    ∃ f, f.isConclusive = true ∧ log.Stuck ctx.cluster.ccs f := by
  rcases gives_attempt_ok run with ⟨l₁, l₂, notes, rfl, built, ran⟩ | ⟨_, _, _, _, _, _, _, _, rfl⟩
  · obtain ⟨f, finding, stuck⟩ :=
      Investigation.undecided_of_run (Investigation.equipped_of_build built) ran undecided
    exact ⟨f, finding, stuck.append_left l₁⟩
  · exact absurd Conclusion.decided_silence undecided

/-! ## 6. Repetitions -/

/-- The exchange counts a repetition only directly behind a call that is needed and was refused. -/
def RepeatsDenied (before : Log) (e : Exchange collaboration) (_ : Log) : Prop :=
  e.counted? = some .infrastructureRetries → ∃ f, before.Denied f

theorem local_repeatsDenied : Log.Local RepeatsDenied := by
  intro before e _ earlier _ h repeats
  obtain ⟨f, denied⟩ := h repeats
  exact ⟨f, denied.append_left earlier⟩

/-- Where no repetition is counted. -/
theorem repeatsDenied_of_accounted {handled : Nat} (h : Accounted handled 0 log) :
    Log.Everywhere RepeatsDenied log := by
  rintro before e behind rfl repeats
  have none' := List.count_eq_zero.mp h.repeated
  exact absurd (List.mem_filterMap.mpr ⟨e, by simp, repeats⟩) none'

/-- **An attempt is repeated only after a call that is needed was refused.** -/
theorem repeatsDenied_attempts {n : Nat}
    (tries : Retries (Filing.Gives (d.attempt i alert)) Repeating n s log s') :
    Log.Everywhere RepeatsDenied log := by
  induction tries with
  | none => exact Log.everywhere_nil
  | @more _ _ _ _ first mid rest f failed next _ ih =>
    obtain ⟨_, span, rfl⟩ := next
    rw [← List.append_assoc]
    refine Log.everywhere_append local_repeatsDenied ?_ ih
    -- the count stands directly behind the attempt that failed
    refine Log.everywhere_append_iff.mpr
      ⟨repeatsDenied_of_accounted (accounted_attempt failed), ?_⟩
    refine Log.everywhere_cons.mpr ⟨fun _ => ⟨f, ?_⟩, Log.everywhere_singleton.mpr nofun⟩
    rw [List.append_nil]
    exact denied_of_attempt failed

/-- **Why an attempt is repeated**, while an alert is handled. -/
theorem repeatsDenied_handle {r : Except Failure Outcome}
    (run : Fallible.Gives (d.handle alert) log r) : Log.Everywhere RepeatsDenied log := by
  obtain ⟨rest, rfl, ⟨_, fell⟩ | ⟨i, found, tries, res, s, carried, rfl, tried, ended⟩⟩ :=
    gives_handle run
  · exact repeatsDenied_of_accounted (accounted_begin.append (accounted_fallBack fell))
  · obtain ⟨n, earlier, s₁, last, _, rfl, failed, counts, _⟩ := gives_attempts tried
    have behind : Accounted 0 0 carried := by
      rcases ended with ⟨ctx, c, _, ran⟩ | ⟨f, _, ran⟩
      · exact accounted_carryOut ran
      · exact accounted_fallBack ran
    refine Log.everywhere_append local_repeatsDenied (repeatsDenied_of_accounted accounted_begin) ?_
    refine Log.everywhere_append local_repeatsDenied ?_ (repeatsDenied_of_accounted behind)
    exact Log.everywhere_append local_repeatsDenied (repeatsDenied_attempts failed)
      (repeatsDenied_of_accounted (accounted_attempt counts))

end Desk

end OnCall
