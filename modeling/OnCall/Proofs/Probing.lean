import OnCall.Proofs.Attempts

/-!
# Where the egress is probed

Both investigations that probe the egress do so at their end, when nothing else has decided.

* `EgressFinding.Aimed`, `EgressFinding.Probed`: what a probe asks for, and what it comes to.
* `Exchange.StopsProbe`: an answer by which there is no verdict.
* `Probing`: a run that does not probe, or ends with a probe; if that came to no verdict, this is
  noted and a person is paged.
* `Investigation.probes_run`, `Desk.probes_attempt`: **every run is one of these**.
* `Desk.unprobed_of_attempt`, `Desk.grouped_of_attempt`: what a failing verifier, a failing lookup of
  the subnets and a failing lookup of the security group come to.
-/

namespace OnCall

/-! ## 1. Probes -/

namespace EgressFinding

/-- The subnets of a cluster: the customer's, or what is answered when there are none. -/
inductive Listed (ctx : Context) (client : CloudClient) (infraId : String) :
    Log → Except Failure (List String) → Prop where
  | own (some' : ctx.cluster.subnetIds ≠ []) : Listed ctx client infraId [] (.ok ctx.cluster.subnetIds)
  | looked (none' : ctx.cluster.subnetIds = []) (reply : Except Failure (List String)) :
      Listed ctx client infraId [(Call.cloud client (.subnets infraId)).exchange reply] reply

/-- **Where to probe**, and what was asked for to know it. A security group that could not be found
is left out of the target, and nothing else. -/
inductive Aimed (ctx : Context) : Log → Except Failure EgressTarget → Prop where
  | unequipped {f : Failure} (missing : ctx.cloudClient = .error f ∨ ctx.infraId = .error f) :
      Aimed ctx [] (.error f)
  | unlisted {client : CloudClient} {infraId : String} {log : Log} {f : Failure}
      (listed : Listed ctx client infraId log (.error f)) : Aimed ctx log (.error f)
  | subnetless {client : CloudClient} {infraId : String} {log : Log}
      (listed : Listed ctx client infraId log (.ok [])) :
      Aimed ctx log (.error (.root (.noSubnets infraId)))
  | chosen {client : CloudClient} {infraId : String} {log : Log} {subnetIds : List String}
      (listed : Listed ctx client infraId log (.ok subnetIds)) (some' : subnetIds ≠ [])
      (group : Except Failure String) :
      Aimed ctx (log ++ [(Call.cloud client (.securityGroup infraId)).exchange group])
        (.ok ⟨ctx.cluster.id, ctx.cluster.region, subnetIds, group.toOption, ctx.cluster.hosted⟩)

/-- What an answer of the verifier comes to. -/
def ofReply : Except Failure EgressReport → EgressFinding
  | .ok .success => .passed
  | .ok (.failure endpoints) => .blocked endpoints
  | .error f => .toolingError f

/-- **A probe**: there is nowhere to probe, or the verifier is asked last. -/
inductive Probed (ctx : Context) : Log → EgressFinding → Prop where
  | unaimed {log : Log} {f : Failure} (aimed : Aimed ctx log (.error f)) :
      Probed ctx log (.toolingError f)
  | verified {log : Log} {target : EgressTarget} (aimed : Aimed ctx log (.ok target))
      (reply : Except Failure EgressReport) :
      Probed ctx (log ++ [(Call.verifyEgress target).exchange reply]) (ofReply reply)

variable {ctx : Context} {log : Log}

/-- The target among subnets that are known. -/
def targetAmong (ctx : Context) (client : CloudClient) (infraId : String) (subnetIds : List String) :
    Fallible EgressTarget := do
  if subnetIds.isEmpty then throw (.root (.noSubnets infraId))
  let group ← liftM (n := Fallible) (Work.securityGroup client infraId).run
  return ⟨ctx.cluster.id, ctx.cluster.region, subnetIds, group.toOption, ctx.cluster.hosted⟩

theorem aimed_of_targetAmong {client : CloudClient} {infraId : String} {subnetIds : List String}
    {listed : Log} {r : Except Failure EgressTarget}
    (known : Listed ctx client infraId listed (.ok subnetIds))
    (h : Fallible.Gives (targetAmong ctx client infraId subnetIds) log r) :
    Aimed ctx (listed ++ log) r := by
  unfold targetAmong at h
  split at h
  · rename_i none'
    obtain rfl := List.isEmpty_iff.mp none'
    rcases Fallible.gives_bind.mp h with ⟨_, _, _, _, thrown, _⟩ | ⟨f, rfl, thrown⟩
    · cases (Fallible.gives_throw.mp thrown).2
    · obtain ⟨rfl, same⟩ := Fallible.gives_throw.mp thrown
      cases same
      rw [List.append_nil]
      exact .subnetless known
  · rename_i some'
    rcases Fallible.gives_bind.mp h with ⟨l₁, group, l₂, rfl, asked, ended⟩ | ⟨f, _, asked⟩
    · obtain ⟨rfl, rfl⟩ := Fallible.gives_pure.mp ended
      obtain ⟨_, called, same⟩ := Fallible.gives_liftM.mp asked
      cases same
      rw [Program.run_request.mp called, List.append_nil]
      exact .chosen known (fun none' => some' (List.isEmpty_iff.mpr none')) group
    · obtain ⟨_, _, wrong⟩ := Fallible.gives_liftM.mp asked
      cases wrong

theorem aimed_of_target {r : Except Failure EgressTarget}
    (h : Fallible.Gives (target ctx) log r) : Aimed ctx log r := by
  unfold target at h
  cases cloud : ctx.cloudClient with
  | error f =>
    rw [cloud] at h
    obtain ⟨rfl, rfl⟩ := Fallible.gives_throw.mp h
    exact .unequipped (.inl cloud)
  | ok client =>
    rw [cloud] at h
    cases infra : ctx.infraId with
    | error f =>
      rw [infra] at h
      obtain ⟨rfl, rfl⟩ := Fallible.gives_throw.mp h
      exact .unequipped (.inr infra)
    | ok infraId =>
      rw [infra] at h
      change Fallible.Gives (if ctx.cluster.subnetIds.isEmpty then
          Work.subnets client infraId >>= targetAmong ctx client infraId
        else pure ctx.cluster.subnetIds >>= targetAmong ctx client infraId) log r at h
      split at h
      · rename_i none'
        have none' := List.isEmpty_iff.mp none'
        rcases Fallible.gives_bind.mp h with ⟨l₁, subnetIds, l₂, rfl, asked, h₁⟩ | ⟨f, rfl, asked⟩
        · rw [Fallible.gives_call.mp asked]
          exact aimed_of_targetAmong (.looked none' _) h₁
        · rw [Fallible.gives_call.mp asked]
          exact .unlisted (.looked none' _)
      · rename_i some'
        exact aimed_of_targetAmong (.own fun none' => some' (List.isEmpty_iff.mpr none')) h

theorem probed_of_run {finding : EgressFinding}
    (h : Program.Run (EgressFinding.run ctx) log finding) : Probed ctx log finding := by
  obtain ⟨first, r, second, rfl, probed, ended⟩ := Program.run_bind.mp h
  have done : second = [] ∧ finding = ofReply r := by
    rcases r with f | _ | endpoints <;> exact Program.run_done.mp ended
  obtain ⟨rfl, rfl⟩ := done
  rw [List.append_nil]
  rcases Fallible.gives_bind.mp probed with ⟨l₁, target, l₂, rfl, aimed, asked⟩ | ⟨f, rfl, aimed⟩
  · rw [Fallible.gives_call.mp asked]
    exact .verified (aimed_of_target aimed) r
  · exact .unaimed (aimed_of_target aimed)

end EgressFinding

/-! ## 2. Probes without a verdict -/

/-- **An answer by which there is no verdict**, and what is said of it: the verifier failed, or the
lookup of the subnets did, or it found none. -/
inductive Exchange.StopsProbe : Exchange collaboration → Failure → Prop where
  | unverified (target : EgressTarget) (f : Failure) :
      StopsProbe ((Call.verifyEgress target).exchange (.error f)) f
  | unlisted (client : CloudClient) (infraId : String) (f : Failure) :
      StopsProbe ((Call.cloud client (.subnets infraId)).exchange (.error f)) f
  | subnetless (client : CloudClient) (infraId : String) :
      StopsProbe ((Call.cloud client (.subnets infraId)).exchange (.ok []))
        (.root (.noSubnets infraId))

namespace EgressFinding

variable {ctx : Context} {log : Log} {e : Exchange collaboration} {f : Failure}

theorem Listed.of_stops {client : CloudClient} {infraId : String}
    {r : Except Failure (List String)} (h : Listed ctx client infraId log r) (mem : e ∈ log)
    (stops : e.StopsProbe f) : r = .error f ∨ r = .ok [] ∧ f = .root (.noSubnets infraId) := by
  cases h with
  | own => cases mem
  | looked none' reply =>
    have same := List.mem_singleton.mp mem
    cases stops with
    | unverified => cases same
    | unlisted =>
      cases same
      exact .inl rfl
    | subnetless =>
      cases same
      exact .inr ⟨rfl, rfl⟩

theorem Aimed.of_stops {r : Except Failure EgressTarget} (h : Aimed ctx log r) (mem : e ∈ log)
    (stops : e.StopsProbe f) : r = .error f := by
  cases h with
  | unequipped => cases mem
  | unlisted listed =>
    rcases listed.of_stops mem stops with same | ⟨wrong, _⟩
    · cases same
      rfl
    · cases wrong
  | subnetless listed =>
    rcases listed.of_stops mem stops with wrong | ⟨_, same⟩
    · cases wrong
    · rw [same]
  | chosen listed some' group =>
    rcases List.mem_append.mp mem with mem | mem
    · rcases listed.of_stops mem stops with wrong | ⟨none', _⟩
      · cases wrong
      · exact absurd (Except.ok.inj none') some'
    · have same := List.mem_singleton.mp mem
      cases stops <;> cases same

/-- **What stops a probe is what it comes to.** -/
theorem Probed.of_stops {finding : EgressFinding} (h : Probed ctx log finding) (mem : e ∈ log)
    (stops : e.StopsProbe f) : finding = .toolingError f := by
  cases h with
  | unaimed aimed =>
    cases aimed.of_stops mem stops
    rfl
  | verified aimed reply =>
    rcases List.mem_append.mp mem with mem | mem
    · cases aimed.of_stops mem stops
    · have same := List.mem_singleton.mp mem
      cases stops with
      | unverified =>
        cases same
        rfl
      | unlisted => cases same
      | subnetless => cases same

/-- **Behind the lookup of the security group the verifier is asked**, with what was found, or
without it. -/
theorem Probed.of_group {finding : EgressFinding} (h : Probed ctx log finding)
    {client : CloudClient} {infraId : String} {group : Except Failure String}
    (mem : (Call.cloud client (.securityGroup infraId)).exchange group ∈ log) :
    ∃ listed subnetIds reply, Listed ctx client infraId listed (.ok subnetIds) ∧
      log = listed ++ [(Call.cloud client (.securityGroup infraId)).exchange group,
        (Call.verifyEgress ⟨ctx.cluster.id, ctx.cluster.region, subnetIds, group.toOption,
          ctx.cluster.hosted⟩).exchange reply] := by
  have unlisted {client' : CloudClient} {infraId' : String} {l : Log}
      {r : Except Failure (List String)} (listed : Listed ctx client' infraId' l r) :
      (Call.cloud client (.securityGroup infraId)).exchange group ∉ l := by
    intro mem
    cases listed with
    | own => cases mem
    | looked => cases List.mem_singleton.mp mem
  cases h with
  | unaimed aimed =>
    cases aimed with
    | unequipped => cases mem
    | unlisted listed => exact absurd mem (unlisted listed)
    | subnetless listed => exact absurd mem (unlisted listed)
  | verified aimed reply =>
    rcases List.mem_append.mp mem with aiming | verifying
    · cases aimed with
      | chosen listed some' group' =>
        rcases List.mem_append.mp aiming with listing | grouping
        · exact absurd listing (unlisted listed)
        · cases List.mem_singleton.mp grouping
          exact ⟨_, _, reply, listed, List.append_assoc ..⟩
    · cases List.mem_singleton.mp verifying

end EgressFinding

/-! ## 3. Investigations -/

/-- The request has nothing to do with a probe. -/
def Ask.Unprobing : Ask → Prop
  | .call c => c.kind ≠ .egress
  | _ => True

theorem Ask.unprobing_of_kind {c : Call} {kind : CallKind} (other : kind ≠ .egress)
    (same : c.kind = kind) : Ask.Unprobing (.call c) := by
  rw [Unprobing, same]
  exact other

/-- The conclusion when a probe came to no verdict. -/
def Conclusion.unprobed (notes : Notes) (f : Failure) : Conclusion where
  note := (notes.add .warning ("Network egress verification could not run: " ++ f.full)).render
  sideActions := []
  routing := .escalate "no automated remediation available"

/-- **A run that does not probe, or ends with a probe.** If that came to no verdict, this is noted and
a person is paged. -/
inductive Probing (ctx : Context) (log : Log) (r : Except Failure Conclusion) : Prop where
  | without (quiet : ∀ e ∈ log, Ask.Unprobing e.request)
  | last {before probe : Log} {finding : EgressFinding} (parts : log = before ++ probe)
      (quiet : ∀ e ∈ before, Ask.Unprobing e.request)
      (probed : EgressFinding.Probed ctx probe finding)
      (concluded : ∃ notes c, r = .ok c ∧
        ∀ f, finding = .toolingError f → c = Conclusion.unprobed notes f)

theorem Probing.append_left {ctx : Context} {log : Log} {r : Except Failure Conclusion}
    (h : Probing ctx log r) {earlier : Log} (quiet : ∀ e ∈ earlier, Ask.Unprobing e.request) :
    Probing ctx (earlier ++ log) r := by
  have both {l : Log} (unprobing : ∀ e ∈ l, Ask.Unprobing e.request) :
      ∀ e ∈ earlier ++ l, Ask.Unprobing e.request :=
    fun e he => (List.mem_append.mp he).elim (quiet e) (unprobing e)
  cases h with
  | without unprobing => exact .without (both unprobing)
  | last parts unprobing probed concluded =>
    subst parts
    exact .last (List.append_assoc ..).symm (both unprobing) probed concluded

/-- A run that asks for something that belongs to a probe ends with the probe. -/
theorem Probing.probed_of_mem {ctx : Context} {log : Log} {r : Except Failure Conclusion}
    (h : Probing ctx log r) {e : Exchange collaboration} (mem : e ∈ log)
    (probing : ¬ e.request.Unprobing) :
    ∃ before probe finding, log = before ++ probe ∧ e ∈ probe ∧
      EgressFinding.Probed ctx probe finding ∧ ∃ notes c, r = .ok c ∧
        ∀ f, finding = .toolingError f → c = Conclusion.unprobed notes f := by
  cases h with
  | without quiet => exact absurd (quiet e mem) probing
  | @last before probe finding parts quiet probed concluded =>
    subst parts
    rcases List.mem_append.mp mem with mem | mem
    · exact absurd (quiet e mem) probing
    · exact ⟨before, probe, finding, rfl, mem, probed, concluded⟩

namespace Inquiry

variable {ctx : Context} {α : Type} {x : Inquiry α} {f : α → Inquiry Conclusion}

/-- Whatever the inquiry is answered, it does not probe, or ends with a probe. -/
def Probes (ctx : Context) (y : Inquiry Conclusion) : Prop :=
  ∀ n log r n', Gives y n log r n' → Probing ctx log r

theorem probes_of_only {y : Inquiry Conclusion} (h : y.Only Ask.Unprobing) : y.Probes ctx :=
  fun n _ _ _ run => .without ((h n).of_run run)

theorem probes_bind (hx : x.Only Ask.Unprobing) (hf : ∀ a, (f a).Probes ctx) :
    (x >>= f).Probes ctx := by
  intro n log r n' run
  rcases gives_bind.mp run with ⟨first, a, n₁, second, rfl, h₁, h₂⟩ | ⟨_, _, h⟩
  · exact (hf a _ _ _ _ h₂).append_left ((hx n).of_run h₁)
  · exact .without ((hx n).of_run h)

/-- Behind a probe nothing fails, so that a handler that does not probe has no probe before it. -/
theorem probes_tryCatch {y : Inquiry Conclusion} {handler : Failure → Inquiry Conclusion}
    (hy : y.Probes ctx) (hh : ∀ e, (handler e).Only Ask.Unprobing) :
    (tryCatch y handler).Probes ctx := by
  intro n log r n' run
  rcases gives_tryCatch.mp run with ⟨_, rfl, h⟩ | ⟨first, e, n₁, second, rfl, h₁, h₂⟩
  · exact hy _ _ _ _ h
  · refine (Probing.without ((hh e n₁).of_run h₂)).append_left ?_
    cases hy _ _ _ _ h₁ with
    | without quiet => exact quiet
    | last _ _ _ concluded =>
      obtain ⟨_, _, wrong, _⟩ := concluded
      cases wrong

/-- The inquiry asks for nothing more and concludes so, in view of the notes that it starts with. -/
def Settles (P : Notes → Conclusion → Prop) (y : Inquiry Conclusion) : Prop :=
  ∀ n log r n', Gives y n log r n' → log = [] ∧ ∃ c, r = .ok c ∧ P n c

variable {P : Notes → Conclusion → Prop} {mark : Mark} {message : String}
  {finish : Conclusion.Draft → Conclusion}

theorem settles_finish (h : ∀ n, P n (finish (.ofNotes n))) :
    Settles P (do return finish (← draft)) := by
  intro n log r n' run
  obtain ⟨rfl, rfl, rfl⟩ := gives_drafted.mp run
  exact ⟨rfl, _, rfl, h n'⟩

theorem settles_note_bind {g : Unit → Inquiry Conclusion}
    (h : Settles (fun n c => ∀ n₀, n = n₀.add mark message → P n₀ c) (g ())) :
    Settles P (note mark message >>= g) := by
  intro n log r n' run
  obtain ⟨rfl, c, rfl, settled⟩ := h _ _ _ _ (gives_note_bind.mp run)
  exact ⟨rfl, c, rfl, settled n rfl⟩

theorem settles_noted (h : ∀ n : Notes, P n (finish (.ofNotes (n.add mark message)))) :
    Settles P (do
      note mark message
      return finish (← draft)) :=
  settles_note_bind (settles_finish fun _ n₀ same => same ▸ h n₀)

/-- A probe, and a conclusion from what it came to. -/
theorem probes_finding {g : EgressFinding → Inquiry Conclusion}
    (settles : ∀ finding, (g finding).Settles fun notes c =>
      ∀ f, finding = .toolingError f → c = Conclusion.unprobed notes f) :
    (liftM (n := Inquiry) (EgressFinding.run ctx) >>= g).Probes ctx := by
  intro n log r n' run
  rcases gives_bind.mp run with ⟨first, finding, n₁, second, rfl, h₁, h₂⟩ | ⟨_, _, h⟩
  · obtain ⟨_, probed, same, rfl⟩ := gives_liftM.mp h₁
    cases same
    obtain ⟨rfl, c, rfl, settled⟩ := settles finding _ _ _ _ h₂
    have parts : first ++ [] = [] ++ first := List.append_nil first
    exact .last parts (List.forall_mem_nil _) (EgressFinding.probed_of_run probed)
      ⟨_, c, rfl, settled⟩
  · obtain ⟨_, _, wrong, _⟩ := gives_liftM.mp h
    cases wrong

end Inquiry

namespace Unreachable

variable (ctx : Context) (now : Instant)

theorem probes_concludeByEgress : (concludeByEgress ctx).Probes ctx := by
  refine Inquiry.probes_finding fun finding => ?_
  split
  · exact Inquiry.settles_noted fun _ => nofun
  · split
    · exact Inquiry.settles_note_bind (Inquiry.settles_noted fun _ _ _ => nofun)
    · exact Inquiry.settles_note_bind (Inquiry.settles_noted fun _ _ _ => nofun)
  · exact Inquiry.settles_noted fun _ _ same => EgressFinding.toolingError.inj same ▸ rfl

theorem probes_triggered : (triggered ctx now).Probes ctx := by
  have rest : Inquiry.Probes ctx (do
      noteHibernation ctx now
      concludeByEgress ctx) :=
    Inquiry.probes_bind
      (only_noteHibernation ctx now fun _ => Ask.unprobing_of_kind (by decide)) fun _ =>
        probes_concludeByEgress ctx
  refine Inquiry.probes_bind (only_inspect ctx now fun _ => Ask.unprobing_of_kind (by decide))
    fun found => Inquiry.probes_bind (Inquiry.only_note _ _) fun _ => ?_
  dsimp only
  split
  · exact Inquiry.probes_bind (Inquiry.only_note _ _) fun _ => rest
  · exact Inquiry.probes_bind (Inquiry.only_note _ _) fun _ => rest
  · exact Inquiry.probes_of_only
      (Inquiry.only_bind (Inquiry.only_note _ _) fun _ => Inquiry.only_noted)

end Unreachable

namespace Provisioning

variable (ctx : Context)

theorem probes_concludeByEgress : (concludeByEgress ctx).Probes ctx := by
  refine Inquiry.probes_finding fun finding => ?_
  split
  · exact Inquiry.settles_noted fun _ => nofun
  · exact Inquiry.settles_noted fun _ => nofun
  · exact Inquiry.settles_noted fun _ _ same => EgressFinding.toolingError.inj same ▸ rfl

theorem probes_run : (run ctx).Probes ctx := by
  unfold run
  split
  · exact Inquiry.probes_of_only Inquiry.only_noted
  · refine Inquiry.probes_bind (Inquiry.only_note _ _) fun _ => ?_
    refine Inquiry.probes_bind
      (only_noteAccessProtection ctx fun _ => Ask.unprobing_of_kind (by decide)) fun _ => ?_
    refine Inquiry.probes_bind
      (only_unroutedSubnets ctx fun _ => Ask.unprobing_of_kind (by decide)) fun missing => ?_
    split
    · exact probes_concludeByEgress ctx
    · exact Inquiry.probes_of_only Inquiry.only_noted

end Provisioning

/-- **An investigation that probes does so last.** -/
theorem Investigation.probes_run (i : Investigation) (ctx : Context) : (i.run ctx).Probes ctx := by
  refine Inquiry.probes_bind (Inquiry.only_liftM (Program.only_request trivial)) fun now => ?_
  refine Inquiry.probes_tryCatch ?_ fun failure => ?_
  · cases i with
    | unreachable =>
      show Inquiry.Probes ctx (if ctx.alert.hasCleared then Unreachable.recovered ctx now
        else Unreachable.triggered ctx now)
      split
      · refine Inquiry.probes_of_only (Unreachable.only_recovered ctx now
          (fun _ => Ask.unprobing_of_kind (by decide)) (fun _ => trivial) (fun _ _ => ?_) trivial)
        exact fun wrong => nomatch wrong
      · exact Unreachable.probes_triggered ctx now
    | provisioning => exact Provisioning.probes_run ctx
    | assisted =>
      exact Inquiry.probes_of_only (Assisted.only_run ctx
        (fun _ => Ask.unprobing_of_kind (by decide)) fun _ _ => trivial)
  · split
    · exact Inquiry.only_noted
    · exact Inquiry.only_throw _

/-! ## 4. Attempts -/

namespace Desk

variable {d : Desk} {i : Investigation} {alert : Alert} {s s' : Dossier} {log : Log}
  {r : Except Failure (Context × Conclusion)}

/-- **An attempt that probes does so last**, in its context. -/
theorem probes_attempt (run : Filing.Gives (d.attempt i alert) s log r s') :
    (∀ e ∈ log, Ask.Unprobing e.request) ∨
      ∃ ctx res, ctx.alert = alert ∧ ctx.settings = d.settings ∧ r = res.map (ctx, ·) ∧
        Probing ctx log res := by
  have quiet {s s' : Dossier} {needs : Requirements} {l : Log}
      {built : Except ResolutionFailure Context}
      (h : Resolving.Gives (d.contextFor i alert needs) s l built s') :
      ∀ e ∈ l, Ask.Unprobing e.request := by
    have only : Resolving.Only Ask.Unprobing (d.contextFor i alert needs) :=
      Resolving.only_build fun _ => Ask.unprobing_of_kind (by decide)
    exact (only s).of_run h
  rcases gives_attempt run with ⟨ctx, l₁, l₂, res, notes, rfl, built, ran, rfl⟩ |
    ⟨f, l₁, l₂, s₁, res, rfl, built, _, rebuilt, _⟩ | ⟨f, built, _⟩
  · obtain ⟨onAlert, underSettings, _⟩ := Context.gives_build_ok built
    exact .inr ⟨ctx, res, onAlert, underSettings, rfl,
      (Investigation.probes_run i ctx _ _ _ _ ran).append_left (quiet built)⟩
  · exact .inl fun e he => (List.mem_append.mp he).elim (quiet built e) (quiet rebuilt e)
  · exact .inl (quiet built)

/-- **An attempt whose probe came to no verdict** concludes with a line about it and a page, and
leaves the cluster alone. -/
theorem unprobed_of_attempt (run : Filing.Gives (d.attempt i alert) s log r s')
    {e : Exchange collaboration} {f : Failure} (mem : e ∈ log) (stops : e.StopsProbe f) :
    ∃ ctx notes, r = .ok (ctx, Conclusion.unprobed notes f) := by
  have probing : ¬ e.request.Unprobing := by
    cases stops <;> exact fun unprobing => unprobing rfl
  rcases probes_attempt run with quiet | ⟨ctx, res, _, _, rfl, ends⟩
  · exact absurd (quiet e mem) probing
  · obtain ⟨_, _, _, _, inside, probed, notes, c, rfl, concluded⟩ :=
      ends.probed_of_mem mem probing
    rw [concluded f (probed.of_stops inside stops)]
    exact ⟨ctx, notes, rfl⟩

/-- **A security group that is looked up** is part of the target, or is left out of it if it could not
be found; the verifier is asked next, and the attempt concludes. -/
theorem grouped_of_attempt (run : Filing.Gives (d.attempt i alert) s log r s')
    {client : CloudClient} {infraId : String} {group : Except Failure String}
    (mem : (Call.cloud client (.securityGroup infraId)).exchange group ∈ log) :
    ∃ ctx c before listed subnetIds reply, r = .ok (ctx, c) ∧
      EgressFinding.Listed ctx client infraId listed (.ok subnetIds) ∧
      log = before ++ (listed ++ [(Call.cloud client (.securityGroup infraId)).exchange group,
        (Call.verifyEgress ⟨ctx.cluster.id, ctx.cluster.region, subnetIds, group.toOption,
          ctx.cluster.hosted⟩).exchange reply]) := by
  have probing : ¬ Ask.Unprobing (.call (.cloud client (.securityGroup infraId))) :=
    fun unprobing => unprobing rfl
  rcases probes_attempt run with quiet | ⟨ctx, res, _, _, rfl, ends⟩
  · exact absurd (quiet _ mem) probing
  · obtain ⟨before, _, _, rfl, inside, probed, _, c, rfl, _⟩ := ends.probed_of_mem mem probing
    obtain ⟨listed, subnetIds, reply, known, rfl⟩ := probed.of_group inside
    exact ⟨ctx, c, before, listed, subnetIds, reply, rfl, known, rfl⟩

end Desk

end OnCall
