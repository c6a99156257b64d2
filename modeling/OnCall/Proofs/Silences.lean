import Mathlib.Data.List.Basic
import OnCall.Proofs.Holding
import OnCall.Proofs.Paging

/-!
# When an incident is silenced

Nobody looks at a silenced incident, so there has to be a reason for it.

* `Ground`: the grounds on which an investigation silences.
* `Inquiry.Pages`: investigations that never silence.
* `Desk.ground_of_attempt`: an attempt silences only on one of these grounds.
* `Desk.Justified`, `Desk.silence_justified`: **every silence is the one of the last attempt, on
  such a ground**, and the restriction that goes with it is held by then.
-/

namespace OnCall

/-! ## 1. Grounds -/

/-- A run of lifting a restriction that did not find it flapping. -/
def Steady (ctx : Context) (now : Instant) (change : Restriction.Change) (log : Log) : Prop :=
  (∃ lifted, Fallible.Gives (Restriction.lift ctx.settings ctx.cluster change.restriction now) log
      (.ok lifted) ∧ ∀ changes, lifted ≠ .flapping changes) ∧
    ∃ history rest,
      log = (Call.manager (.advisories ctx.cluster ⟨some AdvisoryEntry.restrictionChange,
        some (now.back ctx.settings.flappingWindow)⟩)).exchange (.ok history) :: rest ∧
      history.countP (ctx.settings.countsAsChange change.summary
        (now.back ctx.settings.flappingWindow)) < ctx.settings.flappingThreshold

/-- The grounds on which an attempt with these exchanges silences an incident. `Holds` says that a
restriction is in place. -/
inductive Ground (ctx : Context) (log : Log) (Holds : Restriction.Change → Prop) :
    Investigation → Prop where
  /-- Someone stopped instances who was not allowed to. -/
  | stopped {client : CloudClient} {infraId : String} {instances : List Instance} {since : Instant}
      {most : Nat} {events : List AuditEvent} {actor : Actor}
      (triggered : ctx.alert.hasCleared = false)
      (found : (Call.cloud client (.stoppedInstances infraId)).exchange (.ok instances) ∈ log)
      (any : instances ≠ [])
      (fetched : (Call.cloud client (.stopEvents (instances.map Instance.id) since most)).exchange
        (.ok events) ∈ log)
      (judged : Judgement.ofEvents .standard ctx.cluster.ccs events = .ok ⟨actor, false⟩)
      (held : Holds Unreachable.stoppedRestriction) : Ground ctx log Holds .unreachable
  /-- The monitoring host is among the blocked endpoints. -/
  | egress {target : EgressTarget} {endpoints : String}
      (triggered : ctx.alert.hasCleared = false)
      (blocked : (Call.verifyEgress target).exchange (.ok (.failure endpoints)) ∈ log)
      (monitored : Text.occursIn ctx.settings.monitorHost endpoints = true)
      (held : Holds Unreachable.egressRestriction) : Ground ctx log Holds .unreachable
  /-- The cloud account could not be opened, and the failure shows revoked credentials. -/
  | revoked {i : Investigation} {f : Failure} (asked : i.needs.cloud = true)
      (refused : (Call.openCloud ctx.cluster).exchange (.error f) ∈ log)
      (marked : ∃ m ∈ Credentials.revokedMarkers, Text.occursIn m f.full = true)
      (held : Holds Credentials.invalid) : Ground ctx log Holds i
  /-- The cluster has finished installing. -/
  | ready (installed : ctx.cluster.state = .ready) : Ground ctx log Holds .provisioning
  /-- The nodes run again, and neither restriction is flapping. -/
  | recovered {client : CloudClient} {infraId : String} {instances : List Instance}
      {expected : NodeCount} {now : Instant} {before first between second rest : Log}
      (cleared : ctx.alert.hasCleared = true)
      (parts : log = before ++ (first ++ (between ++ (second ++ rest))))
      (running : (Call.cloud client (.runningInstances infraId)).exchange (.ok instances) ∈ before)
      (wanted : (Call.manager (.expectedNodes ctx.cluster)).exchange (.ok expected) ∈ before)
      (enough : expected.min.toNat ≤ instances.length)
      (stopped : Steady ctx now Unreachable.stoppedRestriction first)
      (egress : Steady ctx now Unreachable.egressRestriction second) :
      Ground ctx log Holds .unreachable

namespace Ground

variable {ctx : Context} {log : Log} {i : Investigation} {Holds Holds' : Restriction.Change → Prop}

/-- There is no ground for the analyst to silence. -/
theorem ne_assisted (h : Ground ctx log Holds i) : i ≠ .assisted := by
  intro assisted
  cases h with
  | revoked asked => cases assisted ▸ asked
  | _ => cases assisted

/-- What holds is passed on. -/
theorem imp (h : Ground ctx log Holds i) (weaker : ∀ change, Holds change → Holds' change) :
    Ground ctx log Holds' i := by
  cases h with
  | stopped triggered found any fetched judged held =>
    exact .stopped triggered found any fetched judged (weaker _ held)
  | egress triggered blocked monitored held =>
    exact .egress triggered blocked monitored (weaker _ held)
  | revoked asked refused marked held => exact .revoked asked refused marked (weaker _ held)
  | ready installed => exact .ready installed
  | recovered cleared parts running wanted enough stopped egress =>
    exact .recovered cleared parts running wanted enough stopped egress

/-- A ground found in the later exchanges of a run is one in the whole run. -/
theorem append_left (h : Ground ctx log Holds i) (earlier : Log) :
    Ground ctx (earlier ++ log) Holds i := by
  cases h with
  | stopped triggered found any fetched judged held =>
    exact .stopped triggered (List.mem_append_right _ found) any (List.mem_append_right _ fetched)
      judged held
  | egress triggered blocked monitored held =>
    exact .egress triggered (List.mem_append_right _ blocked) monitored held
  | revoked asked refused marked held =>
    exact .revoked asked (List.mem_append_right _ refused) marked held
  | ready installed => exact .ready installed
  | recovered cleared parts running wanted enough stopped egress =>
    rw [parts, ← List.append_assoc]
    exact .recovered cleared rfl (List.mem_append_right _ running) (List.mem_append_right _ wanted)
      enough stopped egress

end Ground

/-! ## 2. Investigations that never silence -/

/-- The conclusion of the inquiry, if it comes to one, is a page. -/
def Inquiry.Pages (x : Inquiry Conclusion) : Prop :=
  ∀ n log c n', Inquiry.Gives x n log (.ok c) n' → c.isEscalation = true

namespace Inquiry

variable {α : Type}

theorem pages_bind {x : Inquiry α} {f : α → Inquiry Conclusion} (h : ∀ a, Pages (f a)) :
    Pages (x >>= f) :=
  concludes_bind h

/-- A conclusion with the lines so far. -/
theorem gives_finish {finish : Conclusion.Draft → Conclusion} {n n' : Notes} {log : Log}
    {c : Conclusion} (h : Gives (do return finish (← draft)) n log (.ok c) n') :
    log = [] ∧ ∃ lines, c = finish (.ofNotes lines) := by
  obtain ⟨rfl, same, _⟩ := gives_drafted.mp h
  cases same
  exact ⟨rfl, n, rfl⟩

theorem gives_noted {mark : Mark} {message : String} {finish : Conclusion.Draft → Conclusion}
    {n n' : Notes} {log : Log} {c : Conclusion}
    (h : Gives (do
      note mark message
      return finish (← draft)) n log (.ok c) n') :
    log = [] ∧ ∃ lines, c = finish (.ofNotes lines) :=
  gives_finish (gives_note_bind.mp h)

theorem pages_finish {finish : Conclusion.Draft → Conclusion}
    (h : ∀ draft, (finish draft).isEscalation = true) : Pages (do return finish (← draft)) :=
  concludes_finish fun _ => h _

/-- The same after one more line. -/
theorem pages_noted {mark : Mark} {message : String} {finish : Conclusion.Draft → Conclusion}
    (h : ∀ draft, (finish draft).isEscalation = true) :
    Pages (do
      note mark message
      return finish (← draft)) :=
  concludes_noted fun _ => h _

end Inquiry

/-- An inconclusive investigation is put to a person. -/
theorem Investigation.pages_inconclusive (f : Failure) : (Investigation.inconclusive f).Pages :=
  Inquiry.pages_noted fun _ => rfl

/-- The analyst never silences. -/
theorem Assisted.pages_run (ctx : Context) : (Assisted.run ctx).Pages := by
  unfold Assisted.run
  split
  · refine Inquiry.pages_bind fun _ => Inquiry.pages_bind fun _ => Inquiry.pages_bind fun _ => ?_
    exact Inquiry.pages_finish fun _ => rfl
  · exact Inquiry.pages_noted fun _ => rfl

theorem Provisioning.pages_concludeByEgress (ctx : Context) :
    (Provisioning.concludeByEgress ctx).Pages := by
  refine Inquiry.pages_bind fun finding => ?_
  split <;> exact Inquiry.pages_noted fun _ => rfl

/-- An investigation of a slow installation silences only for a cluster that is ready. -/
theorem Provisioning.pages_run {ctx : Context} (installing : ctx.cluster.state ≠ .ready) :
    (Provisioning.run ctx).Pages := by
  unfold Provisioning.run
  rw [if_neg installing]
  refine Inquiry.pages_bind fun _ => Inquiry.pages_bind fun _ => Inquiry.pages_bind fun missing => ?_
  split
  · exact Provisioning.pages_concludeByEgress ctx
  · exact Inquiry.pages_noted fun _ => rfl

/-! ## 3. The cluster has gone missing -/

/-- Lifting fetches the history first. If it went on, the changes there are too few. -/
theorem steady_of_lift {ctx : Context} {now : Instant} {change : Restriction.Change} {log : Log}
    {lifted : Lifting}
    (h : Fallible.Gives (Restriction.lift ctx.settings ctx.cluster change.restriction now) log
      (.ok lifted))
    (steady : ∀ changes, lifted ≠ .flapping changes) : Steady ctx now change log := by
  refine ⟨⟨lifted, h, steady⟩, ?_⟩
  obtain ⟨first, changes, second, rfl, counted, h⟩ := Fallible.gives_bind_ok.mp h
  obtain ⟨queried, history, none', rfl, fetched, same⟩ := Fallible.gives_bind_ok.mp counted
  obtain ⟨rfl, same⟩ := Fallible.gives_pure.mp same
  rw [Fallible.gives_call.mp fetched]
  refine ⟨history, second, rfl, ?_⟩
  cases same
  split at h
  · obtain ⟨_, same⟩ := Fallible.gives_pure.mp h
    cases same
    exact absurd rfl (steady _)
  · rename_i few
    exact Nat.lt_of_not_le few

namespace Unreachable

variable {ctx : Context} {now : Instant} {n n' : Notes} {log : Log} {c : Conclusion}

/-- One restriction is lifted, or is not there; otherwise it is reported as flapping. -/
theorem steady_of_liftOne {change : Restriction.Change}
    (h : Inquiry.Gives (liftOne ctx now change) n log (.ok false) n') :
    ∃ first rest, log = first ++ rest ∧ Steady ctx now change first := by
  obtain ⟨first, lifted, n₁, rest, same, required, noted⟩ := Inquiry.gives_bind_ok.mp h
  obtain ⟨run, _⟩ := Inquiry.gives_require_ok.mp required
  refine ⟨first, rest, same, steady_of_lift run fun changes flaps => ?_⟩
  rw [flaps] at noted
  obtain ⟨_, _, _, _, _, _, ended⟩ := Inquiry.gives_bind_ok.mp noted
  obtain ⟨_, wrong, _⟩ := Inquiry.gives_pure.mp ended
  cases wrong

/-- What the investigation of a cleared alert needs for a silence. -/
theorem ground_of_recovered {Holds : Restriction.Change → Prop}
    (cleared : ctx.alert.hasCleared = true)
    (h : Inquiry.Gives (recovered ctx now) n log (.ok c) n') (silent : c.isEscalation = false) :
    Ground ctx log Holds .unreachable := by
  obtain ⟨l₁, client, n₁, r₁, rfl, opened, h₁⟩ := Inquiry.gives_bind_ok.mp h
  obtain ⟨rfl, _, rfl⟩ := Inquiry.gives_ofExcept.mp opened
  obtain ⟨l₂, infraId, n₂, r₂, rfl, found, h₂⟩ := Inquiry.gives_bind_ok.mp h₁
  obtain ⟨rfl, _, rfl⟩ := Inquiry.gives_ofExcept.mp found
  obtain ⟨l₃, instances, n₃, r₃, rfl, counted, h₃⟩ := Inquiry.gives_bind_ok.mp h₂
  obtain ⟨running, rfl⟩ := Inquiry.gives_require_ok.mp counted
  obtain ⟨l₄, expected, n₄, r₄, rfl, asked, h₄⟩ := Inquiry.gives_bind_ok.mp h₃
  obtain ⟨wanted, rfl⟩ := Inquiry.gives_require_ok.mp asked
  rw [Fallible.gives_call.mp running, Fallible.gives_call.mp wanted]
  split at h₄
  · obtain ⟨_, lines, rfl⟩ := Inquiry.gives_noted h₄
    cases silent
  · rename_i enough
    obtain ⟨l₅, _, n₅, r₅, rfl, noted, h₅⟩ := Inquiry.gives_bind_ok.mp h₄
    obtain ⟨rfl, _, _⟩ := Inquiry.gives_note.mp noted
    obtain ⟨l₆, stoppedFlaps, n₆, r₆, rfl, stopped, h₆⟩ := Inquiry.gives_bind_ok.mp h₅
    obtain ⟨l₇, egressFlaps, n₇, r₇, rfl, egress, h₇⟩ := Inquiry.gives_bind_ok.mp h₆
    split at h₇
    · obtain ⟨_, lines, rfl⟩ := Inquiry.gives_finish h₇
      cases silent
    · rename_i steady
      simp only [Bool.or_eq_true, not_or, Bool.not_eq_true] at steady
      rw [steady.1] at stopped
      rw [steady.2] at egress
      obtain ⟨first, between, rfl, stoppedSteady⟩ := steady_of_liftOne stopped
      obtain ⟨second, others, rfl, egressSteady⟩ := steady_of_liftOne egress
      have parts (e₁ e₂ : Exchange collaboration) :
          [] ++ ([] ++ ([e₁] ++ ([e₂] ++ ([] ++ ((first ++ between) ++ ((second ++ others) ++ r₇)))))) =
            [e₁, e₂] ++ (first ++ (between ++ (second ++ (others ++ r₇)))) := by
        simp only [List.nil_append, List.append_assoc, List.cons_append]
      exact .recovered cleared (parts _ _) (List.mem_cons_self ..)
        (List.mem_cons_of_mem _ (List.mem_cons_self ..)) (Nat.le_of_not_lt enough)
        stoppedSteady egressSteady

/-- What is judged are the events that were fetched for the instances that do not run. -/
theorem judged_of_inspect {found : Findings} {actor : Actor} {permitted : Bool}
    (h : Inquiry.Gives (inspect ctx now) n log (.ok found) n')
    (judged : found.judgement = some ⟨actor, permitted⟩) :
    ∃ client infraId since most events,
      (Call.cloud client (.stoppedInstances infraId)).exchange (.ok found.stopped) ∈ log ∧
      found.stopped ≠ [] ∧
      (Call.cloud client (.stopEvents (found.stopped.map Instance.id) since most)).exchange
        (.ok events) ∈ log ∧
      Judgement.ofEvents .standard ctx.cluster.ccs events = .ok ⟨actor, permitted⟩ := by
  obtain ⟨l₁, client, n₁, r₁, rfl, opened, h₁⟩ := Inquiry.gives_bind_ok.mp h
  obtain ⟨rfl, _, rfl⟩ := Inquiry.gives_ofExcept.mp opened
  obtain ⟨l₂, infraId, n₂, r₂, rfl, given, h₂⟩ := Inquiry.gives_bind_ok.mp h₁
  obtain ⟨rfl, _, rfl⟩ := Inquiry.gives_ofExcept.mp given
  obtain ⟨l₃, stopped, n₃, r₃, rfl, listed, h₃⟩ := Inquiry.gives_bind_ok.mp h₂
  obtain ⟨stoppedCall, rfl⟩ := Inquiry.gives_require_ok.mp listed
  obtain ⟨l₄, running, n₄, r₄, rfl, counted, h₄⟩ := Inquiry.gives_bind_ok.mp h₃
  obtain ⟨l₅, expected, n₅, r₅, rfl, asked, h₅⟩ := Inquiry.gives_bind_ok.mp h₄
  rw [Fallible.gives_call.mp stoppedCall]
  split at h₅
  · obtain ⟨_, same, _⟩ := Inquiry.gives_pure.mp h₅
    cases same
    cases judged
  · rename_i any
    obtain ⟨l₆, events, n₆, r₆, rfl, fetched, h₆⟩ := Inquiry.gives_bind_ok.mp h₅
    obtain ⟨eventsCall, rfl⟩ := Inquiry.gives_require_ok.mp fetched
    obtain ⟨l₇, judgement, n₇, r₇, rfl, decided, h₇⟩ := Inquiry.gives_bind_ok.mp h₆
    obtain ⟨rfl, verdict, rfl⟩ := Inquiry.gives_ofExcept.mp decided
    obtain ⟨rfl, same, rfl⟩ := Inquiry.gives_pure.mp h₇
    cases same
    cases judged
    rw [Fallible.gives_call.mp eventsCall]
    refine ⟨client, infraId, now.back ctx.settings.auditLookback, ctx.settings.auditMaxResults,
      events, List.mem_cons_self .., ?_, ?_, verdict.symm⟩
    · exact fun none' => any (List.isEmpty_iff.mpr none')
    · refine List.mem_append_right _ (List.mem_append_right _ (List.mem_append_right _ ?_))
      exact List.mem_append_right _ (List.mem_append_right _ (List.mem_cons_self ..))

/-- What a check of the egress found is what the verifier said. -/
theorem verified_of_blocked {endpoints : String}
    (h : Program.Run (EgressFinding.run ctx) log (.blocked endpoints)) :
    ∃ target, (Call.verifyEgress target).exchange (.ok (.failure endpoints)) ∈ log := by
  obtain ⟨first, r, second, rfl, probed, ended⟩ := Program.run_bind.mp h
  split at ended
  · cases (Program.run_done.mp ended).2
  · obtain ⟨rfl, same⟩ := Program.run_done.mp ended
    cases same
    obtain ⟨l₁, target, l₂, rfl, _, verified⟩ := Fallible.gives_bind_ok.mp probed
    rw [Fallible.gives_call.mp verified]
    rw [List.append_nil]
    exact ⟨target, List.mem_append_right _ (List.mem_singleton_self _)⟩
  · cases (Program.run_done.mp ended).2

/-- What the check of the egress needs for a silence. -/
theorem ground_of_concludeByEgress (triggered : ctx.alert.hasCleared = false)
    (h : Inquiry.Gives (concludeByEgress ctx) n log (.ok c) n') (silent : c.isEscalation = false) :
    Ground ctx log (fun change => c.sideActions = [.restrict change]) .unreachable := by
  obtain ⟨first, finding, n₁, second, rfl, probed, h₁⟩ := Inquiry.gives_bind_ok.mp h
  obtain ⟨_, run, same, rfl⟩ := Inquiry.gives_liftM.mp probed
  cases same
  split at h₁
  · obtain ⟨_, lines, rfl⟩ := Inquiry.gives_noted h₁
    cases silent
  · rename_i endpoints
    obtain ⟨target, blocked⟩ := verified_of_blocked run
    split at h₁
    · rename_i monitored
      obtain ⟨l₁, _, n₂, l₂, rfl, _, h₂⟩ := Inquiry.gives_bind_ok.mp h₁
      obtain ⟨_, lines, rfl⟩ := Inquiry.gives_noted h₂
      exact .egress triggered (List.mem_append_left _ blocked) monitored rfl
    · obtain ⟨l₁, _, n₂, l₂, rfl, _, h₂⟩ := Inquiry.gives_bind_ok.mp h₁
      obtain ⟨_, lines, rfl⟩ := Inquiry.gives_noted h₂
      cases silent
  · obtain ⟨_, lines, rfl⟩ := Inquiry.gives_noted h₁
    cases silent

/-- What the investigation of a triggered alert needs for a silence. -/
theorem ground_of_triggered (triggered : ctx.alert.hasCleared = false)
    (h : Inquiry.Gives (Unreachable.triggered ctx now) n log (.ok c) n')
    (silent : c.isEscalation = false) :
    Ground ctx log (fun change => c.sideActions = [.restrict change]) .unreachable := by
  obtain ⟨l₁, found, n₁, r₁, rfl, inspected, h₁⟩ := Inquiry.gives_bind_ok.mp h
  obtain ⟨l₂, _, n₂, r₂, rfl, _, h₂⟩ := Inquiry.gives_bind_ok.mp h₁
  have byEgress {m : Notes} {l : Log}
      (go : Inquiry.Gives (do noteHibernation ctx now; concludeByEgress ctx) m l (.ok c) n') :
      Ground ctx l (fun change => c.sideActions = [.restrict change]) .unreachable := by
    obtain ⟨l₃, _, _, l₄, rfl, _, concluded⟩ := Inquiry.gives_bind_ok.mp go
    exact (ground_of_concludeByEgress triggered concluded silent).append_left l₃
  rw [← List.append_assoc]
  split at h₂
  · obtain ⟨l₃, _, n₃, r₃, rfl, _, h₃⟩ := Inquiry.gives_bind_ok.mp h₂
    rw [← List.append_assoc]
    exact (byEgress h₃).append_left _
  · obtain ⟨l₃, _, n₃, r₃, rfl, _, h₃⟩ := Inquiry.gives_bind_ok.mp h₂
    rw [← List.append_assoc]
    exact (byEgress h₃).append_left _
  · rename_i actor judged
    obtain ⟨client, infraId, since, most, events, listed, any, fetched, verdict⟩ :=
      judged_of_inspect inspected judged
    obtain ⟨l₃, _, n₃, r₃, rfl, _, h₃⟩ := Inquiry.gives_bind_ok.mp h₂
    obtain ⟨_, lines, rfl⟩ := Inquiry.gives_noted h₃
    rw [List.append_assoc]
    exact .stopped triggered (List.mem_append_left _ listed) any (List.mem_append_left _ fetched)
      verdict rfl

end Unreachable

/-! ## 4. Attempts -/

/-- An investigation silences only on one of the grounds. -/
theorem Investigation.ground_of_run {i : Investigation} {ctx : Context} {n n' : Notes} {log : Log}
    {c : Conclusion} (h : Inquiry.Gives (i.run ctx) n log (.ok c) n')
    (silent : c.isEscalation = false) :
    Ground ctx log (fun change => c.sideActions = [.restrict change]) i := by
  obtain ⟨l₁, now, n₁, rest, rfl, _, h₁⟩ := Inquiry.gives_bind_ok.mp h
  refine Ground.append_left ?_ l₁
  rcases Inquiry.gives_tryCatch.mp h₁ with ⟨_, same, ran⟩ | ⟨first, f, n₂, second, rfl, _, handled⟩
  · cases same
    cases i with
    | unreachable =>
      cases status : ctx.alert.hasCleared with
      | true =>
        rw [steps, status] at ran
        exact Unreachable.ground_of_recovered status ran silent
      | false =>
        rw [steps, status] at ran
        exact Unreachable.ground_of_triggered status ran silent
    | provisioning =>
      by_cases ready : ctx.cluster.state = .ready
      · exact .ready ready
      · rw [Provisioning.pages_run ready _ _ _ _ ran] at silent
        cases silent
    | assisted =>
      rw [Assisted.pages_run ctx _ _ _ _ ran] at silent
      cases silent
  · -- a finding ends in a page, and nothing else is caught
    split at handled
    · rw [pages_inconclusive f _ _ _ _ handled] at silent
      cases silent
    · obtain ⟨_, wrong, _⟩ := Inquiry.gives_throw.mp handled
      cases wrong

/-- An attempt silences only on one of the grounds. -/
theorem Desk.ground_of_attempt {d : Desk} {i : Investigation} {alert : Alert} {s s' : Dossier}
    {log : Log} {ctx : Context} {c : Conclusion}
    (h : Filing.Gives (d.attempt i alert) s log (.ok (ctx, c)) s') (silent : c.isEscalation = false) :
    Ground ctx log (fun change => c.sideActions = [.restrict change]) i := by
  rcases gives_attempt_ok h with ⟨l₁, l₂, notes, rfl, _, run⟩ |
    ⟨f, l₁, l₂, s₁, rfl, failed, revoked, rebuilt, rfl⟩
  · exact (Investigation.ground_of_run run silent).append_left l₁
  · simp only [ResolutionFailure.showsRevocation, Bool.and_eq_true, decide_eq_true_eq,
      List.any_eq_true] at revoked
    have opening : i.needs.cloud = true ∧ ∃ c, s₁.cluster = some c ∧
        (Call.openCloud c).exchange (.error f.raw) ∈ l₁ := by
      rcases Context.gives_build_error failed with ⟨other, _⟩ | ⟨other, _⟩ | ⟨_, opened⟩
      · rw [other] at revoked
        cases revoked.1
      · rw [other] at revoked
        cases revoked.1
      · exact opened
    obtain ⟨asked, cluster, known, refused⟩ := opening
    obtain ⟨_, _, l₃, l₄, l₅, d₁, d₂, rfl, recalled, _⟩ := Context.gives_build_ok rebuilt
    obtain ⟨_, ⟨there, _⟩ | ⟨missing, _⟩⟩ := Resolving.gives_cluster_ok recalled
    · rw [known, Option.some.injEq] at there
      rw [there] at refused
      exact .revoked asked (List.mem_append_left _ refused) revoked.2 rfl
    · rw [known] at missing
      cases missing

/-! ## 5. The one silence of a handling -/

/-- A request that is no silence. -/
def Ask.NoSilence : Ask → Prop
  | .call (.pager (.silence _ _)) => False
  | _ => True

theorem Ask.OffPager.noSilence {q : Ask} (h : q.OffPager) : q.NoSilence := by
  cases q with
  | call c => cases c <;> first | exact h.elim | trivial
  | _ => trivial

/-- The call that silences an incident. -/
abbrev silenceOf (incidentId reason : String) (reply : Except Failure Unit) :
    Exchange collaboration :=
  (Call.pager (.silence incidentId reason)).exchange reply

section Execution

variable {site : Site} {log : Log} {r : Except Failure Unit} {c : Conclusion}

/-- A step that is no silence. -/
theorem Action.only_noSilence (site : Site) {a : Action}
    (h : ∀ reason, a ≠ .terminal (.silence reason)) :
    Fallible.Only Ask.NoSilence (a.apply site) := by
  refine (only_apply site a).imp fun q asked => ?_
  cases asked with
  | route routing =>
    cases routing with
    | escalate reason => trivial
    | silence reason => exact absurd rfl (h reason)
  | _ => trivial

/-- The note and the side actions of a conclusion do not silence. -/
theorem Conclusion.only_before (site : Site) (c : Conclusion) :
    Fallible.Only Ask.NoSilence
      (Action.applyAll site (.note c.note :: c.sideActions.map Action.side)) := by
  refine Action.only_applyAll fun a ha => Action.only_noSilence site fun reason same => ?_
  rcases List.mem_cons.mp ha with rfl | ha
  · cases same
  · obtain ⟨side, _, rfl⟩ := List.mem_map.mp ha
    cases same

/-- Carrying out a conclusion silences once at most: as it says, and after its note and its side
actions. -/
theorem Conclusion.silence_execute (h : Fallible.Gives (c.execute site) log r) :
    (∀ e ∈ log, Ask.NoSilence e.request) ∨
      ∃ reason reply before rest, c.routing = .silence reason ∧
        log = before ++ silenceOf site.incidentId reason reply :: rest ∧
        Fallible.Gives (Action.applyAll site (.note c.note :: c.sideActions.map Action.side)) before
          (.ok ()) ∧
        (∀ e ∈ before, Ask.NoSilence e.request) ∧ ∀ e ∈ rest, Ask.NoSilence e.request := by
  rcases Action.gives_applyAll_append h with ⟨before, l₂, rfl, applied, routed⟩ | ⟨g, failed, _⟩
  · have quiet := (Conclusion.only_before site c).of_run applied
    have ended : ∃ r₁, Fallible.Gives ((Action.terminal c.routing).apply site) l₂ r₁ := by
      rcases Action.gives_applyAll_cons routed with ⟨l₃, l₄, rfl, done, none'⟩ | ⟨f, _, refused, _⟩
      · rw [(Fallible.gives_pure.mp none').1, List.append_nil]
        exact ⟨_, done⟩
      · exact ⟨_, refused⟩
    obtain ⟨reply, ended⟩ := ended
    obtain ⟨rest, rfl, counts⟩ := Action.gives_terminal ended
    have quietRest : ∀ e ∈ rest, Ask.NoSilence e.request := by
      intro e he
      obtain ⟨counter, same⟩ := counts e he
      rw [same]
      trivial
    cases routing : c.routing with
    | silence reason =>
      exact .inr ⟨reason, reply, before, rest, rfl, rfl, applied, quiet, quietRest⟩
    | escalate reason =>
      refine .inl fun e he => ?_
      rcases List.mem_append.mp he with he | he
      · exact quiet e he
      · rcases List.mem_cons.mp he with rfl | he
        · trivial
        · exact quietRest e he
  · exact .inl ((Conclusion.only_before site c).of_run failed)

/-- A restriction that is the side action of a conclusion is held before its incident is silenced. -/
theorem Conclusion.held_before {change : Restriction.Change}
    (h : Fallible.Gives (Action.applyAll site [.note c.note, .side (.restrict change)]) log (.ok ())) :
    ∃ cluster, site.cluster = some cluster ∧ ∀ held held',
      Restriction.After cluster.id held log held' → change.restriction.Held held' := by
  rcases Action.gives_applyAll_cons h with ⟨l₁, l₂, rfl, _, sides⟩ | ⟨_, _, _, wrong⟩
  · rcases Action.gives_applyAll_cons sides with ⟨l₃, l₄, rfl, set, none'⟩ | ⟨_, _, _, wrong⟩
    · obtain ⟨rfl, _⟩ := Fallible.gives_pure.mp none'
      obtain ⟨cluster, there, holds⟩ := SideAction.held_of_apply set
      refine ⟨cluster, there, fun held held' kept => ?_⟩
      rw [List.append_nil] at kept
      obtain ⟨next, _, setting⟩ := Restriction.after_append.mp kept
      exact holds next held' setting
    · cases wrong
  · cases wrong

/-- Before the silence, the pager has seen the note and nothing else. -/
theorem Conclusion.paged_before
    (h : Fallible.Gives (Action.applyAll site (.note c.note :: c.sideActions.map Action.side)) log
      (.ok ())) : pagerCalls log = [(.addNote site.incidentId c.note, .ok ())] := by
  rcases Action.gives_applyAll_cons h with ⟨l₁, l₂, rfl, noted, sides⟩ | ⟨_, _, _, wrong⟩
  · rw [pagerCalls_append, Fallible.gives_call.mp noted,
      pagerCalls_eq_nil ((Action.only_sides site _).of_run sides), List.append_nil]
    rfl
  · cases wrong

end Execution

namespace Desk

variable {d : Desk} {alert : Alert} {log : Log} {r : Except Failure Outcome}

/-- Fallbacks never silence. -/
theorem only_fallBack {cluster : Option Cluster} {name : String} {status : OutcomeStatus}
    {mark : Mark} {line reason : String} :
    Fallible.Only Ask.NoSilence (d.fallBack alert cluster name status mark line reason) := by
  refine Fallible.only_bind (Fallible.only_adapt ?_) fun _ => Fallible.only_pure _
  refine Action.only_applyAll fun a ha => Action.only_noSilence _ fun reason same => ?_
  simp only [Conclusion.actions, Conclusion.Draft.escalate, Conclusion.Draft.ofNotes, List.map_nil,
    List.cons_append, List.nil_append, List.mem_cons, List.not_mem_nil, or_false] at ha
  rcases ha with rfl | rfl <;> cases same

/-- Carrying out what an attempt concluded silences at most as the conclusion says. -/
theorem silence_carryOut {name : String} {ctx : Context} {c : Conclusion}
    (h : Fallible.Gives (d.carryOut name ctx c) log r) :
    (∀ e ∈ log, Ask.NoSilence e.request) ∨
      ∃ reason reply before rest, c.routing = .silence reason ∧
        log = before ++ silenceOf ctx.alert.incidentId reason reply :: rest ∧
        Fallible.Gives (Action.applyAll ⟨ctx.alert.incidentId, some ctx.cluster, ctx.settings.retry⟩
          (.note c.note :: c.sideActions.map Action.side)) before (.ok ()) ∧
        (∀ e ∈ before, Ask.NoSilence e.request) ∧ ∀ e ∈ rest, Ask.NoSilence e.request := by
  obtain ⟨first, second, r₀, rfl, executed, quiet⟩ : ∃ first second r₀, log = first ++ second ∧
      Fallible.Gives (c.execute ⟨ctx.alert.incidentId, some ctx.cluster, ctx.settings.retry⟩) first r₀ ∧
      ∀ e ∈ second, Ask.NoSilence e.request := by
    rcases gives_carryOut h with ⟨_, executed⟩ | ⟨first, last, f, rfl, executed, reported⟩
    · exact ⟨log, [], _, (List.append_nil _).symm, executed, fun _ he => absurd he List.not_mem_nil⟩
    · exact ⟨first, last, _, rfl, executed, Program.Only.of_run only_fallBack reported⟩
  rcases Conclusion.silence_execute executed with none' | ⟨reason, reply, before, rest, routed, rfl,
    applied, quietBefore, quietRest⟩
  · exact .inl fun e he => (List.mem_append.mp he).elim (none' e) (quiet e)
  · refine .inr ⟨reason, reply, before, rest ++ second, routed, ?_, applied, quietBefore,
      fun e he => (List.mem_append.mp he).elim (quietRest e) (quiet e)⟩
    rw [List.append_assoc, List.cons_append]

/-! ## 6. Justified silences -/

/-- **A silence is justified** by the exchanges before it: the attempts of an investigation that is
for the alert ended with a conclusion to silence its incident; the last attempt had a ground for
that, in the context of the cluster that the platform gave; the note is on the incident and was the
only other call to the pager; and a restriction that is part of the ground is held. -/
def Justified (d : Desk) (alert : Alert) (incidentId reason : String) (before : Log) : Prop :=
  ∃ i ctx c n s₁ s earlier last carried,
    d.roster.find alert.title = some i ∧ i ≠ .assisted ∧
    before = ⟨Ask.count .alertsHandled, ()⟩ :: (earlier ++ last ++ carried) ∧
    Retries (Filing.Gives (d.attempt i alert)) Repeating n .empty earlier s₁ ∧
    Filing.Gives (d.attempt i alert) s₁ last (.ok (ctx, c)) s ∧
    incidentId = alert.incidentId ∧ c.routing = .silence reason ∧
    ctx.alert = alert ∧ ctx.settings = d.settings ∧
    (Call.manager (.cluster alert.clusterId)).exchange (.ok ctx.cluster) ∈ before ∧
    pagerCalls before = [(.addNote alert.incidentId c.note, .ok ())] ∧
    Ground ctx last (fun change => ∀ held held',
      Restriction.After ctx.cluster.id held before held' → change.restriction.Held held') i

/-- A silence comes from the conclusion of the last attempt, after its note and its side actions. -/
theorem silence_handle {incidentId reason : String} {reply : Except Failure Unit}
    {before after : Log}
    (h : Fallible.Gives (d.handle alert) (before ++ silenceOf incidentId reason reply :: after) r) :
    ∃ i ctx c n s₁ s earlier last carried, d.roster.find alert.title = some i ∧
      before = ⟨Ask.count .alertsHandled, ()⟩ :: (earlier ++ last ++ carried) ∧
      Retries (Filing.Gives (d.attempt i alert)) Repeating n .empty earlier s₁ ∧
      Filing.Gives (d.attempt i alert) s₁ last (.ok (ctx, c)) s ∧
      incidentId = ctx.alert.incidentId ∧ c.routing = .silence reason ∧
      Fallible.Gives (Action.applyAll ⟨ctx.alert.incidentId, some ctx.cluster, ctx.settings.retry⟩
        (.note c.note :: c.sideActions.map Action.side)) carried (.ok ()) := by
  have there : silenceOf incidentId reason reply ∈ before ++ silenceOf incidentId reason reply :: after :=
    List.mem_append_right _ (List.mem_cons_self ..)
  have absent {l : Log} (quiet : ∀ e ∈ l, Ask.NoSilence e.request) :
      silenceOf incidentId reason reply ∉ l := fun mem => quiet _ mem
  obtain ⟨rest, same, ⟨_, fell⟩ | ⟨i, found, tries, res, s, carried, rfl, tried, ended⟩⟩ :=
    gives_handle h
  · rw [same] at there
    rcases List.mem_cons.mp there with wrong | mem
    · cases wrong
    · exact absurd mem (absent (Program.Only.of_run only_fallBack fell))
  · obtain ⟨n, earlier, s₁, last, _, rfl, failed, counts, _⟩ := gives_attempts tried
    have quiet : ∀ e ∈ earlier ++ last, Ask.NoSilence e.request := by
      intro e he
      rcases List.mem_append.mp he with he | he
      · exact (only_attempts failed e he).offPager.noSilence
      · exact ((only_attempt _).of_run counts e he).offPager.noSilence
    have carriedOut : silenceOf incidentId reason reply ∈ carried := by
      rw [same] at there
      rcases List.mem_cons.mp there with wrong | mem
      · cases wrong
      · exact (List.mem_append.mp mem).resolve_left (absent quiet)
    rcases ended with ⟨ctx, c, rfl, ended⟩ | ⟨f, rfl, ended⟩
    · rcases silence_carryOut ended with none' | ⟨reason', reply', l₁, l₂, routed, rfl, applied,
        quietBefore, quietRest⟩
      · exact absurd carriedOut (absent none')
      · -- there is one silence only, so the exchanges before it are these
        have split : (⟨Ask.count .alertsHandled, ()⟩ :: (earlier ++ last ++ l₁)) ++
            silenceOf ctx.alert.incidentId reason' reply' :: l₂ =
            before ++ silenceOf incidentId reason reply :: after := by
          rw [same]
          simp only [List.cons_append, List.append_assoc]
        have quietUntil : silenceOf incidentId reason reply ∉
            (⟨Ask.count .alertsHandled, ()⟩ : Exchange collaboration) :: (earlier ++ last ++ l₁) := by
          intro mem
          rcases List.mem_cons.mp mem with wrong | mem
          · cases wrong
          · exact (List.mem_append.mp mem).elim (absent quiet) (absent quietBefore)
        obtain ⟨rfl, silence, _⟩ :=
          (List.append_cons_inj_of_notMem quietUntil (absent quietRest)).mp split
        have call : (PagerCall.silence ctx.alert.incidentId reason', reply') =
            (.silence incidentId reason, reply) :=
          Option.some.inj (congrArg Exchange.paged? silence)
        simp only [Prod.mk.injEq, PagerCall.silence.injEq] at call
        rw [call.1.2] at routed
        exact ⟨i, ctx, c, n, s₁, s, earlier, last, l₁, found, rfl, failed, counts, call.1.1.symm,
          routed, applied⟩
    · exact absurd carriedOut (absent (Program.Only.of_run only_fallBack ended))

/-- **Silences are justified.** Whatever the platforms answer, and whichever calls fail: when an
incident is silenced, the exchanges so far justify it. -/
theorem silence_justified {incidentId reason : String} {reply : Except Failure Unit}
    {before after : Log}
    (h : Fallible.Gives (d.handle alert) (before ++ silenceOf incidentId reason reply :: after) r) :
    d.Justified alert incidentId reason before := by
  obtain ⟨i, ctx, c, n, s₁, s, earlier, last, carried, found, rfl, failed, counts, incident, routed,
    applied⟩ := silence_handle h
  obtain ⟨sameAlert, sameSettings, onFile⟩ := context_of_attempt_ok counts
  have ground := ground_of_attempt counts (show c.isEscalation = false by
    rw [Conclusion.isEscalation, routed])
  have onRecord := grounded_attempt (grounded_attempts (Dossier.grounded_empty alert []) failed)
    counts ctx.cluster onFile
  have paged : pagerCalls (⟨Ask.count .alertsHandled, ()⟩ :: (earlier ++ last ++ carried)) =
      [(.addNote alert.incidentId c.note, .ok ())] := by
    rw [pagerCalls_count, pagerCalls_append, pagerCalls_attempts failed counts, List.nil_append,
      Conclusion.paged_before applied, sameAlert]
  refine ⟨i, ctx, c, n, s₁, s, earlier, last, carried, found, ground.ne_assisted, rfl, failed, counts,
    ?_, routed, sameAlert, sameSettings, ?_, paged, ground.imp fun change sides held held' kept => ?_⟩
  · rw [incident, sameAlert]
  · exact List.mem_cons_of_mem _ (List.mem_append_left _ onRecord)
  · rw [sides] at applied
    obtain ⟨cluster, there, holds⟩ := Conclusion.held_before applied
    cases there
    rw [← List.cons_append] at kept
    obtain ⟨next, _, setting⟩ := Restriction.after_append.mp kept
    exact holds next held' setting

/-- The exchanges of handling an alert when the cloud account refuses access. -/
def refusedLog : Log :=
  ((Desk.standard .standard false).rehearse ⟨"Q1", "cluster has gone missing", .triggered, "c1"⟩
    { Rehearsal.standard with
      faults := [(.forCluster, [some (.root (.reported "AccessDenied"))])] }).1

theorem silence_justified_refused :
    ∃ before reason after,
      refusedLog = before ++ silenceOf "Q1" reason (.ok ()) :: after ∧
      (∃ held, Restriction.After "c1" [] before held) ∧
      (Desk.standard .standard false).Justified ⟨"Q1", "cluster has gone missing", .triggered, "c1"⟩
        "Q1" reason before := by
  have later : refusedLog.drop 8 =
      [silenceOf "Q1" "customer revoked cloud credentials" (.ok ()), ⟨Ask.count .silences, ()⟩] := rfl
  have split := (List.take_append_drop 8 refusedLog).symm
  rw [later] at split
  have run : Fallible.Gives ((Desk.standard .standard false).handle
      ⟨"Q1", "cluster has gone missing", .triggered, "c1"⟩) refusedLog _ := gives_rehearse
  rw [split] at run
  refine ⟨_, _, _, split, ?_, silence_justified run⟩
  exact ⟨_, _, rfl, _, rfl, _, rfl, _, rfl, _, rfl, _, ⟨fun _ => rfl, rfl⟩, _,
    ⟨fun _ => ⟨"lsr-1", rfl⟩, fun other => absurd rfl other⟩, _, rfl, rfl⟩

end Desk

end OnCall
