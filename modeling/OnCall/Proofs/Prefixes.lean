import OnCall.Proofs.LostReplies
import OnCall.Proofs.Paging

/-!
# Carrying out a conclusion applies a prefix of its steps

The steps of a conclusion are applied in order. The first one that fails ends the execution, so what
was done is what the steps before it do.

* `Restriction.Insisted`: tries to set a restriction; `gives_retried_ensure_iff`: how many there are.
* `Action.Applied`, `Action.Failed`: the exchanges of a step that was applied, and of one that was
  not, with its failure; `gives_apply_ok_iff`, `gives_apply_error_iff`.
* `Action.Course`: steps that were applied, one behind the other, and what stopped the others;
  `gives_applyAll_iff`.
* `Scene`: what is on the incident and on the clusters; `Action.Effect`: what a step does to it.
* `Conclusion.execute_applies_prefix`: **a conclusion is carried out up to its first step that fails,
  and what is done is what the steps before that do**.
-/

namespace OnCall

/-! ## 1. Tries to set a restriction -/

namespace Restriction

open Program

variable {clusterId : String} {r : Restriction} {log : Log} {result : Except Failure Bool}

/-- **So many tries to set a restriction**, from the one with this number on. Each but the last one
failed, and behind each of those the delay of the schedule is waited. -/
inductive Insisted (backoff : Backoff) (clusterId : String) (r : Restriction) :
    Nat → Nat → Log → Except Failure Bool → Prop where
  | last {attempt : Nat} {log : Log} {result : Except Failure Bool}
      (tried : Tried clusterId r log result) : Insisted backoff clusterId r attempt 1 log result
  | again {attempt tries : Nat} {first rest : Log} {f : Failure} {result : Except Failure Bool}
      (failed : Tried clusterId r first (.error f))
      (others : Insisted backoff clusterId r (attempt + 1) tries rest result) :
      Insisted backoff clusterId r attempt (tries + 1)
        (first ++ ⟨Ask.pause (backoff.delay attempt), ()⟩ :: rest) result

theorem Insisted.pos {backoff : Backoff} {attempt tries : Nat}
    (h : Insisted backoff clusterId r attempt tries log result) : 1 ≤ tries := by
  cases h <;> omega

/-- A setting is a list, and a posting if nothing for the reason is listed. -/
theorem gives_ensure_iff :
    Fallible.Gives (ensure clusterId r) log result ↔ Tried clusterId r log result := by
  constructor
  · exact tried_of_ensure
  · intro tried
    unfold ensure
    cases tried with
    | unlisted f =>
      exact Fallible.gives_bind.mpr (.inr ⟨f, rfl, Fallible.gives_call.mpr rfl⟩)
    | @found listed set =>
      have there : (listed.any fun e => e.hasReasonOf r) = true := List.any_eq_true.mpr set
      refine Fallible.gives_bind.mpr
        (.inl ⟨_, listed, [], rfl, Fallible.gives_call.mpr rfl, ?_⟩)
      rw [if_pos there]
      exact Fallible.gives_pure.mpr ⟨rfl, rfl⟩
    | @posted listed unset reply =>
      have missing : ¬ (listed.any fun e => e.hasReasonOf r) = true :=
        fun there => unset (List.any_eq_true.mp there)
      refine Fallible.gives_bind.mpr
        (.inl ⟨[_], listed, [_], rfl, Fallible.gives_call.mpr rfl, ?_⟩)
      rw [if_neg missing]
      cases reply with
      | ok _ =>
        exact Fallible.gives_bind.mpr
          (.inl ⟨_, (), [], rfl, Fallible.gives_call.mpr rfl, Fallible.gives_pure.mpr ⟨rfl, rfl⟩⟩)
      | error f => exact Fallible.gives_bind.mpr (.inr ⟨f, rfl, Fallible.gives_call.mpr rfl⟩)

/-- From any try on: the tries end with one that succeeded, or with the last one allowed. -/
theorem run_insisting_iff {backoff : Backoff} {attempt left : Nat} :
    Run (RetryPolicy.runFrom backoff Work.pause (fun _ => pure true) (ensure clusterId r).run
        attempt left) log result ↔
      ∃ tries, Insisted backoff clusterId r attempt tries log result ∧ tries ≤ left + 1 ∧
        ∀ f, result = .error f → tries = left + 1 := by
  induction left generalizing attempt log with
  | zero =>
    constructor
    · intro ran
      exact ⟨1, .last (gives_ensure_iff.mp ran), Nat.le_refl 1, fun _ _ => rfl⟩
    · intro tried
      obtain ⟨tries, insisted, few, _⟩ := tried
      cases insisted with
      | last tried => exact gives_ensure_iff.mpr tried
      | again _ others =>
        have := others.pos
        omega
  | succ left ih =>
    rw [RetryPolicy.runFrom, run_bind]
    constructor
    · intro ran
      obtain ⟨first, result₁, second, split, tried, rest⟩ := ran
      cases result₁ with
      | ok posted =>
        obtain ⟨rfl, rfl⟩ := run_done.mp rest
        rw [split, List.append_nil]
        refine ⟨1, .last (gives_ensure_iff.mp tried), by omega, fun f failed => ?_⟩
        cases failed
      | error f =>
        obtain ⟨_, behind, rfl, others⟩ := run_ask.mp rest
        obtain ⟨tries, insisted, few, all⟩ := ih.mp others
        refine ⟨tries + 1, split ▸ .again (gives_ensure_iff.mp tried) insisted, by omega, ?_⟩
        intro g failed
        rw [all g failed]
    · intro tried
      obtain ⟨tries, insisted, few, all⟩ := tried
      cases insisted with
      | last tried =>
        cases result with
        | error f =>
          have := all f rfl
          omega
        | ok posted =>
          exact ⟨log, .ok posted, [], (List.append_nil _).symm, gives_ensure_iff.mpr tried, .done _⟩
      | @again _ tries first rest f _ failed others =>
        refine ⟨first, .error f, _, rfl, gives_ensure_iff.mpr failed, ?_⟩
        refine run_ask.mpr ⟨(), rest, rfl, ih.mpr ⟨tries, others, by omega, fun g same => ?_⟩⟩
        have := all g same
        omega

/-- **How often the setting of a restriction is tried**: until it succeeds, or as often as the policy
allows. -/
theorem gives_retried_ensure_iff {policy : RetryPolicy} :
    Fallible.Gives (Work.retried policy (ensure clusterId r)) log result ↔
      ∃ tries, Insisted policy.backoff clusterId r 1 tries log result ∧ tries ≤ policy.attempts ∧
        ∀ f, result = .error f → tries = policy.attempts := by
  have allowed : policy.attempts - 1 + 1 = policy.attempts := by
    have := policy.one_le_attempts
    omega
  have tried : Fallible.Gives (Work.retried policy (ensure clusterId r)) log result ↔
      ∃ tries, Insisted policy.backoff clusterId r 1 tries log result ∧
        tries ≤ policy.attempts - 1 + 1 ∧
        ∀ f, result = .error f → tries = policy.attempts - 1 + 1 := run_insisting_iff
  rw [tried, allowed]

end Restriction

/-! ## 2. One step -/

/-- The counter of a terminal action. -/
def Routing.counter : Routing → Counter
  | escalate _ => .escalations
  | silence _ => .silences

namespace Action

/-- **The exchanges of a step that was applied.** It makes a single call, and counts it; but the
setting of a restriction is tried again and again, and counted only if the restriction was posted. -/
inductive Applied (site : Site) : Action → Log → Prop where
  | note (text : String) :
      Applied site (.note text) [(Call.pager (.addNote site.incidentId text)).exchange (.ok ())]
  | restrict {change : Restriction.Change} {cluster : Cluster} {tries : Nat} {log : Log}
      {posted : Bool} (there : site.cluster = some cluster) (few : tries ≤ site.retry.attempts)
      (insisted : Restriction.Insisted site.retry.backoff cluster.id change.restriction 1 tries log
        (.ok posted)) :
      Applied site (.side (.restrict change))
        (log ++ if posted then [⟨Ask.count .restrictionsSet, ()⟩] else [])
  | advise (draft : Advisory.Draft) {cluster : Cluster} (there : site.cluster = some cluster) :
      Applied site (.side (.advise draft))
        [(Call.manager (.postAdvisory cluster draft.advisory)).exchange (.ok ()),
          ⟨Ask.count .advisoriesSent, ()⟩]
  | route (routing : Routing) :
      Applied site (.terminal routing)
        [(Call.pager (routing.call site.incidentId)).exchange (.ok ()),
          ⟨Ask.count routing.counter, ()⟩]

/-- **The exchanges of a step that failed, and the failure.** Its single call was refused; but the
setting of a restriction was tried as often as the policy allows, and the failure is that of the last
try. A side action without a cluster makes no call at all. -/
inductive Failed (site : Site) : Action → Log → Failure → Prop where
  | note (text : String) (f : Failure) :
      Failed site (.note text) [(Call.pager (.addNote site.incidentId text)).exchange (.error f)] f
  | homeless (side : SideAction) (nowhere : site.cluster = none) :
      Failed site (.side side) [] (.root (.noCluster (Action.side side).label))
  | restrict {change : Restriction.Change} {cluster : Cluster} {log : Log} {f : Failure}
      (there : site.cluster = some cluster)
      (insisted : Restriction.Insisted site.retry.backoff cluster.id change.restriction 1
        site.retry.attempts log (.error f)) : Failed site (.side (.restrict change)) log f
  | advise (draft : Advisory.Draft) {cluster : Cluster} (there : site.cluster = some cluster)
      (f : Failure) :
      Failed site (.side (.advise draft))
        [(Call.manager (.postAdvisory cluster draft.advisory)).exchange (.error f)] f
  | route (routing : Routing) (f : Failure) :
      Failed site (.terminal routing)
        [(Call.pager (routing.call site.incidentId)).exchange (.error f)] f

end Action

section Steps

variable {site : Site} {log : Log} {f : Failure}

/-- A call that is counted if it succeeds. -/
theorem Fallible.gives_call_counted_iff {c : Call} {counter : Counter} {r : Except Failure Unit} :
    Fallible.Gives (Work.call c >>= fun _ => liftM (Work.count counter)) log r ↔
      (∃ answer, r = .ok () ∧ log = [c.exchange (.ok answer), ⟨Ask.count counter, ()⟩]) ∨
        ∃ f, r = .error f ∧ log = [c.exchange (.error f)] := by
  rw [Fallible.gives_bind]
  constructor
  · intro ran
    rcases ran with ⟨first, answer, second, rfl, called, counted⟩ | ⟨f, failed, called⟩
    · obtain ⟨_, bumped, rfl⟩ := Fallible.gives_liftM.mp counted
      rw [Fallible.gives_call.mp called, Program.run_request.mp bumped]
      exact .inl ⟨answer, rfl, rfl⟩
    · exact .inr ⟨f, failed, Fallible.gives_call.mp called⟩
  · intro ended
    rcases ended with ⟨answer, rfl, rfl⟩ | ⟨f, rfl, rfl⟩
    · exact .inl ⟨[_], answer, [_], rfl, Fallible.gives_call.mpr rfl,
        Fallible.gives_liftM.mpr ⟨(), Program.run_request.mpr rfl, rfl⟩⟩
    · exact .inr ⟨f, rfl, Fallible.gives_call.mpr rfl⟩

/-- A restriction that was posted is counted, and one that was found is not. -/
theorem Restriction.gives_insisted_counted_iff {cluster : Cluster} {r : Restriction}
    {result : Except Failure Unit} :
    Fallible.Gives (Work.retried site.retry (Restriction.ensure cluster.id r) >>= fun posted =>
        if posted then liftM (Work.count .restrictionsSet) else pure ()) log result ↔
      (∃ posted tries first, result = .ok () ∧ tries ≤ site.retry.attempts ∧
        Insisted site.retry.backoff cluster.id r 1 tries first (.ok posted) ∧
        log = first ++ if posted then [⟨Ask.count .restrictionsSet, ()⟩] else []) ∨
      ∃ f, result = .error f ∧
        Insisted site.retry.backoff cluster.id r 1 site.retry.attempts log (.error f) := by
  rw [Fallible.gives_bind]
  constructor
  · intro ran
    rcases ran with ⟨first, posted, second, rfl, set, counted⟩ | ⟨f, failed, set⟩
    · obtain ⟨tries, insisted, few, _⟩ := gives_retried_ensure_iff.mp set
      refine .inl ⟨posted, tries, first, ?_⟩
      cases posted with
      | true =>
        obtain ⟨_, bumped, rfl⟩ := Fallible.gives_liftM.mp counted
        rw [Program.run_request.mp bumped]
        exact ⟨rfl, few, insisted, rfl⟩
      | false =>
        obtain ⟨rfl, rfl⟩ := Fallible.gives_pure.mp counted
        exact ⟨rfl, few, insisted, rfl⟩
    · obtain ⟨tries, insisted, _, all⟩ := gives_retried_ensure_iff.mp set
      rw [all f rfl] at insisted
      exact .inr ⟨f, failed, insisted⟩
  · intro ended
    rcases ended with ⟨posted, tries, first, rfl, few, insisted, rfl⟩ | ⟨f, rfl, insisted⟩
    · refine .inl ⟨first, posted, _, rfl,
        gives_retried_ensure_iff.mpr ⟨tries, insisted, few, nofun⟩, ?_⟩
      cases posted with
      | true => exact Fallible.gives_liftM.mpr ⟨(), Program.run_request.mpr rfl, rfl⟩
      | false => exact Fallible.gives_pure.mpr ⟨rfl, rfl⟩
    · exact .inr ⟨f, rfl, gives_retried_ensure_iff.mpr
        ⟨_, insisted, Nat.le_refl _, fun _ _ => rfl⟩⟩

namespace Action

theorem apply_homeless (side : SideAction) (nowhere : site.cluster = none) :
    (Action.side side).apply site = throw (.root (.noCluster (Action.side side).label)) := by
  cases side <;> simp only [apply, Site.needCluster, nowhere] <;> rfl

theorem apply_restrict (change : Restriction.Change) {cluster : Cluster}
    (there : site.cluster = some cluster) :
    (Action.side (.restrict change)).apply site =
      (Work.retried site.retry (Restriction.ensure cluster.id change.restriction) >>= fun posted =>
        if posted then liftM (Work.count .restrictionsSet) else pure ()) := by
  simp only [apply, Site.needCluster, there, pure_bind]

theorem apply_advise (draft : Advisory.Draft) {cluster : Cluster}
    (there : site.cluster = some cluster) :
    (Action.side (.advise draft)).apply site =
      (Work.call (.manager (.postAdvisory cluster draft.advisory)) >>= fun _ =>
        liftM (Work.count .advisoriesSent)) := by
  simp only [apply, Site.needCluster, there, pure_bind]
  rfl

theorem apply_terminal (routing : Routing) :
    (Action.terminal routing).apply site =
      (Work.call (.pager (routing.call site.incidentId)) >>= fun _ =>
        liftM (Work.count routing.counter)) := by
  cases routing <;> rfl

theorem applied_or_failed {a : Action} {r : Except Failure Unit}
    (ran : Fallible.Gives (a.apply site) log r) :
    (r = .ok () ∧ a.Applied site log) ∨ ∃ f, r = .error f ∧ a.Failed site log f := by
  cases a with
  | note text =>
    rw [Fallible.gives_call.mp ran]
    cases r with
    | ok _ => exact .inl ⟨rfl, .note text⟩
    | error f => exact .inr ⟨f, rfl, .note text f⟩
  | side side =>
    cases there : site.cluster with
    | none =>
      rw [apply_homeless side there] at ran
      obtain ⟨rfl, rfl⟩ := Fallible.gives_throw.mp ran
      exact .inr ⟨_, rfl, .homeless side there⟩
    | some cluster =>
      cases side with
      | restrict change =>
        rw [apply_restrict change there] at ran
        rcases Restriction.gives_insisted_counted_iff.mp ran with
          ⟨posted, tries, first, rfl, few, insisted, rfl⟩ | ⟨f, rfl, insisted⟩
        · exact .inl ⟨rfl, .restrict there few insisted⟩
        · exact .inr ⟨f, rfl, .restrict there insisted⟩
      | advise draft =>
        rw [apply_advise draft there] at ran
        rcases Fallible.gives_call_counted_iff.mp ran with ⟨_, rfl, rfl⟩ | ⟨f, rfl, rfl⟩
        · exact .inl ⟨rfl, .advise draft there⟩
        · exact .inr ⟨f, rfl, .advise draft there f⟩
  | terminal routing =>
    rw [apply_terminal] at ran
    rcases Fallible.gives_call_counted_iff.mp ran with ⟨_, rfl, rfl⟩ | ⟨f, rfl, rfl⟩
    · exact .inl ⟨rfl, .route routing⟩
    · exact .inr ⟨f, rfl, .route routing f⟩

theorem gives_apply_of_applied {a : Action} (applied : a.Applied site log) :
    Fallible.Gives (a.apply site) log (.ok ()) := by
  cases applied with
  | note text => exact Fallible.gives_call.mpr rfl
  | restrict there few insisted =>
    rw [apply_restrict _ there]
    exact Restriction.gives_insisted_counted_iff.mpr (.inl ⟨_, _, _, rfl, few, insisted, rfl⟩)
  | advise draft there =>
    rw [apply_advise draft there]
    exact Fallible.gives_call_counted_iff.mpr (.inl ⟨(), rfl, rfl⟩)
  | route routing =>
    rw [apply_terminal]
    exact Fallible.gives_call_counted_iff.mpr (.inl ⟨(), rfl, rfl⟩)

theorem gives_apply_of_failed {a : Action} (failed : a.Failed site log f) :
    Fallible.Gives (a.apply site) log (.error f) := by
  cases failed with
  | note text => exact Fallible.gives_call.mpr rfl
  | homeless side nowhere =>
    rw [apply_homeless side nowhere]
    exact Fallible.gives_throw.mpr ⟨rfl, rfl⟩
  | restrict there insisted =>
    rw [apply_restrict _ there]
    exact Restriction.gives_insisted_counted_iff.mpr (.inr ⟨f, rfl, insisted⟩)
  | advise draft there =>
    rw [apply_advise draft there]
    exact Fallible.gives_call_counted_iff.mpr (.inr ⟨f, rfl, rfl⟩)
  | route routing =>
    rw [apply_terminal]
    exact Fallible.gives_call_counted_iff.mpr (.inr ⟨f, rfl, rfl⟩)

/-- **A step is applied**, with these exchanges and no others. -/
theorem gives_apply_ok_iff {a : Action} :
    Fallible.Gives (a.apply site) log (.ok ()) ↔ a.Applied site log := by
  refine ⟨fun ran => ?_, gives_apply_of_applied⟩
  rcases applied_or_failed ran with ⟨_, applied⟩ | ⟨f, other, _⟩
  · exact applied
  · cases other

/-- **A step fails**, with these exchanges and no others. -/
theorem gives_apply_error_iff {a : Action} :
    Fallible.Gives (a.apply site) log (.error f) ↔ a.Failed site log f := by
  refine ⟨fun ran => ?_, gives_apply_of_failed⟩
  rcases applied_or_failed ran with ⟨other, _⟩ | ⟨f, same, failed⟩
  · cases other
  · cases same
    exact failed

/-! ## 3. Steps in order -/

/-- **What stopped the execution**: nothing, or the first of these steps failed. -/
inductive Stopped (site : Site) : List Action → Log → Except Failure Unit → Prop where
  | never : Stopped site [] [] (.ok ())
  | failed {a : Action} {behind : List Action} {log : Log} {f : Failure}
      (failed : a.Failed site log f) :
      Stopped site (a :: behind) log (.error (.context ("failed to " ++ a.label) f))

/-- **Steps that were applied in order, and then the execution stopped** at the others. -/
def Course (site : Site) (done others : List Action) (log : Log) (r : Except Failure Unit) : Prop :=
  ∃ parts last, log = parts.flatten ++ last ∧ List.Forall₂ (Action.Applied site) done parts ∧
    Stopped site others last r

/-- **Steps are applied up to the first that fails.** -/
theorem gives_applyAll_iff {as : List Action} {r : Except Failure Unit} :
    Fallible.Gives (applyAll site as) log r ↔
      ∃ done others, as = done ++ others ∧ Course site done others log r := by
  induction as generalizing log with
  | nil =>
    constructor
    · intro ran
      obtain ⟨rfl, rfl⟩ := Fallible.gives_pure.mp ran
      exact ⟨[], [], rfl, [], [], rfl, .nil, .never⟩
    · intro ⟨done, others, split, parts, last, whole, applied, stopped⟩
      obtain ⟨rfl, rfl⟩ := List.append_eq_nil_iff.mp split.symm
      cases applied
      cases stopped
      rw [whole]
      exact Fallible.gives_pure.mpr ⟨rfl, rfl⟩
  | cons a as ih =>
    rw [applyAll, Fallible.gives_bind]
    constructor
    · intro ran
      rcases ran with ⟨first, _, second, rfl, described, rest⟩ | ⟨g, rfl, described⟩
      · obtain ⟨_ | _, ran, same⟩ := Fallible.gives_adapt.mp described
        · cases same
        obtain ⟨done, others, rfl, parts, last, rfl, applied, stopped⟩ := ih.mp rest
        exact ⟨a :: done, others, rfl, first :: parts, last, (List.append_assoc ..).symm,
          .cons (gives_apply_ok_iff.mp ran) applied, stopped⟩
      · obtain ⟨f | _, ran, same⟩ := Fallible.gives_adapt.mp described
        · cases same
          exact ⟨[], a :: as, rfl, [], log, rfl, .nil, .failed (gives_apply_error_iff.mp ran)⟩
        · cases same
    · intro ⟨done, others, split, parts, last, whole, applied, stopped⟩
      cases applied with
      | nil =>
        rw [List.nil_append] at split
        subst split
        cases stopped with
        | @failed _ _ _ f failed =>
          refine .inr ⟨_, rfl, Fallible.gives_adapt.mpr ⟨.error f, ?_, rfl⟩⟩
          rw [whole]
          exact gives_apply_error_iff.mpr failed
      | @cons _ first done parts now applied =>
        obtain ⟨rfl, rfl⟩ := List.cons_eq_cons.mp split
        refine .inl ⟨first, (), parts.flatten ++ last, ?_,
          Fallible.gives_adapt.mpr ⟨.ok (), gives_apply_ok_iff.mpr now, rfl⟩,
          ih.mpr ⟨done, others, rfl, parts, last, rfl, applied, stopped⟩⟩
        rw [whole, List.flatten_cons, List.append_assoc]

end Action

end Steps

/-! ## 4. What is done -/

/-- The call that the pager accepted, if the exchange is one. -/
def Exchange.accepted? : Exchange collaboration → Option PagerCall
  | ⟨Ask.call (.pager call), .ok _⟩ => some call
  | _ => none

/-- The advisory that was posted, if the exchange posted one. -/
def Exchange.advised? : Exchange collaboration → Option (Cluster × Advisory)
  | ⟨Ask.call (.manager (.postAdvisory cluster advisory)), .ok _⟩ => some (cluster, advisory)
  | _ => none

/-- **What is on the incidents and on the clusters.** -/
@[ext] structure Scene where
  /-- The notes, pages and silences that the pager accepted, in order. -/
  paged : List PagerCall
  /-- The restrictions on each cluster. -/
  held : String → List Restriction
  /-- The advisories that were posted, in order. -/
  advised : List (Cluster × Advisory)

/-- **A scene before and after an exchange.** Restrictions are listed as they are, a posted one is
given an id, and a call that failed has changed nothing. -/
structure Scene.Step (s : Scene) (e : Exchange collaboration) (t : Scene) : Prop where
  paged : t.paged = s.paged ++ e.accepted?.toList
  held : ∀ clusterId, Restriction.Step clusterId (s.held clusterId) e (t.held clusterId)
  advised : t.advised = s.advised ++ e.advised?.toList

/-- The exchange leaves every scene as it is. -/
structure Exchange.Idle (e : Exchange collaboration) : Prop where
  accepted : e.accepted? = none
  kept : ∀ clusterId held held', Restriction.Step clusterId held e held' → held' = held
  advised : e.advised? = none

/-- **What a step does.** A restriction that is set for the same reason already is not posted
again. -/
inductive Action.Effect (site : Site) : Action → Scene → Scene → Prop where
  | note (text : String) (s : Scene) :
      Effect site (.note text) s { s with paged := s.paged ++ [.addNote site.incidentId text] }
  | found {change : Restriction.Change} {cluster : Cluster} {s : Scene}
      (there : site.cluster = some cluster)
      (set : change.restriction.Held (s.held cluster.id)) :
      Effect site (.side (.restrict change)) s s
  | restrict {change : Restriction.Change} {cluster : Cluster} {s : Scene}
      (there : site.cluster = some cluster)
      (unset : ¬ change.restriction.Held (s.held cluster.id)) (given : String) :
      Effect site (.side (.restrict change)) s { s with
        held := Function.update s.held cluster.id
          (s.held cluster.id ++ [{ change.restriction with id := some given }]) }
  | advise (draft : Advisory.Draft) {cluster : Cluster} (there : site.cluster = some cluster)
      (s : Scene) :
      Effect site (.side (.advise draft)) s
        { s with advised := s.advised ++ [(cluster, draft.advisory)] }
  | route (routing : Routing) (s : Scene) :
      Effect site (.terminal routing) s
        { s with paged := s.paged ++ [routing.call site.incidentId] }

/-- What steps do, one behind the other. -/
inductive Action.Effects (site : Site) : List Action → Scene → Scene → Prop where
  | nil (s : Scene) : Effects site [] s s
  | cons {a : Action} {as : List Action} {s t u : Scene} (first : a.Effect site s t)
      (others : Effects site as t u) : Effects site (a :: as) s u

namespace Exchange

/-- A call that failed. -/
theorem idle_error (c : Call) (f : Failure) : (c.exchange (.error f)).Idle := by
  cases c with
  | manager call => cases call <;> exact ⟨rfl, fun _ _ _ same => same, rfl⟩
  | _ => exact ⟨rfl, fun _ _ _ same => same, rfl⟩

theorem idle_pause (span : Span) : Idle ⟨Ask.pause span, ()⟩ := ⟨rfl, fun _ _ _ same => same, rfl⟩

theorem idle_count (counter : Counter) : Idle ⟨Ask.count counter, ()⟩ :=
  ⟨rfl, fun _ _ _ same => same, rfl⟩

theorem idle_listed (clusterId : String) (listed : List Restriction) :
    Idle (Call.exchange (.manager (.restrictions clusterId)) (.ok listed)) :=
  ⟨rfl, fun _ _ _ step => step.2, rfl⟩

theorem Idle.eq {e : Exchange collaboration} {s t : Scene} (idle : e.Idle) (step : s.Step e t) :
    t = s := by
  obtain ⟨paged, held, advised⟩ := step
  rw [idle.accepted] at paged
  rw [idle.advised] at advised
  refine Scene.ext (paged.trans (List.append_nil _)) ?_ (advised.trans (List.append_nil _))
  funext clusterId
  exact idle.kept _ _ _ (held clusterId)

end Exchange

section Done

variable {site : Site} {log : Log} {s t : Scene} {f : Failure}

theorem Scene.eq_of_idle (idle : ∀ e ∈ log, e.Idle) (along : Along Scene.Step s log t) : t = s :=
  along.eq_of_still fun e mem _ _ step => (idle e mem).eq step

/-- A try that failed has changed nothing. -/
theorem Restriction.Tried.idle {clusterId : String} {r : Restriction}
    (h : Tried clusterId r log (.error f)) : ∀ e ∈ log, e.Idle := by
  generalize failed : (Except.error f : Except Failure Bool) = result at h
  cases h with
  | unlisted g => exact List.forall_mem_singleton.mpr (Exchange.idle_error _ g)
  | found set => cases failed
  | posted unset reply =>
    cases reply with
    | ok _ => cases failed
    | error g =>
      exact List.forall_mem_cons.mpr ⟨Exchange.idle_listed clusterId _,
        List.forall_mem_singleton.mpr (Exchange.idle_error _ g)⟩

theorem Restriction.Insisted.idle {backoff : Backoff} {clusterId : String} {r : Restriction}
    {attempt tries : Nat} (h : Insisted backoff clusterId r attempt tries log (.error f)) :
    ∀ e ∈ log, e.Idle := by
  generalize failed : (Except.error f : Except Failure Bool) = result at h
  induction h with
  | last tried =>
    subst failed
    exact tried.idle
  | again tried others ih =>
    exact List.forall_mem_append.mpr
      ⟨tried.idle, List.forall_mem_cons.mpr ⟨Exchange.idle_pause _, ih failed⟩⟩

/-- **A step that failed has changed nothing.** -/
theorem Action.Failed.idle {a : Action} (h : a.Failed site log f) : ∀ e ∈ log, e.Idle := by
  cases h with
  | note text => exact List.forall_mem_singleton.mpr (Exchange.idle_error _ f)
  | homeless => exact List.forall_mem_nil _
  | restrict _ insisted => exact insisted.idle
  | advise => exact List.forall_mem_singleton.mpr (Exchange.idle_error _ f)
  | route => exact List.forall_mem_singleton.mpr (Exchange.idle_error _ f)

/-- A try that succeeded has found the restriction, or posted it. -/
theorem Restriction.Tried.effect {change : Change} {cluster : Cluster} {posted : Bool}
    (there : site.cluster = some cluster)
    (h : Tried cluster.id change.restriction log (.ok posted)) (along : Along Scene.Step s log t) :
    (Action.side (.restrict change)).Effect site s t := by
  generalize ended : (Except.ok posted : Except Failure Bool) = result at h
  cases h with
  | unlisted g => cases ended
  | @found listed set =>
    have step := Along.singleton_iff.mp along
    have told : listed = s.held cluster.id := (step.held cluster.id).1 rfl
    rw [(Exchange.idle_listed _ _).eq step]
    exact .found there (told ▸ set)
  | @posted listed unset reply =>
    obtain ⟨mid, first, second⟩ := Along.cons_iff.mp along
    have told : listed = s.held cluster.id := (first.held cluster.id).1 rfl
    rw [(Exchange.idle_listed _ _).eq first] at second
    obtain ⟨paged, held, advised⟩ := Along.singleton_iff.mp second
    cases reply with
    | error g => cases ended
    | ok _ =>
      obtain ⟨given, added⟩ := (held cluster.id).1 rfl
      have same : t = { s with
          held := Function.update s.held cluster.id
            (s.held cluster.id ++ [{ change.restriction with id := some given }]) } := by
        refine Scene.ext (paged.trans (List.append_nil _)) ?_ (advised.trans (List.append_nil _))
        refine Function.eq_update_iff.mpr ⟨added, fun other elsewhere => ?_⟩
        exact (held other).2 (Ne.symm elsewhere)
      rw [same]
      exact .restrict there (told ▸ unset) given

theorem Restriction.Insisted.effect {backoff : Backoff} {change : Change} {cluster : Cluster}
    {posted : Bool} {attempt tries : Nat} (there : site.cluster = some cluster)
    (h : Insisted backoff cluster.id change.restriction attempt tries log (.ok posted))
    (along : Along Scene.Step s log t) : (Action.side (.restrict change)).Effect site s t := by
  generalize ended : (Except.ok posted : Except Failure Bool) = result at h
  induction h with
  | last tried =>
    subst ended
    exact tried.effect there along
  | again failed others ih =>
    obtain ⟨mid, before, behind⟩ := Along.append_iff.mp along
    rw [Scene.eq_of_idle failed.idle before] at behind
    obtain ⟨next, waited, rest⟩ := Along.cons_iff.mp behind
    rw [(Exchange.idle_pause _).eq waited] at rest
    exact ih rest ended

/-- A counted call does what the call does. -/
theorem Scene.eq_of_counted {e : Exchange collaboration} {counter : Counter}
    (along : Along Scene.Step s [e, ⟨Ask.count counter, ()⟩] t) : s.Step e t := by
  obtain ⟨mid, first, second⟩ := Along.cons_iff.mp along
  rw [(Exchange.idle_count counter).eq (Along.singleton_iff.mp second)]
  exact first

theorem Scene.eq_of_accepted {call : PagerCall}
    (step : s.Step ((Call.pager call).exchange (.ok ())) t) :
    t = { s with paged := s.paged ++ [call] } :=
  Scene.ext step.paged (funext fun clusterId => step.held clusterId)
    (step.advised.trans (List.append_nil _))

theorem Scene.eq_of_advised {cluster : Cluster} {advisory : Advisory}
    (step : s.Step ((Call.manager (.postAdvisory cluster advisory)).exchange (.ok ())) t) :
    t = { s with advised := s.advised ++ [(cluster, advisory)] } :=
  Scene.ext (step.paged.trans (List.append_nil _)) (funext fun clusterId => step.held clusterId)
    step.advised

/-- **A step that was applied has had its effect.** -/
theorem Action.Applied.effect {a : Action} (h : a.Applied site log)
    (along : Along Scene.Step s log t) : a.Effect site s t := by
  cases h with
  | note text =>
    rw [Scene.eq_of_accepted (Along.singleton_iff.mp along)]
    exact .note text s
  | @restrict change cluster tries first posted there few insisted =>
    obtain ⟨mid, set, counted⟩ := Along.append_iff.mp along
    have idle : ∀ e ∈ (if posted then [⟨Ask.count .restrictionsSet, ()⟩] else [] : Log), e.Idle := by
      cases posted with
      | true => exact List.forall_mem_singleton.mpr (Exchange.idle_count _)
      | false => exact List.forall_mem_nil _
    rw [Scene.eq_of_idle idle counted]
    exact insisted.effect there set
  | advise draft there =>
    rw [Scene.eq_of_advised (Scene.eq_of_counted along)]
    exact .advise draft there s
  | route routing =>
    rw [Scene.eq_of_accepted (Scene.eq_of_counted along)]
    exact .route routing s

/-- **Steps that were applied have had their effects**, and what stopped the others had none. -/
theorem Action.Course.effects {done others : List Action} {r : Except Failure Unit}
    (h : Course site done others log r) (along : Along Scene.Step s log t) :
    Effects site done s t := by
  obtain ⟨parts, last, rfl, applied, stopped⟩ := h
  induction applied generalizing s with
  | nil =>
    have same : t = s := by
      cases stopped with
      | never => exact Along.nil_iff.mp along
      | failed failed => exact Scene.eq_of_idle failed.idle along
    rw [same]
    exact .nil s
  | cons now _ ih =>
    rw [List.flatten_cons, List.append_assoc] at along
    obtain ⟨mid, first, rest⟩ := Along.append_iff.mp along
    exact .cons (now.effect first) (ih rest)

end Done

/-! ## 5. Conclusions -/

section Conclusions

variable {site : Site} {log : Log} {r : Except Failure Unit}

/-- The execution succeeded if there is no step that it stopped at. -/
theorem Action.Course.ok_iff {done others : List Action} (h : Course site done others log r) :
    r = .ok () ↔ others = [] := by
  obtain ⟨_, _, _, _, stopped⟩ := h
  cases stopped with
  | never => exact ⟨fun _ => rfl, fun _ => rfl⟩
  | failed _ => exact ⟨nofun, nofun⟩

/-- A request belongs to a step that was applied, or to the one that failed. -/
theorem Action.Course.asks {done others : List Action} (h : Course site done others log r) :
    ∀ e ∈ log, ∃ a ∈ done ++ others.take 1, a.Asks site e.request := by
  obtain ⟨parts, last, rfl, applied, stopped⟩ := h
  induction applied with
  | nil =>
    intro e mem
    cases stopped with
    | never => cases mem
    | @failed a _ _ f failed =>
      have ran := Action.gives_apply_error_iff.mpr failed
      exact ⟨a, List.mem_singleton_self a, (Action.only_apply site a).of_run ran e mem⟩
  | @cons a part done parts now _ ih =>
    intro e mem
    rw [List.flatten_cons, List.append_assoc] at mem
    rcases List.mem_append.mp mem with mem | mem
    · have ran := Action.gives_apply_ok_iff.mpr now
      exact ⟨a, List.mem_cons_self, (Action.only_apply site a).of_run ran e mem⟩
    · obtain ⟨b, reached, asked⟩ := ih e mem
      exact ⟨b, List.mem_cons_of_mem a reached, asked⟩

/-- Side actions that were applied are no matter of the pager. -/
theorem Action.pagerCalls_sides {sides : List SideAction} {parts : List Log}
    (applied : List.Forall₂ (Action.Applied site) (sides.map .side) parts) :
    pagerCalls parts.flatten = [] := by
  induction sides generalizing parts with
  | nil =>
    cases applied
    rfl
  | cons side sides ih =>
    cases applied with
    | cons now others =>
      have quiet := (Action.only_side site side).of_run (Action.gives_apply_ok_iff.mpr now)
      rw [List.flatten_cons, pagerCalls_append, pagerCalls_eq_nil quiet, ih others]
      rfl

/-- In front of a side action stand the note and other side actions. -/
theorem Conclusion.before_side {c : Conclusion} {done others : List Action} {side : SideAction}
    (split : c.actions = done ++ .side side :: others) :
    ∃ sides : List SideAction, done = .note c.note :: sides.map .side := by
  cases done with
  | nil => cases (List.cons_eq_cons.mp split).1
  | cons a done =>
    obtain ⟨rfl, rest⟩ := List.cons_eq_cons.mp split
    rcases List.append_eq_append_iff.mp rest with ⟨more, rfl, last⟩ | ⟨more, front, _⟩
    · -- only the terminal action would be left for the side action
      have mem : Action.side side ∈ [.terminal c.routing] := by
        rw [last]
        simp
      cases List.mem_singleton.mp mem
    · obtain ⟨sides, _, _, same, _⟩ := List.map_eq_append_iff.mp front
      exact ⟨sides, by rw [same]⟩

/-- **Behind a side action that failed, the incident is neither paged for nor silenced**: the pager
has seen the note, and nothing else. -/
theorem Conclusion.pagerCalls_of_side_failed {c : Conclusion} {done others : List Action}
    {side : SideAction} (split : c.actions = done ++ .side side :: others)
    (h : Action.Course site done (.side side :: others) log r) :
    pagerCalls log = [(.addNote site.incidentId c.note, .ok ())] := by
  obtain ⟨parts, last, rfl, applied, stopped⟩ := h
  obtain ⟨sides, rfl⟩ := Conclusion.before_side split
  cases stopped with
  | failed failed =>
    have quiet := (Action.only_side site side).of_run (Action.gives_apply_error_iff.mpr failed)
    cases applied with
    | cons noted applied =>
      cases noted with
      | note text =>
        rw [pagerCalls_append, pagerCalls_eq_nil quiet, List.append_nil, List.flatten_cons,
          pagerCalls_append, Action.pagerCalls_sides applied]
        rfl

end Conclusions

end OnCall
