import OnCall.Proofs.Metering
import OnCall.Proofs.Paging

/-!
# The counters agree with what was done

Each counter is bumped in another place: when a handling begins, between two attempts, and behind
each step of a conclusion that had an effect. A call that fails is not counted.

* `counted`, `effects`: the counters that a run bumps, and those that tell of its successful calls;
  `Tally.after`: the values of the counters after a run.
* `Conclusion.counted_execute`: **of a conclusion that is carried out, exactly what had an effect is
  counted**, in the same order.
* `Accounted`: what is counted in a part of a run; parts add up.
* `Desk.counters_agree`: **however many alerts are handled, and whatever fails, the counters agree
  with what was done**.
-/

namespace OnCall

/-! ## 1. What is counted and what was done -/

/-- The counter that an exchange bumps, if it does. -/
def Exchange.counted? : Exchange collaboration → Option Counter
  | ⟨Ask.count c, _⟩ => some c
  | _ => none

/-- The counters that a run bumps, in order. -/
def counted (log : Log) : List Counter := log.filterMap Exchange.counted?

/-- The counter that tells of the successful calls of an operation. -/
def Operation.counter? : Operation → Option Counter
  | .postRestriction => some .restrictionsSet
  | .postAdvisory => some .advisoriesSent
  | .escalate => some .escalations
  | .silence => some .silences
  | _ => none

/-- The counter that tells of an exchange, if it is a successful call of such an operation. -/
def Exchange.effect? : Exchange collaboration → Option Counter
  | ⟨Ask.call c, .ok _⟩ => c.operation.counter?
  | _ => none

/-- The counters that tell of the successful calls of a run, in order. -/
def effects (log : Log) : List Counter := log.filterMap Exchange.effect?

/-- The exchange is a successful call of an operation. -/
def Exchange.succeeds (op : Operation) : Exchange collaboration → Bool
  | ⟨Ask.call c, .ok _⟩ => c.operation = op
  | _ => false

/-- The number of successful calls of an operation. -/
def succeeded (op : Operation) (log : Log) : Nat := log.countP (Exchange.succeeds op)

section Views

variable {first second log : Log}

theorem counted_append : counted (first ++ second) = counted first ++ counted second :=
  List.filterMap_append

theorem effects_append : effects (first ++ second) = effects first ++ effects second :=
  List.filterMap_append

theorem mem_counted {c : Counter} : c ∈ counted log ↔ ∃ e ∈ log, e.request = Ask.count c := by
  refine List.mem_filterMap.trans (exists_congr fun e => and_congr_right fun _ => ?_)
  obtain ⟨q, reply⟩ := e
  constructor
  · intro bumps
    cases q with
    | count counter => exact congrArg Ask.count (Option.some.inj bumps)
    | _ => cases bumps
  · rintro rfl
    rfl

/-- No two operations have one counter. -/
theorem Operation.eq_of_counter? {a b : Operation} {c : Counter} (ha : a.counter? = some c)
    (hb : b.counter? = some c) : a = b := by
  have known (op : Operation) (h : op.counter? = some c) :
      (op = .postRestriction ∧ c = .restrictionsSet) ∨ (op = .postAdvisory ∧ c = .advisoriesSent) ∨
        (op = .escalate ∧ c = .escalations) ∨ (op = .silence ∧ c = .silences) := by
    cases op <;> simp_all [counter?]
  have := known a ha
  have := known b hb
  grind

/-- The calls that a counter tells of are the successful ones of its operation. -/
theorem count_effects {op : Operation} {c : Counter} (told : op.counter? = some c) :
    (effects log).count c = succeeded op log := by
  rw [effects, List.count_filterMap, succeeded]
  refine List.countP_congr fun e _ => ?_
  obtain ⟨q, reply⟩ := e
  cases q with
  | call call =>
    cases reply with
    | error f => exact ⟨nofun, nofun⟩
    | ok v =>
      rw [Exchange.effect?, Exchange.succeeds, beq_iff_eq, decide_eq_true_iff]
      constructor
      · exact fun tells => Operation.eq_of_counter? tells told
      · exact fun same => same ▸ told
  | _ => exact ⟨nofun, nofun⟩

end Views

/-! ## 2. The values of the counters -/

/-- **The values of the counters after a run.** -/
def Tally.after (t : Tally) (log : Log) : Tally := (counted log).foldl (fun t c => t.bump c) t

/-- A counter grows by the number of times that it was bumped. -/
theorem Tally.get_after (t : Tally) (log : Log) (c : Counter) :
    (t.after log).get c = t.get c + (counted log).count c := by
  rw [Tally.after]
  generalize counted log = bumps
  induction bumps generalizing t with
  | nil => rfl
  | cons b bumps ih =>
    rw [List.foldl_cons, ih, get_bump, List.count_cons]
    by_cases same : b = c
    · simp only [same, if_true, beq_self_eq_true]
      omega
    · simp [same]

theorem Tally.after_cons (t : Tally) (e : Exchange collaboration) (log : Log) :
    t.after (e :: log) = (t.after [e]).after log := by
  rw [after, after, after, ← List.foldl_append, ← counted_append, List.singleton_append]

namespace Rehearsal

theorem tally_record (r : Restriction) (s : Rehearsal) : (s.record r).tally = s.tally := by
  unfold record
  split <;> rfl

theorem tally_delete (id : String) (s : Rehearsal) : (s.delete id).tally = s.tally := by
  unfold delete
  split
  · rfl
  · rw [tally_record]

theorem tally_serve (s : Rehearsal) (c : Call) : (s.serve c).2.tally = s.tally := by
  cases c with
  | manager call =>
    cases call with
    | cluster id =>
      simp only [serve, manager]
      split
      · split <;> rfl
      · rfl
    | postRestriction id r => exact tally_record r (s.keep r)
    | deleteRestriction id restrictionId => exact tally_delete restrictionId s
    | _ => rfl
  | deployment id =>
    simp only [serve]
    split <;> rfl
  | verifyEgress target =>
    simp only [serve, report]
    split <;> rfl
  | _ => rfl

/-- Only a count changes the counters of a rehearsal. -/
theorem tally_answer (q : Ask) (reply : q.Reply) (s : Rehearsal) :
    (answer q s).2.tally = s.tally.after [⟨q, reply⟩] := by
  cases q with
  | call c =>
    simp only [answer]
    split
    · rfl
    · exact tally_serve _ c
  | _ => rfl

/-- What a rehearsal reports is a run of the program. -/
theorem run_played {α : Type} (p : Work α) (s : Rehearsal) :
    Program.Run p (s.run p).1 (s.run p).2.1 :=
  Program.run_play _ p s

/-- So it is for a program that fills a dossier. -/
theorem gives_played {α : Type} (x : Desk.Filing α) (d : Dossier) (s : Rehearsal) :
    Desk.Filing.Gives x d (s.run (x.run d)).1 (s.run (x.run d)).2.1.1 (s.run (x.run d)).2.1.2 :=
  run_played (x.run d) s

/-- And for one that gets what is missing there. -/
theorem resolves_played {α : Type} (x : Resolving α) (d : Dossier) (s : Rehearsal) :
    Resolving.Gives x d (s.run (x.run.run d)).1 (s.run (x.run.run d)).2.1.1
      (s.run (x.run.run d)).2.1.2 :=
  run_played (x.run.run d) s

/-- **The counters of a rehearsal are those of its exchanges.** -/
theorem tally_run {α : Type} (p : Work α) (s : Rehearsal) :
    (s.run p).2.2.tally = s.tally.after (s.run p).1 := by
  induction p generalizing s with
  | done a => rfl
  | ask q next ih =>
    have rest := ih (answer q s).1 (answer q s).2
    rw [tally_answer q (answer q s).1] at rest
    exact rest.trans (Tally.after_cons ..).symm

end Rehearsal

/-! ## 3. Carrying out a conclusion -/

section Execution

variable {site : Site} {log : Log} {r : Except Failure Unit}

/-- A call that is counted if it succeeds. -/
theorem counted_call {c : Call} {counter : Counter} (told : c.operation.counter? = some counter)
    (h : Fallible.Gives (Work.call c >>= fun _ => liftM (Work.count counter)) log r) :
    counted log = effects log := by
  rcases Fallible.gives_bind.mp h with ⟨l₁, v, l₂, rfl, called, bumped⟩ | ⟨f, rfl, called⟩
  · obtain ⟨_, run, rfl⟩ := Fallible.gives_liftM.mp bumped
    rw [Fallible.gives_call.mp called, Program.run_request.mp run]
    have done : (c.exchange (.ok v)).effect? = some counter := told
    rw [effects, List.singleton_append, List.filterMap_cons_some done]
    rfl
  · rw [Fallible.gives_call.mp called]
    rfl

/-- What is to be counted, by the answer whether a restriction was posted. -/
def Restriction.toCount : Except Failure Bool → List Counter
  | .ok true => [.restrictionsSet]
  | _ => []

/-- Posting a restriction, unless one is set, counts nothing; it has an effect if it was posted. -/
theorem counted_ensure {id : String} {x : Restriction} {r : Except Failure Bool}
    (h : Fallible.Gives (Restriction.ensure id x) log r) :
    counted log = [] ∧ effects log = Restriction.toCount r := by
  rcases Fallible.gives_bind.mp h with ⟨l₁, listed, l₂, rfl, asked, h₁⟩ | ⟨f, rfl, asked⟩
  · rw [Fallible.gives_call.mp asked]
    split at h₁
    · obtain ⟨rfl, rfl⟩ := Fallible.gives_pure.mp h₁
      exact ⟨rfl, rfl⟩
    · rcases Fallible.gives_bind.mp h₁ with ⟨l₃, _, l₄, rfl, posted, ended⟩ | ⟨f, rfl, posted⟩
      · obtain ⟨rfl, rfl⟩ := Fallible.gives_pure.mp ended
        rw [Fallible.gives_call.mp posted]
        exact ⟨rfl, rfl⟩
      · rw [Fallible.gives_call.mp posted]
        exact ⟨rfl, rfl⟩
  · rw [Fallible.gives_call.mp asked]
    exact ⟨rfl, rfl⟩

/-- Failed tries to set a restriction had no effect, and are not counted. -/
theorem counted_failed_ensures {id : String} {x : Restriction} {n : Nat}
    (tries : Retries (Fallible.Try (Restriction.ensure id x)) Pausing n () log ()) :
    counted log = [] ∧ effects log = [] := by
  induction n generalizing log with
  | zero =>
    cases tries
    exact ⟨rfl, rfl⟩
  | succ n ih =>
    cases tries with
    | more failed next others =>
      obtain ⟨span, rfl⟩ := next
      obtain ⟨uncounted, without⟩ := counted_ensure failed
      obtain ⟨uncounted', without'⟩ := ih others
      simp only [counted_append, effects_append, uncounted, without, uncounted', without']
      exact ⟨rfl, rfl⟩

theorem counted_retried_ensure {id : String} {x : Restriction} {policy : RetryPolicy}
    {r : Except Failure Bool}
    (h : Fallible.Gives (Work.retried policy (Restriction.ensure id x)) log r) :
    counted log = [] ∧ effects log = Restriction.toCount r := by
  obtain ⟨n, earlier, last, _, rfl, tries, final, _⟩ := Fallible.gives_retried h
  obtain ⟨uncounted, without⟩ := counted_failed_ensures tries
  rw [counted_append, effects_append, uncounted, without]
  exact counted_ensure final

/-- **A step is counted exactly if it had an effect.** -/
theorem Action.counted_apply {a : Action} (h : Fallible.Gives (a.apply site) log r) :
    counted log = effects log := by
  cases a with
  | note text =>
    rw [Fallible.gives_call.mp h]
    cases r <;> rfl
  | side side =>
    cases side with
    | restrict change =>
      rcases Fallible.gives_bind.mp h with ⟨l₁, cluster, l₂, rfl, needed, h₁⟩ | ⟨f, _, needed⟩
      · rw [site.gives_needCluster needed, List.nil_append]
        rcases Fallible.gives_bind.mp h₁ with ⟨l₃, posted, l₄, rfl, set, bumped⟩ | ⟨f, rfl, set⟩
        · obtain ⟨uncounted, effect⟩ := counted_retried_ensure set
          rw [counted_append, effects_append, uncounted, effect]
          cases posted with
          | true =>
            obtain ⟨_, run, _⟩ := Fallible.gives_liftM.mp bumped
            rw [Program.run_request.mp run]
            rfl
          | false =>
            obtain ⟨rfl, _⟩ := Fallible.gives_pure.mp bumped
            rfl
        · obtain ⟨uncounted, effect⟩ := counted_retried_ensure set
          rw [uncounted, effect]
          rfl
      · rw [site.gives_needCluster needed]
        rfl
    | advise draft =>
      rcases Fallible.gives_bind.mp h with ⟨l₁, cluster, l₂, rfl, needed, h₁⟩ | ⟨f, _, needed⟩
      · rw [site.gives_needCluster needed, List.nil_append]
        exact counted_call rfl h₁
      · rw [site.gives_needCluster needed]
        rfl
  | terminal routing =>
    cases routing with
    | escalate reason => exact counted_call rfl h
    | silence reason => exact counted_call rfl h

theorem Action.counted_applyAll {as : List Action}
    (h : Fallible.Gives (applyAll site as) log r) : counted log = effects log := by
  induction as generalizing log with
  | nil =>
    obtain ⟨rfl, _⟩ := Fallible.gives_pure.mp h
    rfl
  | cons a as ih =>
    rcases gives_applyAll_cons h with ⟨l₁, l₂, rfl, applied, others⟩ | ⟨f, _, refused, _⟩
    · rw [counted_append, effects_append, counted_apply applied, ih others]
    · exact counted_apply refused

/-- **Of a conclusion that is carried out, exactly what had an effect is counted**, in the same
order, and up to the step that failed. -/
theorem Conclusion.counted_execute {c : Conclusion}
    (h : Fallible.Gives (c.execute site) log r) : counted log = effects log :=
  Action.counted_applyAll h

end Execution

/-! ## 4. Parts of a run -/

/-- **What is counted in a part of a run**: so many handlings and so many repetitions of attempts;
and of what else is counted, exactly what had an effect. -/
structure Accounted (handled repeated : Nat) (log : Log) : Prop where
  handled : (counted log).count .alertsHandled = handled
  repeated : (counted log).count .infrastructureRetries = repeated
  effects : ∀ op c, Operation.counter? op = some c → (counted log).count c = succeeded op log

namespace Accounted

variable {handled handled' repeated repeated' : Nat} {first second log : Log}

theorem append (h₁ : Accounted handled repeated first) (h₂ : Accounted handled' repeated' second) :
    Accounted (handled + handled') (repeated + repeated') (first ++ second) where
  handled := by rw [counted_append, List.count_append, h₁.handled, h₂.handled]
  repeated := by rw [counted_append, List.count_append, h₁.repeated, h₂.repeated]
  effects := fun op c told => by
    rw [counted_append, List.count_append, h₁.effects op c told, h₂.effects op c told, succeeded,
      succeeded, succeeded, List.countP_append]

/-- A repetition is counted between two parts. -/
theorem again (h₁ : Accounted 0 0 first) (wait : Span) (h₂ : Accounted 0 repeated second) :
    Accounted 0 (repeated + 1)
      (first ++ ([⟨Ask.count .infrastructureRetries, ()⟩, ⟨Ask.pause wait, ()⟩] ++ second)) := by
  have one : Accounted 0 1 [⟨Ask.count .infrastructureRetries, ()⟩, ⟨Ask.pause wait, ()⟩] :=
    ⟨rfl, rfl, fun op c told => by cases op <;> cases told <;> rfl⟩
  have whole := h₁.append (one.append h₂)
  simpa only [Nat.zero_add, Nat.add_comm 1] using whole

/-- A part in which exactly what had an effect is counted. -/
theorem of_agreeing (same : counted log = OnCall.effects log) : Accounted 0 0 log := by
  have apart (c : Counter) (untold : ∀ op : Operation, op.counter? ≠ some c) :
      (counted log).count c = 0 := by
    rw [same, List.count_eq_zero]
    intro mem
    obtain ⟨⟨q, reply⟩, _, tells⟩ := List.mem_filterMap.mp mem
    cases q with
    | call call =>
      cases reply with
      | error f => cases tells
      | ok v => exact untold _ tells
    | _ => cases tells
  refine ⟨apart _ fun op => ?_, apart _ fun op => ?_, fun op c told => ?_⟩
  · cases op <;> nofun
  · cases op <;> nofun
  · rw [same, count_effects told]

end Accounted

/-- A request that has no effect that is counted, and counts nothing but lifted restrictions. -/
def Ask.Bare : Ask → Prop
  | .call c => c.operation.counter? = none
  | .count c => c = .restrictionsRemoved
  | _ => True

theorem Ask.admits_bare (lifts : Prop) : Ask.Admits Ask.Bare lifts where
  look := by
    intro c kept read
    cases c with
    | manager call => cases call <;> first | exact absurd rfl kept | exact absurd rfl read | rfl
    | pager call => exact absurd rfl read
    | cloud client call => cases call <;> rfl
    | _ => rfl
  analyze := fun _ _ => trivial
  pause := fun _ => trivial
  now := trivial
  delete := fun _ _ _ => rfl
  removed := fun _ => rfl

theorem Accounted.of_bare {log : Log} (bare : ∀ e ∈ log, Ask.Bare e.request) : Accounted 0 0 log := by
  have none' (c : Counter) (other : c ≠ .restrictionsRemoved) : (counted log).count c = 0 := by
    rw [List.count_eq_zero]
    intro mem
    obtain ⟨e, he, asked⟩ := mem_counted.mp mem
    have only := bare e he
    rw [asked] at only
    exact other only
  refine ⟨none' _ (by decide), none' _ (by decide), fun op c told => ?_⟩
  rw [none' c (by rintro rfl; cases op <;> cases told), Eq.comm, succeeded, List.countP_eq_zero]
  intro e he succeeds
  obtain ⟨q, reply⟩ := e
  have quiet := bare _ he
  cases q with
  | call call =>
    cases reply with
    | error f => cases succeeds
    | ok v =>
      have same : call.operation = op := of_decide_eq_true succeeds
      have without : call.operation.counter? = none := quiet
      rw [same, told] at without
      cases without
  | _ => cases succeeds

namespace Desk

variable {d : Desk} {i : Investigation} {alert : Alert} {s s' : Dossier} {log : Log}

theorem accounted_attempt {r : Except Failure (Context × Conclusion)}
    (run : Filing.Gives (d.attempt i alert) s log r s') : Accounted 0 0 log :=
  .of_bare ((only_attempt_of (Ask.admits_bare _) s).of_run run)

/-- **Attempts are counted as repetitions**, but for the first one. -/
theorem accounted_meteredFrom {backoff : Backoff} {attempt left made made' : Nat}
    {r : Except Failure (Context × Conclusion)}
    (run : Filing.Gives ((RetryPolicy.meteredFrom backoff
      (fun span => liftM (n := Filing) (Work.pause span)) (fun f => liftM (n := Filing) (repeatable f))
      (d.attempt i alert) attempt left).run made) s log (r, made') s') :
    ∃ repeated, made' = made + repeated + 1 ∧ Accounted 0 repeated log := by
  induction left generalizing attempt made log s with
  | zero =>
    rw [RetryPolicy.meteredFrom, RetryPolicy.runFrom, RetryPolicy.run_countingItself,
      map_eq_pure_bind] at run
    obtain ⟨first, r₁, s₁, second, rfl, tried, ended⟩ := Filing.gives_bind.mp run
    obtain ⟨rfl, same, rfl⟩ := Filing.gives_pure.mp ended
    cases same
    rw [List.append_nil]
    exact ⟨0, rfl, accounted_attempt tried⟩
  | succ left ih =>
    rw [RetryPolicy.run_meteredFrom_succ] at run
    obtain ⟨first, r₁, s₁, second, rfl, tried, rest⟩ := Filing.gives_bind.mp run
    cases r₁ with
    | ok concluded =>
      obtain ⟨rfl, same, rfl⟩ := Filing.gives_pure.mp rest
      cases same
      rw [List.append_nil]
      exact ⟨0, rfl, accounted_attempt tried⟩
    | error f =>
      obtain ⟨third, again, s₂, fourth, rfl, weighed, next⟩ := Filing.gives_bind.mp rest
      obtain ⟨asked, rfl⟩ := Filing.gives_liftM.mp weighed
      obtain ⟨rfl, rfl⟩ := run_repeatable asked
      by_cases worth : f.isTransient = true
      · rw [if_pos worth] at next ⊢
        obtain ⟨waiting, _, s₃, later, rfl, paused, others⟩ := Filing.gives_bind.mp next
        obtain ⟨waited, rfl⟩ := Filing.gives_liftM.mp paused
        rw [Program.run_request.mp waited]
        obtain ⟨repeated, rfl, behind⟩ := ih others
        exact ⟨repeated + 1, by omega, (accounted_attempt tried).again _ behind⟩
      · rw [if_neg worth] at next ⊢
        obtain ⟨rfl, same, rfl⟩ := Filing.gives_pure.mp next
        cases same
        rw [List.append_nil, List.append_nil]
        exact ⟨0, rfl, accounted_attempt tried⟩

theorem accounted_attemptsMetered {made : Nat} {r : Except Failure (Context × Conclusion)}
    (run : Filing.Gives ((d.attemptsMetered i alert).run 0) s log (r, made) s') :
    ∃ repeated, made = repeated + 1 ∧ Accounted 0 repeated log := by
  obtain ⟨repeated, same, accounted⟩ := accounted_meteredFrom run
  exact ⟨repeated, by omega, accounted⟩

/-! ## 5. Handling alerts -/

theorem accounted_fallBack {cluster : Option Cluster} {name : String} {status : OutcomeStatus}
    {mark : Mark} {line reason : String} {r : Except Failure Outcome}
    (run : Fallible.Gives (d.fallBack alert cluster name status mark line reason) log r) :
    Accounted 0 0 log := by
  obtain ⟨_, executed, _⟩ := gives_fallBack run
  exact .of_agreeing (Conclusion.counted_execute executed)

theorem accounted_carryOut {name : String} {ctx : Context} {c : Conclusion}
    {r : Except Failure Outcome} (run : Fallible.Gives (d.carryOut name ctx c) log r) :
    Accounted 0 0 log := by
  rcases gives_carryOut run with ⟨_, executed⟩ | ⟨first, last, f, rfl, executed, reported⟩
  · exact .of_agreeing (Conclusion.counted_execute executed)
  · exact (Accounted.of_agreeing (Conclusion.counted_execute executed)).append
      (accounted_fallBack reported)

theorem accounted_begin : Accounted 1 0 [⟨Ask.count .alertsHandled, ()⟩] :=
  ⟨rfl, rfl, fun op c told => by cases op <;> cases told <;> rfl⟩

/-- What is counted while an alert is handled: one handling, and a repetition for each attempt but
the first. -/
theorem accounted_handleMetered {ended : Except Failure Outcome} {made : Option Nat}
    (run : Program.Run (d.handleMetered alert) log (ended, made)) :
    (d.roster.find alert.title = none ∧ made = none ∧ Accounted 1 0 log) ∨
      ∃ i repeated, d.roster.find alert.title = some i ∧ made = some (repeated + 1) ∧
        Accounted 1 repeated log := by
  unfold handleMetered at run
  cases found : d.roster.find alert.title with
  | none =>
    rw [found] at run
    obtain ⟨first, r, second, rfl, unmatched, done⟩ := Program.run_bind.mp run
    obtain ⟨rfl, same⟩ := Program.run_done.mp done
    cases same
    obtain ⟨rest, rfl, fell⟩ := gives_counted unmatched
    rw [List.append_nil]
    exact .inl ⟨rfl, rfl, accounted_begin.append (accounted_fallBack fell)⟩
  | some i =>
    rw [found] at run
    obtain ⟨_, _, _, rfl, begun, running⟩ := Program.run_bind.mp run
    rw [Program.run_request.mp begun]
    obtain ⟨tries, ⟨⟨r, n⟩, s⟩, later, rfl, tried, rest⟩ := Program.run_bind.mp running
    obtain ⟨repeated, rfl, attempted⟩ := accounted_attemptsMetered tried
    obtain ⟨carried, r', last, rfl, ending, done⟩ := Program.run_bind.mp rest
    obtain ⟨rfl, same⟩ := Program.run_done.mp done
    cases same
    have behind : Accounted 0 0 carried := by
      rcases r with f | ⟨ctx, c⟩
      · exact accounted_fallBack ending
      · exact accounted_carryOut ending
    have whole := accounted_begin.append (attempted.append behind)
    rw [List.append_nil]
    refine .inr ⟨i, repeated, rfl, rfl, ?_⟩
    simpa only [Nat.zero_add, Nat.add_zero, List.singleton_append] using whole

/-- The attempts that were made beyond the first, over all alerts that an investigation was
dispatched for. -/
def repetitions : List (Except Failure Outcome × Option Nat) → Nat
  | [] => 0
  | (_, some made) :: others => (made - 1) + repetitions others
  | (_, none) :: others => repetitions others

/-- What is counted while alerts are handled one after the other. -/
theorem accounted_handleAllMetered {alerts : List (Desk × Alert)}
    {metered : List (Except Failure Outcome × Option Nat)}
    (run : Program.Run (handleAllMetered alerts) log metered) :
    Accounted alerts.length (repetitions metered) log ∧
      metered.map (fun m => m.2.isSome) =
        alerts.map (fun w => (w.1.roster.find w.2.title).isSome) ∧
      ∀ m ∈ metered, ∀ n, m.2 = some n → 1 ≤ n := by
  induction alerts generalizing log metered with
  | nil =>
    obtain ⟨rfl, rfl⟩ := Program.run_done.mp run
    exact ⟨.of_agreeing rfl, rfl, nofun⟩
  | cons work others ih =>
    obtain ⟨d, alert⟩ := work
    obtain ⟨first, ⟨ended, made⟩, second, rfl, handled, run⟩ := Program.run_bind.mp run
    obtain ⟨rest, later, last, rfl, running, done⟩ := Program.run_bind.mp run
    obtain ⟨rfl, rfl⟩ := Program.run_done.mp done
    obtain ⟨accounted, dispatched, some'⟩ := ih running
    rw [List.append_nil, List.map_cons, List.map_cons, dispatched, List.length_cons,
      Nat.add_comm others.length]
    rcases accounted_handleMetered handled with ⟨found, rfl, now⟩ | ⟨i, repeated, found, rfl, now⟩
    · refine ⟨?_, by rw [found]; rfl, fun m hm n same => ?_⟩
      · have whole := now.append accounted
        rwa [Nat.zero_add] at whole
      · rcases List.mem_cons.mp hm with rfl | hm
        · cases same
        · exact some' m hm n same
    · refine ⟨?_, by rw [found]; rfl, fun m hm n same => ?_⟩
      · have whole := now.append accounted
        have sum : repetitions ((ended, some (repeated + 1)) :: later) =
            repeated + repetitions later := by simp [repetitions]
        rwa [sum]
      · rcases List.mem_cons.mp hm with rfl | hm
        · cases same
          exact Nat.succ_pos repeated
        · exact some' m hm n same

/-- **The counters agree with what was done.** Alerts are handled one after the other with counters
that start at zero. Afterwards they tell the number of alerts, the numbers of successful calls that
post a restriction or an advisory and that page or silence an incident, and the number of attempts
beyond the first, over all alerts that an investigation was dispatched for. -/
theorem counters_agree {alerts : List (Desk × Alert)} {ended : List (Except Failure Outcome)}
    (h : Program.Run (handleAll alerts) log ended) :
    let tally := Tally.zero.after log
    tally.alertsHandled = alerts.length ∧
    tally.restrictionsSet = succeeded .postRestriction log ∧
    tally.advisoriesSent = succeeded .postAdvisory log ∧
    tally.escalations = succeeded .escalate log ∧
    tally.silences = succeeded .silence log ∧
    ∃ metered, Program.Run (handleAllMetered alerts) log metered ∧
      ended = metered.map Prod.fst ∧
      metered.map (fun m => m.2.isSome) =
        alerts.map (fun w => (w.1.roster.find w.2.title).isSome) ∧
      (∀ m ∈ metered, ∀ n, m.2 = some n → 1 ≤ n) ∧
      tally.infrastructureRetries = repetitions metered := by
  intro tally
  have value (c : Counter) : tally.get c = (counted log).count c := by
    have grown := Tally.get_after .zero log c
    have zero : Tally.zero.get c = 0 := by cases c <;> rfl
    rwa [zero, Nat.zero_add] at grown
  obtain ⟨metered, run, same⟩ := run_handleAll.mp h
  obtain ⟨accounted, dispatched, some'⟩ := accounted_handleAllMetered run
  refine ⟨(value .alertsHandled).trans accounted.handled, ?_, ?_, ?_, ?_, metered, run, same,
    dispatched, some', (value .infrastructureRetries).trans accounted.repeated⟩
  · exact (value .restrictionsSet).trans (accounted.effects _ _ rfl)
  · exact (value .advisoriesSent).trans (accounted.effects _ _ rfl)
  · exact (value .escalations).trans (accounted.effects _ _ rfl)
  · exact (value .silences).trans (accounted.effects _ _ rfl)

/-- Two alerts: one whose first attempt fails, and whose second sets a restriction; and one that no
investigation is for. -/
theorem counters_agree_repeated :
    let d := Desk.standard .standard false
    let alerts : List (Desk × Alert) :=
      [(d, ⟨"Q1", "cluster has gone missing", .triggered, "c1"⟩),
        (d, ⟨"Q2", "KubeAPIDown", .triggered, "c1"⟩)]
    let played := Rehearsal.run (handleAll alerts) { Rehearsal.standard with
      reports := [.failure "https://nosnch.in:443"]
      faults := [(.getExpectedNodeCount, [some (.root (.reported "boom"))])] }
    played.2.2.tally = ⟨2, 1, 0, 0, 1, 1, 1⟩ ∧
    succeeded .postRestriction played.1 = 1 ∧ succeeded .postAdvisory played.1 = 0 ∧
    succeeded .escalate played.1 = 1 ∧ succeeded .silence played.1 = 1 ∧
    ∃ metered, Program.Run (handleAllMetered alerts) played.1 metered ∧
      metered.map Prod.snd = [some 2, none] := by
  intro d alerts played
  obtain ⟨s, zero, same⟩ : ∃ s : Rehearsal,
      s.tally = Tally.zero ∧ Rehearsal.run (handleAll alerts) s = played := ⟨_, rfl, rfl⟩
  have run := Rehearsal.run_played (handleAll alerts) s
  have snapshot := Rehearsal.tally_run (handleAll alerts) s
  rw [same] at run snapshot
  rw [zero] at snapshot
  have shown : played.2.2.tally = ⟨2, 1, 0, 0, 1, 1, 1⟩ := by decide +kernel
  have dispatching : alerts.map (fun w => (w.1.roster.find w.2.title).isSome) = [true, false] := by
    decide +kernel
  clear_value played alerts
  obtain ⟨_, set, sent, paged, silenced, metered, meter, _, dispatched, some', repeated⟩ :=
    counters_agree run
  rw [← snapshot, shown] at set sent paged silenced repeated
  refine ⟨shown, set.symm, sent.symm, paged.symm, silenced.symm, metered, meter, ?_⟩
  rw [dispatching] at dispatched
  -- of the first alert it is known that an investigation was dispatched, and of the second that none
  obtain ⟨⟨_, first⟩, _, rfl, one, rest⟩ := List.map_eq_cons_iff.mp dispatched
  obtain ⟨⟨_, second⟩, _, rfl, none', rest⟩ := List.map_eq_cons_iff.mp rest
  obtain rfl := List.map_eq_nil_iff.mp rest
  obtain ⟨made, rfl⟩ := Option.isSome_iff_exists.mp one
  obtain rfl := Option.not_isSome_iff_eq_none.mp (Bool.eq_false_iff.mp none')
  have positive := some' _ (List.mem_cons_self ..) made rfl
  have twice : made = 2 := by
    have : 1 = made - 1 := by simpa [repetitions] using repeated
    omega
  rw [twice]
  rfl

end Desk

end OnCall
