import OnCall.Program
import OnCall.Proofs.Delays

/-!
# What a retry policy does

A run under a policy is the same program whatever the operation is. Here each of its steps is a
request: a try of the operation, the question whether a failure is worth another try, a pause. So
all that the policy does can be read off the exchanges.

* `RetryPolicy.steps`: the program; `RetryPolicy.interpret_steps`: **every run under a policy is
  this program**, with its requests met by the operation.
* `RetryPolicy.held`: the same loop with its counter in 32 bits, where it could run over;
  `RetryPolicy.held_eq`: **it never does**.
* `Tries`: what the tries of an operation come to; `Tries.Ended`: how a run ends, with the tries,
  the questions and the pauses that it took.
* `RetryPolicy.run_exact`: **what a run under a policy does**, and where it ends.
-/

namespace OnCall

/-! ## 1. The steps of a policy -/

/-- What a policy does. -/
inductive RetryStep where
  /-- Try the operation. -/
  | operation
  /-- Ask whether a failure is worth another try. -/
  | judge (failure : Failure)
  | pause (span : Span)
deriving DecidableEq

/-- The steps of a policy as requests. -/
abbrev retrying (α : Type) : Interface where
  Request := RetryStep
  Reply
    | .operation => Except Failure α
    | .judge _ => Bool
    | .pause _ => Unit

namespace RetryPolicy

variable {α : Type}

/-- The tries from number `attempt` on, when `left` more may follow it, step by step. -/
def stepsFrom (backoff : Backoff) (attempt left : Nat) :
    Program (retrying α) (Except Failure α) :=
  runFrom backoff (fun span => Program.request (I := retrying α) (.pause span))
    (fun f => Program.request (I := retrying α) (.judge f))
    (Program.request (I := retrying α) .operation) attempt left

/-- **A run under a policy, step by step.** -/
def steps (p : RetryPolicy) : Program (retrying α) (Except Failure α) :=
  p.run (fun span => Program.request (I := retrying α) (.pause span))
    (fun f => Program.request (I := retrying α) (.judge f))
    (Program.request (I := retrying α) .operation)

/-- One try; then it goes on, if the try failed and its failure is worth another. -/
theorem stepsFrom_succ (backoff : Backoff) (attempt left : Nat) :
    stepsFrom (α := α) backoff attempt (left + 1) =
      .ask .operation fun (r : Except Failure α) =>
        match r with
        | .ok value => .done (.ok value)
        | .error failure => .ask (.judge failure) fun (worth : Bool) =>
          if worth then
            .ask (.pause (backoff.delay attempt)) fun _ => stepsFrom backoff (attempt + 1) left
          else .done (.error failure) := by
  refine congrArg (Program.ask (I := retrying α) .operation) (funext fun r => ?_)
  cases r with
  | ok value => rfl
  | error failure =>
    refine congrArg (Program.ask (I := retrying α) (.judge failure)) (funext fun worth => ?_)
    cases worth <;> rfl

section Run

variable {m : Type → Type} [Monad m]

/-- How the steps are met where an operation is run. -/
def meet (pause : Span → m Unit) (again : Failure → m Bool) (operation : m (Except Failure α)) :
    (q : RetryStep) → m ((retrying α).Reply q)
  | .operation => operation
  | .judge f => again f
  | .pause span => pause span

/-- The tries from the one that the counter tells on, with the counter in 32 bits. There is no
outcome if the counter runs over. -/
def heldFrom (backoff : Backoff) (pause : Span → m Unit) (again : Failure → m Bool)
    (operation : m (Except Failure α)) (most attempt : UInt32) : m (Option (Except Failure α)) := do
  match ← operation with
  | .ok value => return some (.ok value)
  | .error failure =>
    if more : attempt < most then
      if ← again failure then
        pause (backoff.delay attempt.toNat)
        if fits : attempt.toNat + 1 < UInt32.size then
          heldFrom backoff pause again operation most (attempt + 1)
        else return none
      else return some (.error failure)
    else return some (.error failure)
termination_by most.toNat - attempt.toNat
decreasing_by
  rw [UInt32.lt_iff_toNat_lt] at more
  rw [UInt32.toNat_add, UInt32.toNat_one, Nat.mod_eq_of_lt fits]
  omega

/-- Run an operation under a policy with the counter in 32 bits. -/
def held (p : RetryPolicy) (pause : Span → m Unit) (again : Failure → m Bool)
    (operation : m (Except Failure α)) : m (Option (Except Failure α)) :=
  heldFrom p.backoff pause again operation (.ofNat p.attempts) 1

variable [LawfulMonad m] {pause : Span → m Unit} {again : Failure → m Bool}
  {operation : m (Except Failure α)} {backoff : Backoff}

theorem interpret_stepsFrom (attempt left : Nat) :
    (stepsFrom backoff attempt left).interpret (meet pause again operation) =
      runFrom backoff pause again operation attempt left := by
  induction left generalizing attempt with
  | zero => exact bind_pure operation
  | succ left ih =>
    rw [stepsFrom_succ, runFrom]
    refine bind_congr (x := operation) fun r => ?_
    cases r with
    | ok value => rfl
    | error failure =>
      refine bind_congr (x := again failure) fun worth => ?_
      cases worth with
      | false => rfl
      | true => exact bind_congr (x := pause (backoff.delay attempt)) fun _ => ih (attempt + 1)

/-- **Every run under a policy takes these steps.** -/
theorem interpret_steps (p : RetryPolicy) :
    p.steps.interpret (meet pause again operation) = p.run pause again operation :=
  interpret_stepsFrom 1 _

/-- With the counter in 32 bits the tries are the same, and the counter does not run over. -/
theorem heldFrom_eq (most attempt : UInt32) (left : Nat)
    (fits : attempt.toNat + left = most.toNat) :
    heldFrom backoff pause again operation most attempt =
      some <$> runFrom backoff pause again operation attempt.toNat left := by
  induction left generalizing attempt with
  | zero =>
    have last : ¬ attempt < most := by
      rw [UInt32.lt_iff_toNat_lt]
      omega
    rw [heldFrom, runFrom, map_eq_pure_bind]
    congr 1
    funext r
    cases r with
    | ok value => rfl
    | error failure => exact dif_neg last
  | succ left ih =>
    have more : attempt < most := by
      rw [UInt32.lt_iff_toNat_lt]
      omega
    have small : attempt.toNat + 1 < UInt32.size := by
      have := most.toNat_lt
      show _ < 2 ^ 32
      omega
    have next : (attempt + 1).toNat = attempt.toNat + 1 := by
      rw [UInt32.toNat_add, UInt32.toNat_one, Nat.mod_eq_of_lt small]
    rw [heldFrom, runFrom, map_bind]
    congr 1
    funext r
    cases r with
    | ok value => simp
    | error failure =>
      dsimp only
      rw [dif_pos more, map_bind]
      congr 1
      funext worth
      cases worth with
      | false => simp
      | true =>
        simp only [if_true, dif_pos small, map_bind]
        rw [ih (attempt + 1) (by omega), next]

/-- **The counter never runs over**, however many attempts the policy allows: held in 32 bits it
leads to the same run. -/
theorem held_eq (p : RetryPolicy) (fits : p.maxAttempts < UInt32.size) :
    p.held pause again operation = some <$> p.run pause again operation := by
  have bound : p.attempts < UInt32.size := Nat.max_lt.mpr ⟨by decide, fits⟩
  refine heldFrom_eq _ 1 (p.attempts - 1) ?_
  rw [UInt32.toNat_one, UInt32.toNat_ofNat_of_lt' bound]
  exact Nat.add_sub_cancel' p.one_le_attempts

end Run

end RetryPolicy

/-! ## 2. What a policy does -/

/-- **What the tries of an operation come to**, and which of their failures are worth another try.
Tries count from one. -/
structure Tries (α : Type) where
  outcome : Nat → Except Failure α
  worth : Nat → Failure → Bool

namespace RetryStep

def isTry : RetryStep → Bool
  | operation => true
  | _ => false

/-- The failure of which it is asked whether it is worth another try. -/
def judged? : RetryStep → Option Failure
  | judge f => some f
  | _ => none

def pause? : RetryStep → Option Span
  | pause span => some span
  | _ => none

end RetryStep

section Exchanges

variable {α : Type} (log : List (Exchange (retrying α)))

/-- How often the operation was tried. -/
def triesMade : Nat := (log.filter (·.request.isTry)).length

/-- The failures of which it was asked whether they are worth another try, in order. -/
def judged : List Failure := log.filterMap (·.request.judged?)

/-- The pauses that were asked for, in order. -/
def pauses : List Span := log.filterMap (·.request.pause?)

end Exchanges

namespace Tries

variable {α : Type} (t : Tries α)

/-- The failure of a try, if it failed. -/
def failure? (n : Nat) : Option Failure :=
  match t.outcome n with
  | .ok _ => none
  | .error f => some f

/-- There is no try behind this one: it succeeded, or its failure is not worth another, or it is the
last one allowed. -/
def EndsAt (most n : Nat) : Prop :=
  (∃ value, t.outcome n = .ok value) ∨ (∃ f, t.outcome n = .error f ∧ t.worth n f = false) ∨
    n = most

/-- How each step is answered, when so many tries have been made. -/
def answer : (q : RetryStep) → Nat → (retrying α).Reply q × Nat
  | .operation, made => (t.outcome (made + 1), made + 1)
  | .judge f, made => (t.worth made f, made)
  | .pause _, made => ((), made)

/-- **How a run ends** with try number `last`, if `made` tries were made before it began and `most`
are allowed: it is the first that ends the run, each failure but that of the last try allowed was
judged, and there was a pause behind each try but the last. -/
structure Ended (backoff : Backoff) (most made : Nat) (log : List (Exchange (retrying α)))
    (last : Nat) : Prop where
  after : made < last
  ends : t.EndsAt most last
  first : ∀ n, made < n → n < last → ¬ t.EndsAt most n
  tried : triesMade log = last - made
  judged : judged log = (List.range' (made + 1) (min last (most - 1) - made)).filterMap t.failure?
  pauses : pauses log = (List.range' (made + 1) (last - 1 - made)).map backoff.delay

variable {t} {backoff : Backoff} {made most last : Nat} {log : List (Exchange (retrying α))}

/-- A run that ends with its first try, without a question. -/
theorem ended_unasked (h : t.EndsAt most (made + 1))
    (unasked : t.failure? (made + 1) = none ∨ most = made + 1) :
    t.Ended backoff most made [⟨.operation, t.outcome (made + 1)⟩] (made + 1) where
  after := Nat.lt_succ_self made
  ends := h
  first := by
    intro n _ _
    omega
  tried := by
    rw [Nat.add_sub_cancel_left]
    rfl
  judged := by
    rcases unasked with succeeded | rfl
    · refine (List.filterMap_eq_nil_iff.mpr fun n hn => ?_).symm
      obtain ⟨_, _⟩ := List.mem_range'_1.mp hn
      obtain rfl : n = made + 1 := by omega
      exact succeeded
    · rw [show min (made + 1) (made + 1 - 1) - made = 0 by omega]
      rfl
  pauses := by
    rw [show made + 1 - 1 - made = 0 by omega]
    rfl

/-- A run that ends with its first try, since the failure is not worth another. -/
theorem ended_rejected {f : Failure} (failed : t.outcome (made + 1) = .error f)
    (rejected : t.worth (made + 1) f = false) (more : made + 1 < most) :
    t.Ended backoff most made
      [⟨.operation, t.outcome (made + 1)⟩, ⟨.judge f, t.worth (made + 1) f⟩] (made + 1) where
  after := Nat.lt_succ_self made
  ends := .inr (.inl ⟨f, failed, rejected⟩)
  first := by
    intro n _ _
    omega
  tried := by
    rw [Nat.add_sub_cancel_left]
    rfl
  judged := by
    rw [show min (made + 1) (most - 1) - made = 1 by omega]
    simp only [List.range'_one, List.filterMap_cons, List.filterMap_nil, failure?, failed]
    rfl
  pauses := by
    rw [show made + 1 - 1 - made = 0 by omega]
    rfl

/-- A run that goes on behind its first try. -/
theorem Ended.cons {f : Failure} (failed : t.outcome (made + 1) = .error f)
    (worth : t.worth (made + 1) f = true) (more : made + 1 < most)
    (h : t.Ended backoff most (made + 1) log last) :
    t.Ended backoff most made
      (⟨.operation, t.outcome (made + 1)⟩ :: ⟨.judge f, t.worth (made + 1) f⟩ ::
        ⟨.pause (backoff.delay (made + 1)), ()⟩ :: log) last where
  after := Nat.lt_of_succ_lt h.after
  ends := h.ends
  first := by
    intro n after before
    by_cases same : n = made + 1
    · subst same
      rintro (⟨value, succeeded⟩ | ⟨g, failed', rejected⟩ | least)
      · rw [failed] at succeeded
        cases succeeded
      · rw [failed] at failed'
        cases failed'
        rw [worth] at rejected
        cases rejected
      · omega
    · exact h.first n (by omega) before
  tried := by
    have := h.after
    show triesMade log + 1 = _
    rw [h.tried]
    omega
  judged := by
    have := h.after
    show f :: OnCall.judged log = _
    rw [show min last (most - 1) - made = min last (most - 1) - (made + 1) + 1 by omega,
      List.range'_succ, List.filterMap_cons, ← h.judged]
    simp only [failure?, failed]
  pauses := by
    have := h.after
    rw [show last - 1 - made = last - 1 - (made + 1) + 1 by omega, List.range'_succ, List.map_cons,
      ← h.pauses]
    rfl

/-- **What a policy does**, from the next try on. -/
theorem play_stepsFrom (t : Tries α) (backoff : Backoff) (made left : Nat) :
    ∃ log last, (RetryPolicy.stepsFrom backoff (made + 1) left).play t.answer made =
        (log, t.outcome last, last) ∧ t.Ended backoff (made + 1 + left) made log last := by
  induction left generalizing made with
  | zero => exact ⟨_, made + 1, rfl, ended_unasked (.inr (.inr rfl)) (.inr rfl)⟩
  | succ left ih =>
    have allowed : made + 1 + 1 + left = made + 1 + (left + 1) := by omega
    rw [RetryPolicy.stepsFrom_succ, Program.play]
    cases outcome : t.outcome (made + 1) with
    | ok value =>
      refine ⟨_, made + 1, ?_, ended_unasked (.inl ⟨value, outcome⟩) (.inl ?_)⟩
      · simp only [answer, outcome]
        rfl
      · simp only [failure?, outcome]
    | error f =>
      cases worth : t.worth (made + 1) f with
      | false =>
        refine ⟨_, made + 1, ?_, ended_rejected outcome worth (by omega)⟩
        simp only [answer, outcome, Program.play, worth]
        rfl
      | true =>
        obtain ⟨log, last, played, ended⟩ := ih (made + 1)
        rw [allowed] at ended
        refine ⟨_, last, ?_, ended.cons outcome worth (by omega)⟩
        simp only [answer, outcome, Program.play, worth, if_true, played]

end Tries

namespace RetryPolicy

variable {α : Type}

/-- **What a run under a policy does**, for any operation. It ends with the first try that
succeeded, that failed in a way not worth another, or that is the last one allowed, and with the
outcome of that try. Each failed try was judged once and in order, but for the last one allowed, of
which nothing is asked. Behind each try but the last there was the pause that the schedule has for
it; those of the exponential schedule do not get shorter, and none is longer than its longest.
Wherever an operation is run under the policy, this is what happens, and a counter of 32 bits does
not run over. -/
theorem run_exact (p : RetryPolicy) (fits : p.maxAttempts < UInt32.size) (t : Tries α) :
    (∃ log last, p.steps.play t.answer 0 = (log, t.outcome last, last) ∧
      (1 ≤ last ∧ t.EndsAt p.attempts last ∧
        ∀ n, 1 ≤ n → n < last → ¬ t.EndsAt p.attempts n) ∧
      triesMade log = last ∧
      judged log = (List.range' 1 (min last (p.attempts - 1))).filterMap t.failure? ∧
      pauses log = (List.range' 1 (last - 1)).map p.backoff.delay ∧
      ∀ base longest, p.backoff = .exponential base longest →
        (pauses log).Pairwise (· ≤ ·) ∧ ∀ span ∈ pauses log, span ≤ longest) ∧
    ∀ (m : Type → Type) [Monad m] [LawfulMonad m] (pause : Span → m Unit)
      (again : Failure → m Bool) (operation : m (Except Failure α)),
      p.steps.interpret (meet pause again operation) = p.run pause again operation ∧
      p.held pause again operation = some <$> p.run pause again operation := by
  have allowed : 0 + 1 + (p.attempts - 1) = p.attempts := by
    have := p.one_le_attempts
    omega
  obtain ⟨log, last, played, ended⟩ := Tries.play_stepsFrom t p.backoff 0 (p.attempts - 1)
  rw [allowed] at ended
  refine ⟨⟨log, last, played, ⟨ended.after, ended.ends, ended.first⟩, ended.tried, ended.judged,
    ended.pauses, fun base longest schedule => ?_⟩, ?_⟩
  · rw [ended.pauses, schedule]
    refine ⟨?_, fun span mem => ?_⟩
    · refine List.pairwise_map.mpr (List.pairwise_le_range'.imp fun before => ?_)
      exact Backoff.delay_mono base longest before
    · obtain ⟨n, _, rfl⟩ := List.mem_map.mp mem
      exact Backoff.delay_le_longest base longest n
  · intro m _ _ pause again operation
    exact ⟨interpret_steps p, held_eq p fits⟩

/-- Every try fails, and would be worth another. The third is the last one allowed, and is not
judged. -/
theorem run_exact_exhausted :
    let p : RetryPolicy := ⟨3, .exponential (.ofMillis 500) (.ofSeconds 3)⟩
    let failed (n : Nat) : Failure := .root (.reported (toString n))
    let t : Tries Unit := ⟨fun n => .error (failed n), fun _ f => f.isTransient⟩
    p.maxAttempts < UInt32.size ∧
      (∃ log, p.steps.play t.answer 0 = (log, .error (failed 3), 3) ∧ triesMade log = 3 ∧
        judged log = [failed 1, failed 2] ∧
        pauses log = [.ofMillis 500, .ofSeconds 1] ∧ (pauses log).Pairwise (· ≤ ·)) ∧
      p.held (m := Id) (fun _ => ()) Failure.isTransient (t.outcome 1) = some (t.outcome 1) := by
  intro p failed t
  have fits : p.maxAttempts < UInt32.size := by decide
  obtain ⟨⟨log, last, played, _, tried, asked, paused, grows⟩, always⟩ := run_exact p fits t
  obtain rfl : last = 3 := by
    have three : (p.steps.play t.answer 0).2.2 = 3 := rfl
    rw [played] at three
    exact three
  refine ⟨fits,
    ⟨log, played, tried, asked, paused.trans (by decide +kernel), (grows _ _ rfl).1⟩, ?_⟩
  exact (always Id (fun _ => ()) Failure.isTransient (t.outcome 1)).2

end RetryPolicy

end OnCall
