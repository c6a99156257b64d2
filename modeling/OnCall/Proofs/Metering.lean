import OnCall.Proofs.Attempts

/-!
# Attempts that are counted as they are made

How many attempts an investigation takes is not part of what comes of a handling. Here the operation
of a retry policy is made to count itself, and that changes nothing else.

* `RetryPolicy.metered`: a run under a policy that counts its attempts; `RetryPolicy.fst_metered`:
  **without the number it is the run under the policy**.
* `Desk.handleAll`: alerts are handled one after the other.
* `Desk.handleMetered`, `Desk.handleAllMetered`: the same with the attempts that were made;
  `Desk.run_handleAll`: every run of the handling is one with the numbers.
-/

namespace OnCall

/-! ## 1. Retry policies -/

namespace RetryPolicy

variable {m : Type → Type} [Monad m] {α : Type}

/-- An operation that counts itself. -/
def countingItself (operation : m (Except Failure α)) : StateT Nat m (Except Failure α) := do
  modify (· + 1)
  liftM (n := StateT Nat m) operation

/-- The attempts from number `attempt` on, counted as they are made. -/
def meteredFrom (backoff : Backoff) (pause : Span → m Unit) (again : Failure → m Bool)
    (operation : m (Except Failure α)) (attempt left : Nat) : StateT Nat m (Except Failure α) :=
  runFrom backoff (fun span => liftM (n := StateT Nat m) (pause span))
    (fun f => liftM (n := StateT Nat m) (again f)) (countingItself operation) attempt left

/-- **Run an operation under a policy and count the attempts** as they are made. -/
def metered (p : RetryPolicy) (pause : Span → m Unit) (again : Failure → m Bool)
    (operation : m (Except Failure α)) : StateT Nat m (Except Failure α) :=
  meteredFrom p.backoff pause again operation 1 (p.attempts - 1)

variable {backoff : Backoff} {pause : Span → m Unit} {again : Failure → m Bool}
  {operation : m (Except Failure α)} [LawfulMonad m]

theorem run_countingItself (made : Nat) :
    (countingItself operation).run made = (fun r => (r, made + 1)) <$> operation := by
  simp [countingItself]

/-- One more attempt is counted, whatever comes of it; then it goes on as without the counting. -/
theorem run_meteredFrom_succ (attempt left made : Nat) :
    (meteredFrom backoff pause again operation attempt (left + 1)).run made = (do
      match ← operation with
      | .ok value => return (.ok value, made + 1)
      | .error failure =>
        if ← again failure then
          pause (backoff.delay attempt)
          (meteredFrom backoff pause again operation (attempt + 1) left).run (made + 1)
        else return (.error failure, made + 1)) := by
  rw [meteredFrom, runFrom, StateT.run_bind, run_countingItself]
  simp only [bind_map_left]
  congr 1
  funext r
  cases r with
  | ok value => simp
  | error failure =>
    simp only [StateT.run_bind, StateT.run_monadLift, monadLift_self, bind_assoc, pure_bind]
    congr 1
    funext worth
    cases worth with
    | false => simp
    | true => simp [meteredFrom]

theorem fst_meteredFrom (attempt left made : Nat) :
    Prod.fst <$> (meteredFrom backoff pause again operation attempt left).run made =
      runFrom backoff pause again operation attempt left := by
  induction left generalizing attempt made with
  | zero =>
    rw [meteredFrom, runFrom, runFrom, run_countingItself]
    simp
  | succ left ih =>
    rw [run_meteredFrom_succ, runFrom, map_bind]
    congr 1
    funext r
    cases r with
    | ok value => simp
    | error failure =>
      simp only [map_bind]
      congr 1
      funext worth
      cases worth with
      | false => simp
      | true => simp [ih]

/-- **Counting the attempts changes nothing else.** -/
theorem fst_metered (p : RetryPolicy) (made : Nat) :
    Prod.fst <$> (p.metered pause again operation).run made = p.run pause again operation :=
  fst_meteredFrom 1 _ made

end RetryPolicy

/-! ## 2. Handling alerts -/

section Map

variable {I : Interface} {α β : Type} {f : α → β}

@[simp] theorem Program.map_done (a : α) : f <$> (Program.done a : Program I α) = .done (f a) := rfl

theorem Program.run_map {p : Program I α} {log : List (Exchange I)} {b : β} :
    Run (f <$> p) log b ↔ ∃ a, Run p log a ∧ b = f a := by
  rw [map_eq_pure_bind, run_bind]
  constructor
  · intro ran
    obtain ⟨first, a, second, rfl, h, ended⟩ := ran
    obtain ⟨rfl, rfl⟩ := run_done.mp ended
    exact ⟨a, by rwa [List.append_nil], rfl⟩
  · intro ran
    obtain ⟨a, h, rfl⟩ := ran
    exact ⟨log, a, [], (List.append_nil log).symm, h, .done _⟩

end Map

theorem Fallible.run_liftM_bind {α β : Type} (p : Work α) (f : α → Fallible β) :
    (liftM (n := Fallible) p >>= f).run = p >>= fun a => (f a).run :=
  Program.bind_assoc p _ _

namespace Desk

/-- Attempts of an investigation under the retry policy, counted as they are made. -/
def attemptsMetered (d : Desk) (i : Investigation) (alert : Alert) :
    StateT Nat Filing (Except Failure (Context × Conclusion)) :=
  d.settings.retry.metered (fun span => liftM (n := Filing) (Work.pause span))
    (fun f => liftM (n := Filing) (repeatable f)) (d.attempt i alert)

/-- Handle an alert. The number is that of the attempts that were made, if an investigation was
dispatched. -/
def handleMetered (d : Desk) (alert : Alert) : Work (Except Failure Outcome × Option Nat) :=
  match d.roster.find alert.title with
  | none => do
    let ended ← (d.handleUnmatched alert).run
    return (ended, none)
  | some i => do
    Work.count .alertsHandled
    let ((result, made), dossier) ← ((d.attemptsMetered i alert).run 0).run .empty
    let ending : Fallible Outcome :=
      match result with
      | .ok (ctx, conclusion) => d.carryOut i.name ctx conclusion
      | .error failure => d.giveUp alert dossier.cluster i.name failure
    return (← ending.run, some made)

/-- **Handle alerts one after the other**, each at a desk of its own. -/
def handleAll : List (Desk × Alert) → Work (List (Except Failure Outcome))
  | [] => return []
  | (d, alert) :: others => do
    let ended ← (d.handle alert).run
    return ended :: (← handleAll others)

/-- Handle alerts one after the other, with the attempts that were made for each. -/
def handleAllMetered : List (Desk × Alert) → Work (List (Except Failure Outcome × Option Nat))
  | [] => return []
  | (d, alert) :: others => do
    let ended ← d.handleMetered alert
    return ended :: (← handleAllMetered others)

theorem fst_attemptsMetered (d : Desk) (i : Investigation) (alert : Alert) (made : Nat) :
    Prod.fst <$> (d.attemptsMetered i alert).run made = d.attempts i alert :=
  d.settings.retry.fst_metered made

/-- **Without the number it is the handling.** -/
theorem fst_handleMetered (d : Desk) (alert : Alert) :
    Prod.fst <$> d.handleMetered alert = (d.handle alert).run := by
  unfold handleMetered handle
  cases d.roster.find alert.title with
  | none => simp [Program.bind_done]
  | some i =>
    simp only [← fst_attemptsMetered d i alert 0, map_bind, StateT.run_map, liftM_map,
      bind_map_left, Fallible.run_liftM_bind]
    congr 1
    funext _
    congr 1
    funext tried
    obtain ⟨⟨result, made⟩, dossier⟩ := tried
    cases result with
    | ok concluded => simp [Program.bind_done]
    | error failure => simp [Program.bind_done]

theorem fst_handleAllMetered (alerts : List (Desk × Alert)) :
    List.map Prod.fst <$> handleAllMetered alerts = handleAll alerts := by
  induction alerts with
  | nil => rfl
  | cons work others ih =>
    obtain ⟨d, alert⟩ := work
    rw [handleAll, handleAllMetered, ← fst_handleMetered, ← ih]
    simp

/-- **Every run of the handling is one with the numbers.** -/
theorem run_handleAll {alerts : List (Desk × Alert)} {log : Log}
    {ended : List (Except Failure Outcome)} :
    Program.Run (handleAll alerts) log ended ↔
      ∃ metered, Program.Run (handleAllMetered alerts) log metered ∧ ended = metered.map Prod.fst := by
  rw [← fst_handleAllMetered]
  exact Program.run_map

end Desk

end OnCall
