import OnCall.Handling
import OnCall.Rehearsal

/-!
# Runs of programs that fail, write notes and fill a dossier

A run of a program is a list of exchanges and a value. The programs of this library stand in four
monads over `Program`; here a run of a sequence is taken apart in each of them.

* `Log`: the exchanges of a run; `Call.exchange` is a call together with its reply.
* `Program.Only`: a program makes requests of one kind only, whatever it is answered. This goes
  through every sequence and is how "an attempt does not write" is shown.
* `Fallible.Gives`, `Inquiry.Gives`, `Filing.Gives`, `Resolving.Gives`: the runs in the four monads.
  `gives_bind` splits a run of a sequence, `gives_bind_ok` one that succeeded.
-/

namespace OnCall

/-- The exchanges of a run with the platforms, in order. -/
abbrev Log := List (Exchange collaboration)

/-- A call together with its reply. -/
def Call.exchange (c : Call) (reply : Except Failure c.Answer) : Exchange collaboration :=
  ⟨Ask.call c, reply⟩

/-! ## 1. Programs that make requests of one kind -/

namespace Program

variable {I : Interface} {α β : Type} {P : I.Request → Prop}

/-- Whatever it is answered, the program makes requests of one kind only. -/
def Only (P : I.Request → Prop) : Program I α → Prop
  | .done _ => True
  | .ask q next => P q ∧ ∀ r, (next r).Only P

theorem only_request {q : I.Request} (h : P q) : (request q).Only P := ⟨h, fun _ => trivial⟩

/-- Of the second part of a sequence, only what may follow a run of the first part matters. -/
theorem only_bind_run {p : Program I α} {f : α → Program I β} (hp : p.Only P)
    (hf : ∀ log a, Run p log a → (f a).Only P) : (p >>= f).Only P := by
  induction p with
  | done a => exact hf [] a (.done a)
  | ask q next ih =>
    exact ⟨hp.1, fun r => ih r (hp.2 r) fun log a run => hf _ a (.ask q next r run)⟩

theorem only_bind {p : Program I α} {f : α → Program I β} (hp : p.Only P)
    (hf : ∀ a, (f a).Only P) : (p >>= f).Only P :=
  only_bind_run hp fun _ a _ => hf a

theorem Only.imp {Q : I.Request → Prop} {p : Program I α} (h : p.Only P)
    (weaker : ∀ q, P q → Q q) : p.Only Q := by
  induction p with
  | done a => trivial
  | ask q next ih => exact ⟨weaker q h.1, fun r => ih r (h.2 r)⟩

/-- Every request of a run of such a program is of that kind. -/
theorem Only.of_run {p : Program I α} (h : p.Only P) {log : List (Exchange I)} {a : α}
    (run : Run p log a) : ∀ e ∈ log, P e.request := by
  induction run with
  | done a => exact fun _ he => absurd he List.not_mem_nil
  | ask q next r rest ih =>
    intro e he
    rcases List.mem_cons.mp he with rfl | he
    · exact h.1
    · exact ih (h.2 r) e he

theorem run_request {q : I.Request} {log : List (Exchange I)} {r : I.Reply q} :
    Run (request q) log r ↔ log = [⟨q, r⟩] := by
  constructor
  · intro h
    obtain ⟨r', rest, rfl, tail⟩ := run_ask.mp h
    obtain ⟨rfl, rfl⟩ := run_done.mp tail
    rfl
  · intro same
    subst same
    exact .ask q _ r (.done r)

/-- **A run is determined by its exchanges**, and none is the beginning of another. -/
theorem run_unique_of_append {p : Program I α} {l₁ l₂ m₁ m₂ : List (Exchange I)} {a b : α}
    (h₁ : Run p l₁ a) (h₂ : Run p l₂ b) (same : l₁ ++ m₁ = l₂ ++ m₂) : l₁ = l₂ ∧ a = b := by
  induction h₁ generalizing l₂ with
  | done a =>
    obtain ⟨rfl, rfl⟩ := run_done.mp h₂
    exact ⟨rfl, rfl⟩
  | ask q next r _ ih =>
    obtain ⟨r', rest, rfl, tail⟩ := run_ask.mp h₂
    obtain ⟨first, others⟩ := List.cons_eq_cons.mp same
    cases first
    obtain ⟨rfl, rfl⟩ := ih tail others
    exact ⟨rfl, rfl⟩

theorem run_unique {p : Program I α} {log : List (Exchange I)} {a b : α} (h₁ : Run p log a)
    (h₂ : Run p log b) : a = b :=
  (run_unique_of_append h₁ h₂ (rfl : log ++ [] = log ++ [])).2

/-- A run of a sequence that may fail is one of both parts, or a failure of the first. -/
theorem run_bind_except {x : ExceptT Failure (Program I) α} {f : α → ExceptT Failure (Program I) β}
    {log : List (Exchange I)} {r : Except Failure β} :
    Run (x >>= f).run log r ↔
      (∃ first a second, log = first ++ second ∧ Run x.run first (.ok a) ∧
        Run (f a).run second r) ∨
      ∃ e, r = .error e ∧ Run x.run log (.error e) := by
  have split : Run (x >>= f).run log r ↔ _ := run_bind
  rw [split]
  constructor
  · intro ran
    obtain ⟨first, _ | a, second, rfl, h₁, h₂⟩ := ran
    · obtain ⟨rfl, rfl⟩ := run_done.mp h₂
      exact .inr ⟨_, rfl, by rwa [List.append_nil]⟩
    · exact .inl ⟨first, a, second, rfl, h₁, h₂⟩
  · intro ran
    rcases ran with ⟨first, a, second, rfl, h₁, h₂⟩ | ⟨e, rfl, h⟩
    · exact ⟨first, .ok a, second, rfl, h₁, h₂⟩
    · exact ⟨log, .error e, [], (List.append_nil _).symm, h, .done _⟩

/-- A run of a sequence that succeeded. -/
theorem run_bind_ok {x : ExceptT Failure (Program I) α} {f : α → ExceptT Failure (Program I) β}
    {log : List (Exchange I)} {b : β} :
    Run (x >>= f).run log (.ok b) ↔
      ∃ first a second, log = first ++ second ∧ Run x.run first (.ok a) ∧
        Run (f a).run second (.ok b) := by
  rw [run_bind_except]
  constructor
  · intro ran
    rcases ran with h | ⟨e, h, _⟩
    · exact h
    · cases h
  · exact .inl

/-- A run whose failure is changed on the way out. -/
theorem run_adapt_except {x : ExceptT Failure (Program I) α} {g : Failure → Failure}
    {log : List (Exchange I)} {r : Except Failure α} :
    Run (ExceptT.adapt g x).run log r ↔ ∃ r₀, Run x.run log r₀ ∧ r = r₀.mapError g := by
  have split : Run (ExceptT.adapt g x).run log r ↔ _ :=
    run_bind (p := x.run) (f := fun r₀ => .done (r₀.mapError g))
  rw [split]
  constructor
  · intro ran
    obtain ⟨first, r₀, second, rfl, h₁, h₂⟩ := ran
    obtain ⟨rfl, rfl⟩ := run_done.mp h₂
    exact ⟨r₀, by rwa [List.append_nil], rfl⟩
  · intro ran
    obtain ⟨r₀, h, rfl⟩ := ran
    exact ⟨log, r₀, [], (List.append_nil _).symm, h, .done _⟩

end Program

/-! ## 2. Programs that may fail -/

namespace Fallible

open Program

variable {α β : Type} {x : Fallible α} {f : α → Fallible β} {log : Log} {P : Ask → Prop}

/-- The runs of a program that may fail. -/
def Gives (x : Fallible α) (log : Log) (r : Except Failure α) : Prop := Run x.run log r

@[simp] theorem gives_pure {a : α} {r : Except Failure α} :
    Gives (pure a) log r ↔ log = [] ∧ r = .ok a :=
  run_done

@[simp] theorem gives_throw {e : Failure} {r : Except Failure α} :
    Gives (throw e) log r ↔ log = [] ∧ r = .error e :=
  run_done

/-- A run of a sequence is one of both parts, or a failure of the first. -/
theorem gives_bind {r : Except Failure β} :
    Gives (x >>= f) log r ↔
      (∃ first a second, log = first ++ second ∧ Gives x first (.ok a) ∧ Gives (f a) second r) ∨
      ∃ e, r = .error e ∧ Gives x log (.error e) :=
  run_bind_except

/-- A run of a sequence that succeeded. -/
theorem gives_bind_ok {b : β} :
    Gives (x >>= f) log (.ok b) ↔
      ∃ first a second, log = first ++ second ∧ Gives x first (.ok a) ∧
        Gives (f a) second (.ok b) :=
  run_bind_ok

@[simp] theorem gives_call {c : Call} {r : Except Failure c.Answer} :
    Gives (Work.call c) log r ↔ log = [c.exchange r] := run_request

/-- A run of a part that does not fail. -/
theorem gives_liftM {p : Work α} {r : Except Failure α} :
    Gives (liftM p) log r ↔ ∃ a, Run p log a ∧ r = .ok a := by
  have split : Gives (liftM p) log r ↔ _ :=
    run_bind (f := fun a => .done (Except.ok a : Except Failure α))
  rw [split]
  constructor
  · intro ran
    obtain ⟨first, a, second, rfl, h₁, h₂⟩ := ran
    obtain ⟨rfl, rfl⟩ := run_done.mp h₂
    exact ⟨a, by rwa [List.append_nil], rfl⟩
  · intro ran
    obtain ⟨a, h, rfl⟩ := ran
    exact ⟨log, a, [], (List.append_nil _).symm, h, .done _⟩

/-- A run whose failure is changed on the way out. -/
theorem gives_adapt {g : Failure → Failure} {r : Except Failure α} :
    Gives (ExceptT.adapt g x) log r ↔ ∃ r₀, Gives x log r₀ ∧ r = r₀.mapError g :=
  run_adapt_except

/-- Whatever it is answered, the program makes requests of one kind only. -/
def Only (P : Ask → Prop) (x : Fallible α) : Prop := Program.Only (I := collaboration) P x.run

theorem only_pure (a : α) : Only P (pure a : Fallible α) := trivial

theorem only_throw (e : Failure) : Only P (throw e : Fallible α) := trivial

theorem only_bind (hx : Only P x) (hf : ∀ a, Only P (f a)) : Only P (x >>= f) := by
  refine Program.only_bind hx fun r => ?_
  cases r with
  | error e => trivial
  | ok a => exact hf a

theorem only_call {c : Call} (h : P (.call c)) : Only P (Work.call c) := Program.only_request h

theorem only_liftM {p : Work α} (h : Program.Only (I := collaboration) P p) :
    Only P (liftM p : Fallible α) :=
  Program.only_bind h fun _ => trivial

theorem only_adapt {g : Failure → Failure} (h : Only P x) : Only P (ExceptT.adapt g x) :=
  Program.only_bind (p := x.run) (f := fun r => .done (r.mapError g)) h fun _ => trivial

theorem only_ofExcept (e : Except Failure α) : Only P (MonadExcept.ofExcept e) := by
  cases e <;> trivial

end Fallible

/-! ## 3. Programs that write notes and may fail -/

namespace Inquiry

open Program

variable {α β : Type} {x : Inquiry α} {f : α → Inquiry β} {log : Log} {n n' : Notes}

/-- The runs of a program that writes notes and may fail: from the notes `n` to the notes `n'`. -/
def Gives (x : Inquiry α) (n : Notes) (log : Log) (r : Except Failure α) (n' : Notes) : Prop :=
  Run (x.run.run n) log (r, n')

theorem run_done_pair {σ : Type} {a b : α} {s s' : σ} :
    Run (.done (a, s) : Work (α × σ)) log (b, s') ↔ log = [] ∧ b = a ∧ s' = s := by
  rw [run_done, Prod.mk.injEq]

@[simp] theorem gives_pure {a : α} {r : Except Failure α} :
    Gives (pure a) n log r n' ↔ log = [] ∧ r = .ok a ∧ n' = n := run_done_pair

@[simp] theorem gives_throw {e : Failure} {r : Except Failure α} :
    Gives (throw e) n log r n' ↔ log = [] ∧ r = .error e ∧ n' = n := run_done_pair

/-- A run of a sequence is one of both parts, or a failure of the first. -/
theorem gives_bind {r : Except Failure β} :
    Gives (x >>= f) n log r n' ↔
      (∃ first a n₁ second, log = first ++ second ∧ Gives x n first (.ok a) n₁ ∧
        Gives (f a) n₁ second r n') ∨
      ∃ e, r = .error e ∧ Gives x n log (.error e) n' := by
  have split : Gives (x >>= f) n log r n' ↔ _ := run_bind
  rw [split]
  constructor
  · intro ran
    obtain ⟨first, ⟨_ | a, n₁⟩, second, rfl, h₁, h₂⟩ := ran
    · obtain ⟨rfl, rfl, rfl⟩ := run_done_pair.mp h₂
      exact .inr ⟨_, rfl, by rwa [List.append_nil]⟩
    · exact .inl ⟨first, a, n₁, second, rfl, h₁, h₂⟩
  · intro ran
    rcases ran with ⟨first, a, n₁, second, rfl, h₁, h₂⟩ | ⟨e, rfl, h⟩
    · exact ⟨first, (.ok a, n₁), second, rfl, h₁, h₂⟩
    · exact ⟨log, (.error e, n'), [], (List.append_nil _).symm, h, .done _⟩

/-- A run of a sequence that succeeded. -/
theorem gives_bind_ok {b : β} :
    Gives (x >>= f) n log (.ok b) n' ↔
      ∃ first a n₁ second, log = first ++ second ∧ Gives x n first (.ok a) n₁ ∧
        Gives (f a) n₁ second (.ok b) n' := by
  rw [gives_bind]
  constructor
  · intro ran
    rcases ran with h | ⟨e, h, _⟩
    · exact h
    · cases h
  · exact .inl

theorem run_liftM (p : Work α) :
    (liftM (n := Inquiry) p).run.run n = p >>= fun a => .done (.ok a, n) :=
  Program.bind_assoc p _ _

/-- A run of a part that neither fails nor writes. -/
theorem gives_liftM {p : Work α} {r : Except Failure α} :
    Gives (liftM p) n log r n' ↔ ∃ a, Run p log a ∧ r = .ok a ∧ n' = n := by
  rw [Gives, run_liftM, run_bind]
  constructor
  · intro ran
    obtain ⟨first, a, second, rfl, h₁, h₂⟩ := ran
    obtain ⟨rfl, rfl, rfl⟩ := run_done_pair.mp h₂
    exact ⟨a, by rwa [List.append_nil], rfl, rfl⟩
  · intro ran
    obtain ⟨a, h, rfl, rfl⟩ := ran
    exact ⟨log, a, [], (List.append_nil _).symm, h, .done _⟩

/-- A run of something whose failure does not end the inquiry. -/
theorem gives_attempt {y : Fallible α} {r : Except Failure (Except Failure α)} :
    Gives (attempt y) n log r n' ↔ ∃ r₀, Fallible.Gives y log r₀ ∧ r = .ok r₀ ∧ n' = n :=
  gives_liftM

theorem gives_perform {y : Fallible α} {r : Except Failure α} :
    Gives (perform y) n log r n' ↔ Fallible.Gives y log r ∧ n' = n := by
  rw [perform, gives_bind]
  constructor
  · intro ran
    rcases ran with ⟨first, r₀, n₁, second, rfl, h₁, h₂⟩ | ⟨e, rfl, h⟩
    · obtain ⟨_, h₁, ⟨⟩, rfl⟩ := gives_attempt.mp h₁
      cases r₀ with
      | ok a =>
        obtain ⟨rfl, rfl, rfl⟩ := gives_pure.mp h₂
        exact ⟨by rwa [List.append_nil], rfl⟩
      | error e =>
        obtain ⟨rfl, rfl, rfl⟩ := gives_throw.mp h₂
        exact ⟨by rwa [List.append_nil], rfl⟩
    · obtain ⟨_, _, h, _⟩ := gives_attempt.mp h
      cases h
  · intro ran
    obtain ⟨h, rfl⟩ := ran
    refine .inl ⟨log, r, n', [], (List.append_nil _).symm, gives_attempt.mpr ⟨r, h, rfl, rfl⟩, ?_⟩
    cases r with
    | ok a => exact gives_pure.mpr ⟨rfl, rfl, rfl⟩
    | error e => exact gives_throw.mpr ⟨rfl, rfl, rfl⟩

/-- A run of something whose failure counts as infrastructure and ends the inquiry. -/
theorem gives_require {text : String} {y : Fallible α} {r : Except Failure α} :
    Gives (require text y) n log r n' ↔
      ∃ r₀, Fallible.Gives y log r₀ ∧ r = r₀.mapError (Failure.asInfrastructure text) ∧ n' = n := by
  rw [require, gives_perform, Fallible.gives_adapt]
  constructor
  · intro ran
    obtain ⟨⟨r₀, h, rfl⟩, rfl⟩ := ran
    exact ⟨r₀, h, rfl, rfl⟩
  · intro ran
    obtain ⟨r₀, h, rfl, rfl⟩ := ran
    exact ⟨⟨r₀, h, rfl⟩, rfl⟩

theorem gives_require_ok {text : String} {y : Fallible α} {a : α} :
    Gives (require text y) n log (.ok a) n' ↔ Fallible.Gives y log (.ok a) ∧ n' = n := by
  rw [gives_require]
  constructor
  · intro ran
    obtain ⟨_ | b, h, hr, rfl⟩ := ran
    · cases hr
    · cases hr
      exact ⟨h, rfl⟩
  · intro ran
    obtain ⟨h, rfl⟩ := ran
    exact ⟨.ok a, h, rfl, rfl⟩

theorem gives_ofExcept {e r : Except Failure α} :
    Gives (MonadExcept.ofExcept e) n log r n' ↔ log = [] ∧ r = e ∧ n' = n := by
  cases e with
  | error e => exact gives_throw
  | ok a => exact gives_pure

@[simp] theorem gives_note {mark : Mark} {message : String} {r : Except Failure Unit} :
    Gives (note mark message) n log r n' ↔ log = [] ∧ r = .ok () ∧ n' = n.add mark message :=
  run_done_pair

@[simp] theorem gives_draft {r : Except Failure Conclusion.Draft} :
    Gives draft n log r n' ↔ log = [] ∧ r = .ok (.ofNotes n) ∧ n' = n := run_done_pair

/-- What is known is gone on with. -/
theorem gives_ofExcept_bind {e : Except Failure α} {a : α} {r : Except Failure β}
    (known : e = .ok a) (h : Gives (MonadExcept.ofExcept e >>= f) n log r n') :
    Gives (f a) n log r n' := by
  rw [known] at h
  exact h

/-- Writing a line asks for nothing and does not fail. -/
theorem gives_note_bind {mark : Mark} {message : String} {f : Unit → Inquiry β}
    {r : Except Failure β} :
    Gives (note mark message >>= f) n log r n' ↔ Gives (f ()) (n.add mark message) log r n' :=
  Iff.rfl

/-- A run under a handler is a success, or a failure followed by a run of the handler. -/
theorem gives_tryCatch {h : Failure → Inquiry α} {r : Except Failure α} :
    Gives (tryCatch x h) n log r n' ↔
      (∃ a, r = .ok a ∧ Gives x n log (.ok a) n') ∨
      ∃ first e n₁ second, log = first ++ second ∧ Gives x n first (.error e) n₁ ∧
        Gives (h e) n₁ second r n' := by
  have split : Gives (tryCatch x h) n log r n' ↔ _ := run_bind
  rw [split]
  constructor
  · intro ran
    obtain ⟨first, ⟨e | a, n₁⟩, second, rfl, h₁, h₂⟩ := ran
    · exact .inr ⟨first, e, n₁, second, rfl, h₁, h₂⟩
    · obtain ⟨rfl, rfl, rfl⟩ := run_done_pair.mp h₂
      exact .inl ⟨a, rfl, by rwa [List.append_nil]⟩
  · intro ran
    rcases ran with ⟨a, rfl, h₁⟩ | ⟨first, e, n₁, second, rfl, h₁, h₂⟩
    · exact ⟨log, (.ok a, n'), [], (List.append_nil _).symm, h₁, .done _⟩
    · exact ⟨first, (.error e, n₁), second, rfl, h₁, h₂⟩

/-- Whatever it is answered and has noted, the program makes requests of one kind only. -/
def Only (P : Ask → Prop) (x : Inquiry α) : Prop :=
  ∀ n, Program.Only (I := collaboration) P (x.run.run n)

variable {P : Ask → Prop}

theorem only_pure (a : α) : Only P (pure a : Inquiry α) := fun _ => trivial

theorem only_throw (e : Failure) : Only P (throw e : Inquiry α) := fun _ => trivial

theorem only_bind (hx : Only P x) (hf : ∀ a, Only P (f a)) : Only P (x >>= f) := by
  intro n
  refine Program.only_bind (hx n) fun r => ?_
  obtain ⟨e | a, n₁⟩ := r
  · trivial
  · exact hf a n₁

theorem only_tryCatch {h : Failure → Inquiry α} (hx : Only P x) (hh : ∀ e, Only P (h e)) :
    Only P (tryCatch x h) := by
  intro n
  refine Program.only_bind (hx n) fun r => ?_
  obtain ⟨e | a, n₁⟩ := r
  · exact hh e n₁
  · trivial

theorem only_liftM {p : Work α} (h : Program.Only (I := collaboration) P p) :
    Only P (liftM p : Inquiry α) := by
  intro n
  rw [run_liftM]
  exact Program.only_bind h fun _ => trivial

theorem only_attempt {y : Fallible α} (h : Fallible.Only P y) : Only P (attempt y) :=
  only_liftM h

theorem only_require {text : String} {y : Fallible α} (h : Fallible.Only P y) :
    Only P (require text y) := by
  refine only_bind (only_attempt (Fallible.only_adapt h)) fun r => ?_
  cases r with
  | error e => exact only_throw e
  | ok a => exact only_pure a

theorem only_ofExcept (e : Except Failure α) : Only P (MonadExcept.ofExcept e : Inquiry α) := by
  cases e <;> exact fun _ => trivial

theorem only_note (mark : Mark) (message : String) : Only P (note mark message) :=
  fun _ => trivial

theorem only_draft : Only P draft := fun _ => trivial

theorem only_get : Only P (get : Inquiry Notes) := fun _ => trivial

end Inquiry

/-! ## 4. Programs that fill a dossier -/

namespace Desk.Filing

open Program

variable {α β : Type} {x : Filing α} {f : α → Filing β} {log : Log} {d d' : Dossier}

/-- The runs of a program that fills a dossier: from the dossier `d` to the dossier `d'`. -/
def Gives (x : Filing α) (d : Dossier) (log : Log) (a : α) (d' : Dossier) : Prop :=
  Run (x.run d) log (a, d')

@[simp] theorem gives_pure {a b : α} : Gives (pure a) d log b d' ↔ log = [] ∧ b = a ∧ d' = d :=
  Inquiry.run_done_pair

theorem gives_bind {b : β} :
    Gives (x >>= f) d log b d' ↔
      ∃ first a d₁ second, log = first ++ second ∧ Gives x d first a d₁ ∧
        Gives (f a) d₁ second b d' := by
  have split : Gives (x >>= f) d log b d' ↔ _ := run_bind
  rw [split]
  constructor
  · intro ran
    obtain ⟨first, ⟨a, d₁⟩, second, rfl, h₁, h₂⟩ := ran
    exact ⟨first, a, d₁, second, rfl, h₁, h₂⟩
  · intro ran
    obtain ⟨first, a, d₁, second, rfl, h₁, h₂⟩ := ran
    exact ⟨first, (a, d₁), second, rfl, h₁, h₂⟩

theorem gives_liftM {p : Work α} {a : α} :
    Gives (liftM p) d log a d' ↔ Run p log a ∧ d' = d := by
  have split : Gives (liftM p) d log a d' ↔ _ := run_bind (f := fun a => .done (a, d))
  rw [split]
  constructor
  · intro ran
    obtain ⟨first, b, second, rfl, h₁, h₂⟩ := ran
    obtain ⟨rfl, rfl, rfl⟩ := Inquiry.run_done_pair.mp h₂
    exact ⟨by rwa [List.append_nil], rfl⟩
  · intro ran
    obtain ⟨h, rfl⟩ := ran
    exact ⟨log, a, [], (List.append_nil _).symm, h, .done _⟩

/-- Whatever it is answered and has on file, the program makes requests of one kind only. -/
def Only (P : Ask → Prop) (x : Filing α) : Prop :=
  ∀ d, Program.Only (I := collaboration) P (x.run d)

variable {P : Ask → Prop}

theorem only_pure (a : α) : Only P (pure a : Filing α) := fun _ => trivial

/-- Of the second part of a sequence, only what may follow a run of the first part matters. -/
theorem only_bind_run (hx : Only P x) (hf : ∀ d log a d₁, Gives x d log a d₁ → Only P (f a)) :
    Only P (x >>= f) :=
  fun d => Program.only_bind_run (hx d) fun log (a, d₁) run => hf d log a d₁ run d₁

theorem only_bind (hx : Only P x) (hf : ∀ a, Only P (f a)) : Only P (x >>= f) :=
  only_bind_run hx fun _ _ a _ _ => hf a

theorem only_liftM {p : Work α} (h : Program.Only (I := collaboration) P p) :
    Only P (liftM p : Filing α) :=
  fun _ => Program.only_bind h fun _ => trivial

end Desk.Filing

namespace Resolving

open Program

variable {α β : Type} {x : Resolving α} {f : α → Resolving β} {log : Log} {d d' : Dossier}

/-- The runs of a program that fills a dossier and may fail to fetch a resource. -/
def Gives (x : Resolving α) (d : Dossier) (log : Log) (r : Except ResolutionFailure α)
    (d' : Dossier) : Prop :=
  Run (x.run.run d) log (r, d')

@[simp] theorem gives_pure {a : α} {r : Except ResolutionFailure α} :
    Gives (pure a) d log r d' ↔ log = [] ∧ r = .ok a ∧ d' = d := Inquiry.run_done_pair

/-- A run of a sequence is one of both parts, or a failure of the first. -/
theorem gives_bind {r : Except ResolutionFailure β} :
    Gives (x >>= f) d log r d' ↔
      (∃ first a d₁ second, log = first ++ second ∧ Gives x d first (.ok a) d₁ ∧
        Gives (f a) d₁ second r d') ∨
      ∃ e, r = .error e ∧ Gives x d log (.error e) d' := by
  have split : Gives (x >>= f) d log r d' ↔ _ := run_bind
  rw [split]
  constructor
  · intro ran
    obtain ⟨first, ⟨_ | a, d₁⟩, second, rfl, h₁, h₂⟩ := ran
    · obtain ⟨rfl, rfl, rfl⟩ := Inquiry.run_done_pair.mp h₂
      exact .inr ⟨_, rfl, by rwa [List.append_nil]⟩
    · exact .inl ⟨first, a, d₁, second, rfl, h₁, h₂⟩
  · intro ran
    rcases ran with ⟨first, a, d₁, second, rfl, h₁, h₂⟩ | ⟨e, rfl, h⟩
    · exact ⟨first, (.ok a, d₁), second, rfl, h₁, h₂⟩
    · exact ⟨log, (.error e, d'), [], (List.append_nil _).symm, h, .done _⟩

/-- A run of a sequence that succeeded. -/
theorem gives_bind_ok {b : β} :
    Gives (x >>= f) d log (.ok b) d' ↔
      ∃ first a d₁ second, log = first ++ second ∧ Gives x d first (.ok a) d₁ ∧
        Gives (f a) d₁ second (.ok b) d' := by
  rw [gives_bind]
  constructor
  · intro ran
    rcases ran with h | ⟨e, h, _⟩
    · exact h
    · cases h
  · exact .inl

theorem gives_liftM {p : Work α} {r : Except ResolutionFailure α} :
    Gives (liftM p) d log r d' ↔ ∃ a, Run p log a ∧ r = .ok a ∧ d' = d := by
  have lifted : (liftM (n := Resolving) p).run.run d = p >>= fun a => .done (.ok a, d) :=
    Program.bind_assoc p _ _
  rw [Gives, lifted, run_bind]
  constructor
  · intro ran
    obtain ⟨first, a, second, rfl, h₁, h₂⟩ := ran
    obtain ⟨rfl, rfl, rfl⟩ := Inquiry.run_done_pair.mp h₂
    exact ⟨a, by rwa [List.append_nil], rfl, rfl⟩
  · intro ran
    obtain ⟨a, h, rfl, rfl⟩ := ran
    exact ⟨log, a, [], (List.append_nil _).symm, h, .done _⟩

/-- A fetch fails as the call does, and says what could not be fetched. -/
theorem gives_fetch {resource : Resource} {id : String} {y : Fallible α}
    {r : Except ResolutionFailure α} :
    Gives (fetch resource id y) d log r d' ↔
      ∃ r₀, Fallible.Gives y log r₀ ∧ r = r₀.mapError (⟨resource, id, ·⟩) ∧ d' = d := by
  rw [fetch, gives_bind]
  constructor
  · intro ran
    rcases ran with ⟨first, r₀, d₁, second, rfl, h₁, h₂⟩ | ⟨e, rfl, h⟩
    · obtain ⟨_, h₁, ⟨⟩, rfl⟩ := gives_liftM.mp h₁
      cases r₀ with
      | ok a =>
        obtain ⟨rfl, rfl, rfl⟩ := gives_pure.mp h₂
        exact ⟨.ok a, by rwa [List.append_nil], rfl, rfl⟩
      | error raw =>
        obtain ⟨rfl, rfl, rfl⟩ := Inquiry.run_done_pair.mp h₂
        exact ⟨.error raw, by rwa [List.append_nil], rfl, rfl⟩
    · obtain ⟨_, _, h, _⟩ := gives_liftM.mp h
      cases h
  · intro ran
    obtain ⟨r₀, h, rfl, rfl⟩ := ran
    refine .inl ⟨log, r₀, d', [], (List.append_nil _).symm, gives_liftM.mpr ⟨r₀, h, rfl, rfl⟩, ?_⟩
    cases r₀ <;> exact .done _

/-- Take a resource from the dossier, or fetch it and keep it there. -/
def cached (look : Dossier → Option α) (keep : α → Dossier → Dossier) (resource : Resource)
    (id : String) (y : Fallible α) : Resolving α := do
  match look (← get) with
  | some value => return value
  | none =>
    let value ← fetch resource id y
    modify (keep value)
    return value

/-- The cluster of an alert is recalled by its id. -/
theorem cluster_eq_cached (alert : Alert) :
    cluster alert = cached Dossier.cluster (fun c d => { d with cluster := some c }) .cluster
      alert.clusterId (Work.fetchCluster alert.clusterId) := by
  unfold cluster cached
  congr 1
  funext d
  cases d.cluster <;> rfl

theorem deployment_eq_cached (alert : Alert) :
    deployment alert = cluster alert >>= fun c =>
      cached Dossier.deployment (fun v d => { d with deployment := some v }) .deployment c.id
        (Work.fetchDeployment c.id) := by
  unfold deployment cached
  congr 1
  funext c
  congr 1
  funext d
  cases d.deployment <;> rfl

theorem cloud_eq_cached (alert : Alert) :
    cloud alert = cluster alert >>= fun c =>
      cached Dossier.cloud (fun v d => { d with cloud := some v }) .cloud c.id
        (Work.openCloud c) := by
  unfold cloud cached
  congr 1
  funext c
  congr 1
  funext d
  cases d.cloud <;> rfl

/-- What is in the dossier is taken from there without a call; what is not is fetched, and kept
unless the fetch failed. -/
theorem gives_cached {look : Dossier → Option α} {keep : α → Dossier → Dossier}
    {resource : Resource} {id : String} {y : Fallible α} {r : Except ResolutionFailure α} :
    Gives (cached look keep resource id y) d log r d' ↔
      (∃ v, look d = some v ∧ log = [] ∧ r = .ok v ∧ d' = d) ∨
      look d = none ∧
        ((∃ v, Fallible.Gives y log (.ok v) ∧ r = .ok v ∧ d' = keep v d) ∨
          ∃ raw, Fallible.Gives y log (.error raw) ∧ r = .error ⟨resource, id, raw⟩ ∧ d' = d) := by
  have entry : Gives (cached look keep resource id y) d log r d' ↔
      Gives (match look d with
        | some value => pure value
        | none => fetch resource id y >>= fun value => modify (keep value) >>= fun _ => pure value)
        d log r d' := Iff.rfl
  rw [entry]
  cases held : look d with
  | some v => simp
  | none =>
    simp only [reduceCtorEq, false_and, exists_false, true_and, false_or]
    rw [gives_bind]
    constructor
    · intro ran
      rcases ran with ⟨first, v, d₁, second, rfl, h₁, h₂⟩ | ⟨e, rfl, h⟩
      · obtain ⟨_ | v', h₁, hv, rfl⟩ := gives_fetch.mp h₁
        · cases hv
        · cases hv
          obtain ⟨rfl, rfl, rfl⟩ := Inquiry.run_done_pair.mp h₂
          exact .inl ⟨v, by rwa [List.append_nil], rfl, rfl⟩
      · obtain ⟨raw | _, hy, he, rfl⟩ := gives_fetch.mp h
        · cases he
          exact .inr ⟨raw, hy, rfl, rfl⟩
        · cases he
    · intro ran
      rcases ran with ⟨v, h, rfl, rfl⟩ | ⟨raw, h, rfl, rfl⟩
      · exact .inl ⟨log, v, d, [], (List.append_nil _).symm, gives_fetch.mpr ⟨_, h, rfl, rfl⟩,
          .done _⟩
      · exact .inr ⟨_, rfl, gives_fetch.mpr ⟨.error raw, h, rfl, rfl⟩⟩

/-- Whatever it is answered and has on file, the program makes requests of one kind only. -/
def Only (P : Ask → Prop) (x : Resolving α) : Prop :=
  ∀ d, Program.Only (I := collaboration) P (x.run.run d)

variable {P : Ask → Prop}

theorem only_pure (a : α) : Only P (pure a : Resolving α) := fun _ => trivial

theorem only_bind (hx : Only P x) (hf : ∀ a, Only P (f a)) : Only P (x >>= f) := by
  intro d
  refine Program.only_bind (hx d) fun r => ?_
  obtain ⟨e | a, d₁⟩ := r
  · trivial
  · exact hf a d₁

theorem only_fetch {resource : Resource} {id : String} {y : Fallible α}
    (h : Fallible.Only P y) : Only P (fetch resource id y) := by
  refine only_bind (fun d => ?_) fun r => ?_
  · exact Program.only_bind (p := y.run >>= fun a => .done (a, d))
      (Program.only_bind h fun _ => trivial) fun _ => trivial
  · cases r <;> exact fun _ => trivial

theorem only_cached {look : Dossier → Option α} {keep : α → Dossier → Dossier}
    {resource : Resource} {id : String} {y : Fallible α} (h : Fallible.Only P y) :
    Only P (cached look keep resource id y) := by
  refine only_bind (fun _ => trivial) fun d => ?_
  cases look d with
  | some v => exact only_pure v
  | none => exact only_bind (only_fetch h) fun _ _ => trivial

end Resolving

/-! ## 5. Rehearsed handlings -/

namespace Desk

/-- The exchanges of handling an alert in a rehearsal, and what came of it. -/
def rehearse (d : Desk) (alert : Alert) (s : Rehearsal) : Log × Except Failure Outcome :=
  ((s.run (d.handle alert).run).1, (s.run (d.handle alert).run).2.1)

/-- A rehearsed handling is a run. -/
theorem gives_rehearse {d : Desk} {alert : Alert} {s : Rehearsal} :
    Fallible.Gives (d.handle alert) (d.rehearse alert s).1 (d.rehearse alert s).2 :=
  Program.run_play _ _ _

end Desk

end OnCall
