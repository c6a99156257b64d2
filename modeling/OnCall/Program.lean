/-!
# Programs that ask their surroundings

Everything the responder does to the world goes through a request: a call to a platform, a pause,
a look at the clock. A program is the tree of its requests; what stands on the other side is
free, so a statement about all runs of a program covers every platform and every failure.

* `Interface`: the requests a program may make and the type of each reply.
* `Program`: a finished value, or a request and what follows each reply. It is a lawful monad.
* `Exchange`, `Run`: one request with the reply it got, and the relation "this program can make
  these exchanges, in this order, and end with this value".
* `Program.play`: the run against given surroundings, with the exchanges it made
  (`run_play`: what `play` reports is a run).
* `Program.interpret`: the run in any monad that can meet the requests.
-/

namespace OnCall

/-- The requests a program may make, and what each is answered with. -/
structure Interface where
  Request : Type
  Reply : Request → Type

/-- A program over an interface: it ends with a value, or makes a request and goes on with
the reply. -/
inductive Program (I : Interface) (α : Type) : Type where
  | done (value : α)
  | ask (request : I.Request) (next : I.Reply request → Program I α)

/-- One request together with the reply it got. -/
structure Exchange (I : Interface) where
  request : I.Request
  reply : I.Reply request

namespace Program

variable {I : Interface} {α β γ : Type}

/-! ## 1. Sequencing -/

/-- Run `p`, then what `f` makes of its value. -/
def bind : Program I α → (α → Program I β) → Program I β
  | .done a, f => f a
  | .ask q next, f => .ask q fun r => (next r).bind f

instance : Monad (Program I) where
  pure := .done
  bind := bind

/-- The program that makes one request and ends with the reply. -/
def request (q : I.Request) : Program I (I.Reply q) :=
  .ask q .done

@[simp] theorem pure_eq (a : α) : (pure a : Program I α) = .done a := rfl

@[simp] theorem done_bind (a : α) (f : α → Program I β) : (Program.done a >>= f) = f a := rfl

@[simp] theorem ask_bind (q : I.Request) (next : I.Reply q → Program I α) (f : α → Program I β) :
    (Program.ask q next >>= f) = .ask q fun r => next r >>= f := rfl

@[simp] theorem request_bind (q : I.Request) (f : I.Reply q → Program I β) :
    (request q >>= f) = .ask q f := rfl

theorem bind_done (p : Program I α) : (p >>= fun a => .done a) = p := by
  induction p with
  | done a => rfl
  | ask q next ih => simp only [ask_bind, ih]

theorem bind_assoc (p : Program I α) (f : α → Program I β) (g : β → Program I γ) :
    (p >>= f) >>= g = p >>= fun a => f a >>= g := by
  induction p with
  | done a => rfl
  | ask q next ih => simp only [ask_bind, ih]

instance : LawfulMonad (Program I) :=
  LawfulMonad.mk' _ (fun p => bind_done p) (fun _ _ => rfl) bind_assoc

/-! ## 2. Runs -/

/-- **The runs of a program**: `Run p log a` says that `p` can make the exchanges of `log`, in
this order, and end with `a`. -/
inductive Run : Program I α → List (Exchange I) → α → Prop where
  | done (a : α) : Run (.done a) [] a
  | ask (q : I.Request) (next : I.Reply q → Program I α) (r : I.Reply q)
      {log : List (Exchange I)} {a : α} (rest : Run (next r) log a) :
      Run (.ask q next) (⟨q, r⟩ :: log) a

@[simp] theorem run_done {a b : α} {log : List (Exchange I)} :
    Run (.done a) log b ↔ log = [] ∧ b = a := by
  constructor
  · intro h
    cases h
    exact ⟨rfl, rfl⟩
  · rintro ⟨rfl, rfl⟩
    exact .done _

theorem run_ask {q : I.Request} {next : I.Reply q → Program I α} {log : List (Exchange I)} {a : α} :
    Run (.ask q next) log a ↔ ∃ r rest, log = ⟨q, r⟩ :: rest ∧ Run (next r) rest a := by
  constructor
  · intro h
    cases h with
    | ask _ _ r rest => exact ⟨r, _, rfl, rest⟩
  · rintro ⟨r, rest, rfl, h⟩
    exact .ask q next r h

/-- A run of a sequence is a run of the first part followed by a run of the second. -/
theorem run_bind {p : Program I α} {f : α → Program I β} {log : List (Exchange I)} {b : β} :
    Run (p >>= f) log b ↔
      ∃ first a second, log = first ++ second ∧ Run p first a ∧ Run (f a) second b := by
  induction p generalizing log with
  | done a =>
    constructor
    · intro h
      exact ⟨[], a, log, rfl, .done a, h⟩
    · rintro ⟨first, a', second, rfl, h₁, h₂⟩
      obtain ⟨rfl, rfl⟩ := run_done.mp h₁
      exact h₂
  | ask q next ih =>
    constructor
    · intro h
      rw [ask_bind] at h
      obtain ⟨r, rest, rfl, tail⟩ := run_ask.mp h
      obtain ⟨first, a, second, rfl, h₁, h₂⟩ := (ih r).mp tail
      exact ⟨⟨q, r⟩ :: first, a, second, rfl, .ask q next r h₁, h₂⟩
    · rintro ⟨first, a, second, rfl, h₁, h₂⟩
      obtain ⟨r, rest, rfl, tail⟩ := run_ask.mp h₁
      exact .ask q _ r ((ih r).mpr ⟨rest, a, second, rfl, tail, h₂⟩)

/-! ## 3. Running against given surroundings -/

/-- The exchanges that `p` makes with surroundings that answer by `answer` from the state `s`,
the value it ends with, and the state it leaves. -/
def play {σ : Type} (answer : (q : I.Request) → σ → I.Reply q × σ) :
    Program I α → σ → List (Exchange I) × α × σ
  | .done a, s => ([], a, s)
  | .ask q next, s =>
    let (r, s) := answer q s
    let (log, a, s) := play answer (next r) s
    (⟨q, r⟩ :: log, a, s)

/-- What `play` reports is a run of the program. -/
theorem run_play {σ : Type} (answer : (q : I.Request) → σ → I.Reply q × σ) (p : Program I α)
    (s : σ) : Run p (p.play answer s).1 (p.play answer s).2.1 := by
  induction p generalizing s with
  | done a => exact .done a
  | ask q next ih => exact .ask q next _ (ih _ _)

end Program

/-! ## 4. Running elsewhere -/

/-- Run a program where each request is met by an action of `m`. -/
def Program.interpret {I : Interface} {m : Type → Type} [Monad m] {α : Type}
    (meet : (q : I.Request) → m (I.Reply q)) : Program I α → m α
  | .done a => pure a
  | .ask q next => do
    let r ← meet q
    (next r).interpret meet

end OnCall
