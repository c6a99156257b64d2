import Mathlib.Data.List.Forall2
import OnCall.Proofs.Runs
import OnCall.Tool.Command

/-!
# Runs of external tools

A client of an external tool starts it once for each thing that it wants to know, one after the
other, and gives up at the first start that tells it nothing.

* `ToolWork.Asks`: the work is one start, and its ending decides what comes of it.
* `Tool.Answers`: what a tool that is asked for JSON comes to, for each way that it can end.
* `InTurn`: one start for each item of a list, until one of them fails.
* `ToolWork.run_mapM_iff`: **a loop over single starts runs in turn**.
* `InTurn.ok_iff`, `InTurn.error_iff`: what was started and how it ended, if all of it went well and
  if something failed.
-/

namespace OnCall

open Program (Run)

/-- A start of a tool together with how it ended. -/
def ToolStart.exchange (q : ToolStart) (ending : ToolEnding) : Exchange toolbox := ⟨q, ending⟩

/-- What was started. -/
def Exchange.start (e : Exchange toolbox) : ToolStart := e.request

/-- How it ended. -/
def Exchange.ending (e : Exchange toolbox) : ToolEnding := e.reply

theorem Exchange.eq_exchange (e : Exchange toolbox) : e = e.start.exchange e.ending := rfl

/-! ## 1. One start -/

namespace ToolWork

variable {α β : Type} {x : ToolWork α} {q : ToolStart} {told : ToolEnding → Except Failure α}

/-- **The work is one start**, and its ending is told as `told` says. -/
def Asks (x : ToolWork α) (q : ToolStart) (told : ToolEnding → Except Failure α) : Prop :=
  x.run = .ask (I := toolbox) q fun ending => .done (told ending)

theorem Asks.run_iff (asks : x.Asks q told) {log : List (Exchange toolbox)}
    {r : Except Failure α} :
    Run x.run log r ↔ ∃ ending, log = [q.exchange ending] ∧ r = told ending := by
  unfold Asks at asks
  rw [asks]
  constructor
  · intro run
    obtain ⟨ending, rest, rfl, tail⟩ := Program.run_ask.mp run
    obtain ⟨rfl, rfl⟩ := Program.run_done.mp tail
    exact ⟨ending, rfl, rfl⟩
  · rintro ⟨ending, rfl, rfl⟩
    exact Program.run_ask.mpr ⟨ending, [], rfl, .done _⟩

/-- What follows the start without another one only changes what is told. -/
theorem Asks.bind (asks : x.Asks q told) {f : α → ToolWork β} {g : α → Except Failure β}
    (settles : ∀ a, (f a).run = .done (g a)) :
    (x >>= f).Asks q fun ending => (told ending).bind g := by
  have opened : (x >>= f).run = x.run >>= ExceptT.bindCont f := rfl
  have rest : ∀ r : Except Failure α, ExceptT.bindCont f r = .done (r.bind g) := by
    intro r
    cases r with
    | error e => rfl
    | ok a => exact settles a
  unfold Asks at asks ⊢
  rw [opened, asks]
  exact congrArg (Program.ask (I := toolbox) q) (funext fun ending => rest (told ending))

theorem Asks.describe (asks : x.Asks q told) (text : String) :
    (x.describe text).Asks q fun ending => (told ending).mapError (Failure.context text) := by
  have opened : (x.describe text).run =
      x.run >>= fun r => .done (r.mapError (Failure.context text)) := rfl
  unfold Asks at asks ⊢
  rw [opened, asks]
  rfl

/-- Making something of what is told changes no start. -/
theorem run_map_iff {g : α → β} {log : List (Exchange toolbox)} {r : Except Failure β} :
    Run (g <$> x).run log r ↔ ∃ r₀, Run x.run log r₀ ∧ r = r₀.map g := by
  rw [map_eq_pure_bind, Program.run_bind_except]
  constructor
  · intro run
    rcases run with ⟨first, a, second, rfl, told, last⟩ | ⟨f, rfl, told⟩
    · obtain ⟨rfl, rfl⟩ := Program.run_done.mp last
      rw [List.append_nil]
      exact ⟨.ok a, told, rfl⟩
    · exact ⟨.error f, told, rfl⟩
  · rintro ⟨_ | a, told, rfl⟩
    · exact .inr ⟨_, rfl, told⟩
    · exact .inl ⟨log, a, [], (List.append_nil _).symm, told, .done _⟩

end ToolWork

namespace Tool

variable {α : Type} {tool : Tool} {value : Json → Option α} {arguments : List String}
  {ending : ToolEnding}

/-- The start of the tool with these arguments. -/
def start (tool : Tool) (arguments : List String) : ToolStart :=
  ⟨tool.program, arguments, tool.limit⟩

/-- What the tool left behind, or why it left nothing. -/
def captured (tool : Tool) (ending : ToolEnding) : Except Failure Captured :=
  (tool.judge ending).mapError fun fault => .root (.command fault)

/-- What the tool wrote, if it succeeded. -/
def output (tool : Tool) (ending : ToolEnding) : Except Failure String :=
  (tool.captured ending).bind fun c =>
    if c.succeeded then .ok c.stdout
    else .error (.root (.command (.failed tool.program c.code c.stdout c.stderr)))

/-- What can be read in what the tool wrote. -/
def answer (tool : Tool) (value : Json → Option α) (ending : ToolEnding) : Except Failure α :=
  (tool.output ending).bind fun stdout =>
    match Json.decode? value stdout with
    | some a => .ok a
    | none => .error (.root (.command (.output tool.program Json.unreadableReport)))

theorem asks_capture : (tool.capture arguments).Asks (tool.start arguments) tool.captured := by
  refine congrArg (Program.ask (I := toolbox) (tool.start arguments)) (funext fun ending => ?_)
  unfold captured
  dsimp only [Program.bind, Function.comp, ExceptT.bindCont]
  cases tool.judge ending <;> rfl

theorem asks_run : (tool.run arguments).Asks (tool.start arguments) tool.output := by
  refine asks_capture.bind fun c => ?_
  by_cases succeeded : c.succeeded = true
  · simp only [if_pos succeeded]
    rfl
  · simp only [if_neg succeeded]
    rfl

/-- **Asking a tool is one start.** -/
theorem asks_read :
    (tool.read value arguments).Asks (tool.start arguments) (tool.answer value) := by
  refine asks_run.bind fun stdout => ?_
  cases Json.decode? value stdout <;> rfl

/-- **What a tool that is asked for JSON comes to.** It gives an answer only if it was started,
ended in time and with success, and wrote what can be read. -/
inductive Answers (tool : Tool) (value : Json → Option α) :
    ToolEnding → Except Failure α → Prop where
  | notStarted {report : String} :
    Answers tool value (.notStarted report) (.error (.root (.command (.spawn tool.program report))))
  | timedOut :
    Answers tool value .timedOut (.error (.root (.command (.timeout tool.program tool.limit))))
  | failed {code : Option Int} {stdout stderr : List UInt8} (h : code ≠ some 0) :
    Answers tool value (.finished code stdout stderr)
      (.error (.root (.command (.failed tool.program code (Text.Utf8.decode stdout)
        (Text.trimmed (Text.Utf8.decode stderr))))))
  | unreadable {stdout stderr : List UInt8}
      (h : Json.decode? value (Text.Utf8.decode stdout) = none) :
    Answers tool value (.finished (some 0) stdout stderr)
      (.error (.root (.command (.output tool.program Json.unreadableReport))))
  | read {stdout stderr : List UInt8} {a : α}
      (h : Json.decode? value (Text.Utf8.decode stdout) = some a) :
    Answers tool value (.finished (some 0) stdout stderr) (.ok a)

theorem output_of_success {stdout stderr : List UInt8} :
    tool.output (.finished (some 0) stdout stderr) = .ok (Text.Utf8.decode stdout) := rfl

theorem output_of_failure {code : Option Int} {stdout stderr : List UInt8} (h : code ≠ some 0) :
    tool.output (.finished code stdout stderr) =
      .error (.root (.command (.failed tool.program code (Text.Utf8.decode stdout)
        (Text.trimmed (Text.Utf8.decode stderr))))) := by
  have failed : ¬ Captured.succeeded ⟨code, Text.Utf8.decode stdout,
      Text.trimmed (Text.Utf8.decode stderr)⟩ = true :=
    fun succeeded => h (of_decide_eq_true succeeded)
  exact if_neg failed

theorem answer_eq_iff {r : Except Failure α} :
    r = tool.answer value ending ↔ tool.Answers value ending r := by
  constructor
  · rintro rfl
    cases ending with
    | notStarted report => exact .notStarted
    | timedOut => exact .timedOut
    | finished code stdout stderr =>
      unfold answer
      by_cases success : code = some 0
      · subst success
        rw [output_of_success]
        simp only [Except.bind]
        cases read : Json.decode? value (Text.Utf8.decode stdout) with
        | none => exact .unreadable read
        | some a => exact .read read
      · rw [output_of_failure success]
        exact .failed success
  · intro told
    cases told with
    | notStarted => rfl
    | timedOut => rfl
    | failed h => rw [answer, output_of_failure h, Except.bind]
    | unreadable h => simp only [answer, output_of_success, Except.bind, h]
    | read h => simp only [answer, output_of_success, Except.bind, h]

end Tool

/-! ## 2. One start for each item -/

/-- **One start for each item**, one after the other, until an ending tells of a failure. -/
inductive InTurn {ι β : Type} (start : ι → ToolStart) (told : ToolEnding → Except Failure β) :
    List ι → List (Exchange toolbox) → Except Failure (List β) → Prop where
  | nil : InTurn start told [] [] (.ok [])
  | failed {i : ι} {is : List ι} {ending : ToolEnding} {f : Failure}
      (h : told ending = .error f) :
      InTurn start told (i :: is) [(start i).exchange ending] (.error f)
  | next {i : ι} {is : List ι} {ending : ToolEnding} {b : β} {log : List (Exchange toolbox)}
      {r : Except Failure (List β)} (h : told ending = .ok b)
      (others : InTurn start told is log r) :
      InTurn start told (i :: is) ((start i).exchange ending :: log) (r.map (b :: ·))

section Turns

variable {ι β : Type} {start : ι → ToolStart} {told : ToolEnding → Except Failure β} {is : List ι}
  {log : List (Exchange toolbox)} {f : Failure} {bs : List β}

/-- **A loop over single starts runs in turn.** -/
theorem ToolWork.run_mapM_iff {work : ι → ToolWork β} (asks : ∀ i, (work i).Asks (start i) told)
    {r : Except Failure (List β)} :
    Run (is.mapM work).run log r ↔ InTurn start told is log r := by
  induction is generalizing log r with
  | nil =>
    constructor
    · intro run
      obtain ⟨rfl, rfl⟩ := Program.run_done.mp run
      exact .nil
    · intro turn
      cases turn
      exact .done _
  | cons i is ih =>
    rw [List.mapM_cons]
    constructor
    · intro run
      rcases Program.run_bind_except.mp run with ⟨first, b, rest, rfl, now, tail⟩ | ⟨f, rfl, now⟩
      · obtain ⟨ending, rfl, same⟩ := (asks i).run_iff.mp now
        rcases Program.run_bind_except.mp tail with ⟨mid, bs, last, rfl, others, done⟩ |
          ⟨f, rfl, others⟩
        · obtain ⟨rfl, rfl⟩ := Program.run_done.mp done
          rw [List.append_nil]
          exact .next same.symm (ih.mp others)
        · exact .next same.symm (ih.mp others)
      · obtain ⟨ending, rfl, same⟩ := (asks i).run_iff.mp now
        exact .failed same.symm
    · intro turn
      cases turn with
      | failed h =>
        have now := (asks i).run_iff.mpr ⟨_, rfl, h.symm⟩
        exact Program.run_bind_except.mpr (.inr ⟨_, rfl, now⟩)
      | @next _ _ ending b log r h others =>
        have now := (asks i).run_iff.mpr ⟨ending, rfl, h.symm⟩
        have tail := ih.mpr others
        refine Program.run_bind_except.mpr (.inl ⟨[_], _, _, rfl, now, ?_⟩)
        cases r with
        | error f => exact Program.run_bind_except.mpr (.inr ⟨f, rfl, tail⟩)
        | ok bs =>
          exact Program.run_bind_except.mpr
            (.inl ⟨log, bs, [], (List.append_nil _).symm, tail, .done _⟩)

/-- If all went well, there was one start for each item, in order, and each told something. -/
theorem InTurn.ok_iff :
    InTurn start told is log (.ok bs) ↔
      log.map Exchange.start = is.map start ∧
        List.Forall₂ (fun e b => told e.ending = .ok b) log bs := by
  constructor
  · generalize same : (Except.ok bs : Except Failure (List β)) = r
    intro turn
    induction turn generalizing bs with
    | nil =>
      cases same
      exact ⟨rfl, .nil⟩
    | failed h => cases same
    | @next i is ending b log r h others ih =>
      cases r with
      | error f => cases same
      | ok rest =>
        cases same
        obtain ⟨asked, each⟩ := ih rfl
        exact ⟨congrArg (start i :: ·) asked, .cons h each⟩
  · rintro ⟨asked, each⟩
    induction each generalizing is with
    | nil =>
      rw [List.map_nil] at asked
      rw [List.map_eq_nil_iff.mp asked.symm]
      exact .nil
    | @cons e b log bs h others ih =>
      cases is with
      | nil => cases asked
      | cons i is =>
        rw [List.map_cons, List.map_cons, List.cons.injEq] at asked
        obtain ⟨first, asked⟩ := asked
        rw [e.eq_exchange, first]
        exact .next h (ih asked)

/-- If something failed, it was the last thing that was asked for. -/
theorem InTurn.error_iff :
    InTurn start told is log (.error f) ↔
      ∃ before i after earlier bs ending, is = before ++ i :: after ∧
        log = earlier ++ [(start i).exchange ending] ∧
        InTurn start told before earlier (.ok bs) ∧ told ending = .error f := by
  constructor
  · generalize same : (Except.error f : Except Failure (List β)) = r
    intro turn
    induction turn with
    | nil => cases same
    | @failed i is ending f h =>
      cases same
      exact ⟨[], i, is, [], [], ending, rfl, rfl, .nil, h⟩
    | @next i is ending b log r h others ih =>
      cases r with
      | ok rest => cases same
      | error f =>
        cases same
        obtain ⟨before, j, after, earlier, bs, last, rfl, rfl, well, failed⟩ := ih rfl
        exact ⟨i :: before, j, after, _ :: earlier, b :: bs, last, rfl, rfl, .next h well, failed⟩
  · rintro ⟨before, i, after, earlier, bs, ending, rfl, rfl, well, failed⟩
    generalize same : (Except.ok bs : Except Failure (List β)) = r at well
    induction well generalizing bs with
    | nil => exact .failed failed
    | failed h => cases same
    | @next j is ending b log r h others ih =>
      cases r with
      | error g => cases same
      | ok rest => exact .next (r := .error f) h (ih rest rfl)

end Turns

end OnCall
