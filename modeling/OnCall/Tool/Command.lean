import OnCall.Failure.Basic
import OnCall.Json.Record
import OnCall.Program
import OnCall.Text.Blank
import OnCall.Text.Utf8

/-!
# External tools

A tool is started with arguments and ends with an exit code and two outputs, unless it cannot be
started or takes too long.

* `ToolStart`, `ToolEnding`: a start and how it ended; `toolbox` is the interface of starts.
* `Tool.capture`: one start, with the outputs as text, whatever the exit code.
* `Tool.run`: the standard output of a tool that succeeded.
* `Tool.read`: that output read as JSON.
-/

namespace OnCall

/-- The start of an external tool. -/
structure ToolStart where
  program : String
  arguments : List String
  /-- A tool that has not ended by then is stopped. -/
  limit : Span
deriving DecidableEq

/-- How a start ended. -/
inductive ToolEnding where
  | notStarted (report : String)
  | timedOut
  /-- The tool ended; without an exit code if a signal ended it. -/
  | finished (code : Option Int) (stdout stderr : List UInt8)

/-- The starts of tools and how they end. -/
def toolbox : Interface := ⟨ToolStart, fun _ => ToolEnding⟩

/-- A program that starts tools and may fail. -/
abbrev ToolWork (α : Type) := ExceptT Failure (Program toolbox) α

/-- A tool, and the longest time that it may take. -/
structure Tool where
  program : String
  limit : Span

/-- What a tool that ended left behind. -/
structure Captured where
  code : Option Int
  stdout : String
  stderr : String
deriving DecidableEq

/-- A tool succeeds with the exit code zero. -/
def Captured.succeeded (c : Captured) : Bool := c.code = some 0

namespace Tool

/-- What an ending tells: the outputs as text, with the blanks around the error output cut off. -/
def judge (tool : Tool) : ToolEnding → Except CommandFault Captured
  | .notStarted report => .error (.spawn tool.program report)
  | .timedOut => .error (.timeout tool.program tool.limit)
  | .finished code stdout stderr =>
    .ok ⟨code, Text.Utf8.decode stdout, Text.trimmed (Text.Utf8.decode stderr)⟩

/-- Start the tool once and keep what it wrote, whatever its exit code. -/
def capture (tool : Tool) (arguments : List String) : ToolWork Captured := do
  let ending ← (Program.request (I := toolbox) ⟨tool.program, arguments, tool.limit⟩ :
    Program toolbox ToolEnding)
  match tool.judge ending with
  | .ok captured => return captured
  | .error fault => throw (.root (.command fault))

/-- The standard output of the tool, if it succeeds. -/
def run (tool : Tool) (arguments : List String) : ToolWork String := do
  let captured ← tool.capture arguments
  if captured.succeeded then return captured.stdout
  else throw (.root (.command (.failed tool.program captured.code captured.stdout captured.stderr)))

/-- The standard output of the tool, read as JSON. -/
def read {α : Type} (tool : Tool) (value : Json → Option α) (arguments : List String) :
    ToolWork α := do
  match Json.decode? value (← tool.run arguments) with
  | some a => return a
  | none => throw (.root (.command (.output tool.program Json.unreadableReport)))

end Tool

/-- The same program, with a text added to its failure. -/
def ToolWork.describe {α : Type} (text : String) (x : ToolWork α) : ToolWork α :=
  ExceptT.adapt (Failure.context text) x

end OnCall
