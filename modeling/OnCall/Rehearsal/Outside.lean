import OnCall.Json.Plain
import OnCall.Json.Pretty
import OnCall.Json.Writer
import OnCall.Rehearsal.Script
import OnCall.Tool.Command
import OnCall.Web.Message

/-!
# Scripted tools and services

* `ToolScript`: the endings that the next starts of a tool have; `ToolScript.answer` is the reply
  to a start. A tool that no ending is left for fails.
* `ToolEnding.ofScript?`, `WebReply.ofScript?`: one ending and one reply of a script.
-/

namespace OnCall

/-! ## 1. Texts of JSON values -/

namespace Json

/-- What a tool or a service writes for a value: a string as it stands, anything else as JSON. -/
def written : Json → Option String
  | .string s => s
  | j => some j.settled.sorted.write

end Json

/-! ## 2. Tools -/

/-- A byte. -/
def Json.byte? (j : Json) : Option UInt8 := j.nat?.map UInt8.ofNat

/-- A whole number, perhaps with a minus. -/
def Json.int? : Json → Option Int
  | .number n => n.integer?
  | _ => none

/-- What a tool writes to its standard output: bytes as they are given, or a value. -/
def stdoutOfScript? (j : Json) : Option (List UInt8) :=
  match j.get? "stdout_bytes" with
  | some bytes => Json.list? Json.byte? bytes
  | none => ((j.get? "stdout").elim (some "") Json.written).map fun s => s.toUTF8.toList

/-- An ending: what the tool writes, and how it ends. Of an exit code the last eight bits are
kept. -/
def ToolEnding.ofScript? (j : Json) : Option ToolEnding := do
  let stdout ← stdoutOfScript? j
  let stderr := (← j.getOr "stderr" "" Json.string?).toUTF8.toList
  match j.get? "code" with
  | some (.string (some "hang")) => return .timedOut
  | some (.string (some "kill")) => return .finished none stdout stderr
  | code => return .finished (some ((← (code.elim (some 0) Json.int?)) % 256)) stdout stderr

/-- The endings that the next starts of a tool have. -/
structure ToolScript where
  /-- There is no such tool. -/
  isMissing : Bool
  endings : List ToolEnding

namespace ToolScript

/-- The ending when no other is left. -/
def exhausted : ToolEnding := .finished (some 99) [] "no reply scripted\n".toUTF8.toList

/-- The bytes of the longest argument. -/
def longestArgument : Nat := 131_071

/-- The reply to a start. A start with a character that no argument can hold is refused, and so is
one with an argument that is too long. -/
def answer (q : ToolStart) (s : ToolScript) : ToolEnding × ToolScript :=
  if (q.program :: q.arguments).any fun a => a.toList.contains '\x00' then
    (.notStarted "nul byte found in provided data", s)
  else if s.isMissing then (.notStarted "No such file or directory (os error 2)", s)
  else if q.arguments.any fun a => longestArgument < a.utf8ByteSize then
    (.notStarted "Argument list too long (os error 7)", s)
  else (s.endings.head?.getD exhausted, { s with endings := s.endings.tail })

end ToolScript

/-- The command lines of the starts that succeeded. -/
def startedTools (log : List (Exchange toolbox)) : List (List String) :=
  log.filterMap fun (⟨q, ending⟩ : Exchange toolbox) =>
    match q, ending with
    | _, .notStarted _ => none
    | q, _ => some (q.program :: q.arguments)

/-! ## 3. Services -/

/-- What is said of a request that gets no reply. -/
def WebReply.lost : WebReply := .unanswered "error sending request"

/-- A reply: its status and its body, or none at all. -/
def WebReply.ofScript? (j : Json) : Option WebReply := do
  if ← j.getOr "drop" false Json.bool? then return lost
  let status ← j.getOr "status" 200 Json.nat?
  match j.get? "body" with
  | some body => return .answered status body.settled.sorted.write
  | none => return .answered status (← j.getOr "text" "" Json.string?)

end OnCall
