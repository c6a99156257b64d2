import OnCall.Conclusion.Basic
import OnCall.Dossier

/-!
# The course of an investigation

* `Inquiry`: a program that works with the platforms, writes notes and may fail. What was written
  before a failure stays written.
* `Inquiry.note` writes a line, and `Inquiry.draft` starts a conclusion with the lines so far.
-/

namespace OnCall

/-- A program that writes notes and may fail. -/
abbrev Inquiry (α : Type) := ExceptT Failure (StateT Notes (Program collaboration)) α

namespace Inquiry

/-- Do something that may fail, and go on with what came of it. -/
def attempt {α : Type} (x : Fallible α) : Inquiry (Except Failure α) :=
  liftM (n := Inquiry) x.run

/-- Do something that may fail; its failure ends the inquiry. -/
def perform {α : Type} (x : Fallible α) : Inquiry α := do
  match ← attempt x with
  | .ok value => return value
  | .error failure => throw failure

/-- Do something that may fail; its failure counts as infrastructure, unless it has a kind. -/
def require {α : Type} (text : String) (x : Fallible α) : Inquiry α :=
  perform (ExceptT.adapt (Failure.asInfrastructure text) x)

/-- Write a line. -/
def note (mark : Mark) (message : String) : Inquiry Unit :=
  modify (Notes.add mark message)

/-- A conclusion with the lines so far as its note. -/
def draft : Inquiry Conclusion.Draft :=
  return .ofNotes (← get)

end Inquiry

end OnCall
