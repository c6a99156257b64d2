/-!
# Notes of an investigation

* `Mark`: what a line says; each mark has a sign of its own.
* `Notes`: the lines collected so far.
* `Notes.render`: the text of the note that is put on the incident.
-/

namespace OnCall

/-- What a line of the notes says. -/
inductive Mark where
  | success
  | warning
  | info
  /-- Something that the automation does on its own. -/
  | automation
deriving DecidableEq

/-- The sign in front of a line. -/
def Mark.sign : Mark → String
  | .success => "✅"
  | .warning => "⚠️"
  | .info => "ℹ️"
  | .automation => "🤖"

/-- The lines that an investigation has written, in order. -/
structure Notes where
  investigation : String
  lines : List String
deriving DecidableEq

namespace Notes

/-- The notes of an investigation that has written nothing yet. -/
def empty (investigation : String) : Notes := ⟨investigation, []⟩

/-- One more line. -/
def add (mark : Mark) (message : String) (n : Notes) : Notes :=
  { n with lines := n.lines ++ [mark.sign ++ " " ++ message] }

def isEmpty (n : Notes) : Bool := n.lines.isEmpty

/-- The heading of a note: two lines. -/
def heading (investigation : String) : String :=
  "🤖 Automated " ++ investigation ++ " investigation 🤖\n===========================\n"

/-- The note: a heading and every line, in order. -/
def render (n : Notes) : String :=
  heading n.investigation ++ String.join (n.lines.map (· ++ "\n"))

@[simp] theorem lines_empty (name : String) : (empty name).lines = [] := rfl

@[simp] theorem lines_add (m : Mark) (t : String) (n : Notes) :
    (n.add m t).lines = n.lines ++ [m.sign ++ " " ++ t] := rfl

@[simp] theorem investigation_add (m : Mark) (t : String) (n : Notes) :
    (n.add m t).investigation = n.investigation := rfl

end Notes

end OnCall
