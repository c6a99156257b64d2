import OnCall.Investigation.Assisted
import OnCall.Investigation.Provisioning
import OnCall.Investigation.Unreachable

/-!
# The investigations there are

* `Investigation`: the kinds of investigation, and for each its name, what it needs and which
  titles it is for.
* `Investigation.run`: runs one. A finding does not fail: it is noted and escalated.
* `Roster`: investigations in order; `Roster.find` takes the first that may be used and matches.
-/

namespace OnCall

/-- The kinds of investigation. -/
inductive Investigation where
  | unreachable
  | provisioning
  | assisted
deriving DecidableEq

namespace Investigation

def name : Investigation → String
  | unreachable => Unreachable.name
  | provisioning => Provisioning.name
  | assisted => Assisted.name

def description : Investigation → String
  | unreachable => "Finds who stopped cluster instances and whether egress is blocked"
  | provisioning => "Checks customer networking of clusters stuck installing"
  | assisted => "Asks an AI agent to summarise alerts without automation"

/-- Whether the investigation is for alerts with this title. The assisted one is for all. -/
def isFor (i : Investigation) (title : String) : Bool :=
  match i with
  | unreachable => Text.occursIn Unreachable.titlePart title
  | provisioning => Text.occursIn Provisioning.titlePart title
  | assisted => true

/-- Whether the investigation is not ready for production. -/
def isExperimental : Investigation → Bool
  | assisted => true
  | _ => false

/-- What the investigation needs. -/
def needs : Investigation → Requirements
  | unreachable => ⟨true, true⟩
  | provisioning => ⟨false, true⟩
  | assisted => .none

/-- The steps of the investigation. -/
def steps (i : Investigation) (ctx : Context) (now : Instant) : Inquiry Conclusion :=
  match i with
  | unreachable =>
    if ctx.alert.hasCleared then Unreachable.recovered ctx now else Unreachable.triggered ctx now
  | provisioning => Provisioning.run ctx
  | assisted => Assisted.run ctx

/-- Escalate with what was found out so far, and why it is inconclusive. -/
def inconclusive (failure : Failure) : Inquiry Conclusion := do
  Inquiry.note .warning failure.full
  return (← Inquiry.draft).escalate "investigation was inconclusive"

/-- Run the investigation. Findings end it with an escalation; every other failure is passed on. -/
def run (i : Investigation) (ctx : Context) : Inquiry Conclusion := do
  let now ← liftM (n := Inquiry) Work.now
  tryCatch (i.steps ctx now) fun failure =>
    if failure.isConclusive then inconclusive failure else throw failure

end Investigation

/-- Investigations in the order in which they are tried. -/
structure Roster where
  investigations : List Investigation
  /-- Investigations that are not ready for production may be used. -/
  experimental : Bool
deriving DecidableEq

namespace Roster

/-- All investigations; the one for every title comes last. -/
def standard (experimental : Bool) : Roster :=
  ⟨[.unreachable, .provisioning, .assisted], experimental⟩

/-- The first investigation that may be used and is for this title. -/
def find (r : Roster) (title : String) : Option Investigation :=
  (r.investigations.filter fun i => r.experimental || !i.isExperimental).find? fun i => i.isFor title

end Roster

end OnCall
