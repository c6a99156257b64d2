import OnCall.Advisory
import OnCall.Notes
import OnCall.Restriction

/-!
# Conclusions

An investigation ends with a conclusion: the note, side actions on the cluster, and one terminal
action on the incident.

* `Action`: one step.
* `Conclusion`: note, side actions and terminal action. That there is exactly one terminal action,
  and that it is the last, holds by the type.
* `Conclusion.Draft`: a conclusion that still lacks its terminal action.
-/

namespace OnCall

/-- An action on the cluster. -/
inductive SideAction where
  | restrict (change : Restriction.Change)
  | advise (draft : Advisory.Draft)
deriving DecidableEq

/-- What becomes of the incident. -/
inductive Routing where
  /-- A person is paged. -/
  | escalate (reason : String)
  /-- Nobody is paged. -/
  | silence (reason : String)
deriving DecidableEq

/-- One step of a conclusion. -/
inductive Action where
  | note (text : String)
  | side (action : SideAction)
  | terminal (routing : Routing)
deriving DecidableEq

namespace Action

def isTerminal : Action → Bool
  | terminal _ => true
  | _ => false

/-- The name of a step. -/
def label : Action → String
  | note _ => "note"
  | side (.restrict _) => "restrict"
  | side (.advise _) => "advise"
  | terminal (.escalate _) => "escalate"
  | terminal (.silence _) => "silence"

def toJson (a : Action) : Json :=
  .record <| ("action", .text a.label) ::
    match a with
    | note text => [("text", .text text)]
    | side (.restrict change) => change.members
    | side (.advise draft) => draft.members
    | terminal (.escalate reason) => [("reason", .text reason)]
    | terminal (.silence reason) => [("reason", .text reason)]

end Action

namespace SideAction

def isRestrict : SideAction → Bool
  | restrict _ => true
  | advise _ => false

def isAdvise : SideAction → Bool
  | restrict _ => false
  | advise _ => true

end SideAction

/-- What an investigation concludes. -/
structure Conclusion where
  note : String
  sideActions : List SideAction
  routing : Routing
deriving DecidableEq

namespace Conclusion

/-- The steps: note, side actions, terminal action. -/
def actions (c : Conclusion) : List Action :=
  .note c.note :: c.sideActions.map .side ++ [.terminal c.routing]

/-- The terminal action. -/
def terminal (c : Conclusion) : Action := .terminal c.routing

/-- The terminal action is the last step. -/
theorem getLast?_actions (c : Conclusion) : c.actions.getLast? = some c.terminal := by
  rw [actions, List.getLast?_concat, terminal]

/-- No other step is terminal. -/
theorem filter_isTerminal_actions (c : Conclusion) :
    c.actions.filter Action.isTerminal = [c.terminal] := by
  have h : (c.sideActions.map Action.side).filter Action.isTerminal = [] := by
    simp [List.filter_eq_nil_iff, Action.isTerminal]
  simp [actions, terminal, List.filter_cons, List.filter_append, Action.isTerminal, h]

/-- A restriction is among the steps. -/
def restricts (c : Conclusion) : Bool := c.sideActions.any SideAction.isRestrict

/-- An advisory is among the steps. -/
def advises (c : Conclusion) : Bool := c.sideActions.any SideAction.isAdvise

def isEscalation (c : Conclusion) : Bool :=
  match c.routing with
  | .escalate _ => true
  | .silence _ => false

def isSilence (c : Conclusion) : Bool := !c.isEscalation

/-- The names of the steps, in order. -/
def shape (c : Conclusion) : List String := c.actions.map Action.label

def members (c : Conclusion) : List (String × Json) :=
  [("actions", .array (c.actions.map Action.toJson)), ("restriction_set", .bool c.restricts),
    ("advisory_sent", .bool c.advises)]

def toJson (c : Conclusion) : Json := .record c.members

/-- A conclusion that still lacks its terminal action. -/
structure Draft where
  note : String
  sideActions : List SideAction
deriving DecidableEq

namespace Draft

/-- A conclusion with the note that the lines so far make. -/
def ofNotes (notes : Notes) : Draft := ⟨notes.render, []⟩

/-- One more restriction. -/
def restrict (change : Restriction.Change) (d : Draft) : Draft :=
  { d with sideActions := d.sideActions ++ [.restrict change] }

/-- One more advisory. -/
def advise (draft : Advisory.Draft) (d : Draft) : Draft :=
  { d with sideActions := d.sideActions ++ [.advise draft] }

/-- Hand the incident to a person. -/
def escalate (reason : String) (d : Draft) : Conclusion :=
  ⟨d.note, d.sideActions, .escalate reason⟩

/-- Suppress the paging for the incident. -/
def silence (reason : String) (d : Draft) : Conclusion :=
  ⟨d.note, d.sideActions, .silence reason⟩

end Draft

end Conclusion

end OnCall
