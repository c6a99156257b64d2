import OnCall.Json.Record

/-!
# Support restrictions

A restriction tells the customer that the cluster has limited support, and why.

* `Restriction`: a restriction as it is kept; the id is given when it is posted.
* `Restriction.hasReasonOf`: the summary and the details are the same. It is an equivalence.
* `Restriction.Change`: a restriction that is to be set, with a short label for notes.
-/

namespace OnCall

/-- A support restriction on a cluster. -/
structure Restriction where
  id : Option String
  summary : String
  details : String
deriving DecidableEq

namespace Restriction

/-- The restriction for a reason, not posted yet. -/
def ofReason (summary details : String) : Restriction := ⟨none, summary, details⟩

/-- Two restrictions with the same summary and details are set for the same reason. -/
def hasReasonOf (a b : Restriction) : Bool :=
  a.summary = b.summary && a.details = b.details

theorem hasReasonOf_iff {a b : Restriction} :
    a.hasReasonOf b = true ↔ a.summary = b.summary ∧ a.details = b.details := by
  simp [hasReasonOf]

theorem hasReasonOf_symm {a b : Restriction} (h : a.hasReasonOf b = true) :
    b.hasReasonOf a = true :=
  have ⟨h₁, h₂⟩ := hasReasonOf_iff.mp h
  hasReasonOf_iff.mpr ⟨h₁.symm, h₂.symm⟩

theorem hasReasonOf_trans {a b c : Restriction} (h₁ : a.hasReasonOf b = true)
    (h₂ : b.hasReasonOf c = true) : a.hasReasonOf c = true :=
  have ⟨s₁, d₁⟩ := hasReasonOf_iff.mp h₁
  have ⟨s₂, d₂⟩ := hasReasonOf_iff.mp h₂
  hasReasonOf_iff.mpr ⟨s₁.trans s₂, d₁.trans d₂⟩

def ofJson? (j : Json) : Option Restriction := do
  match ← Json.fields? ["id", "summary", "details"] j with
  | [id, summary, details] =>
    return {
      id := ← id.optional Json.string?
      summary := ← summary.required Json.string?
      details := ← details.required Json.string? }
  | _ => none

def toJson (r : Restriction) : Json :=
  .record [("id", .text? r.id), ("summary", .text r.summary), ("details", .text r.details)]

/-- A restriction that is to be set. -/
structure Change where
  summary : String
  details : String
  /-- A short label for notes and logs. -/
  label : String
deriving DecidableEq

namespace Change

/-- The restriction that is posted. -/
def restriction (c : Change) : Restriction := .ofReason c.summary c.details

def members (c : Change) : List (String × Json) :=
  [("summary", .text c.summary), ("details", .text c.details), ("context_label", .text c.label)]

end Change

end Restriction

end OnCall
