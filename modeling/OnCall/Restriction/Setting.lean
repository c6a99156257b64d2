import OnCall.Collaboration

/-!
# Setting a restriction

* `Restriction.ensure`: posts a restriction unless one is set for the same reason. It may be
  repeated: a second run finds what the first one posted.
-/

namespace OnCall.Restriction

/-- Post a restriction unless one with the same summary and details is listed. The answer is
whether it was posted. -/
def ensure (clusterId : String) (r : Restriction) : Fallible Bool := do
  let existing ← Work.listRestrictions clusterId
  if existing.any fun e => e.hasReasonOf r then return false
  Work.postRestriction clusterId r
  return true

end OnCall.Restriction
