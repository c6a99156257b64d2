import OnCall.Investigation.Inquiry

/-!
# Assisted analysis

An alert without an investigation of its own may be put to an analyst, which answers with a
summary. `Assisted.run` notes the summary, or why there is none, and always escalates.
-/

namespace OnCall.Assisted

def name : String := "AssistedAnalysis"

/-- Ask the analyst and note the answer. An answer that took longer than the limit is not used. -/
def noteAnalysis (request : AnalysisRequest) (limit : Span) : Inquiry Unit := do
  let answer ← liftM (n := Inquiry) (Work.analyze request limit)
  if answer.elapsed ≤ limit then
    match answer.reply with
    | .ok summary => Inquiry.note .info ("AI-assisted analysis:\n" ++ summary)
    | .error failure => Inquiry.note .warning ("AI-assisted analysis failed: " ++ failure.full)
  else
    Inquiry.note .warning
      ("AI-assisted analysis timed out after " ++ toString limit.seconds ++ "s")

/-- Investigate an alert with the help of the analyst. -/
def run (ctx : Context) : Inquiry Conclusion := do
  if ctx.analyst then
    let organization ← Inquiry.attempt (Work.organization ctx.cluster)
    let request : AnalysisRequest := {
      clusterId := ctx.cluster.id
      externalId := ctx.cluster.externalId
      organizationId := organization.toOption
      alertTitle := ctx.alert.title
      notes := (← get).lines }
    noteAnalysis request ctx.settings.analysisTimeout
    return (← Inquiry.draft).escalate "AI-assisted analysis needs human review"
  else
    Inquiry.note .warning "AI-assisted analysis is not configured"
    return (← Inquiry.draft).escalate "no automated analysis available"

end OnCall.Assisted
