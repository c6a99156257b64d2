import OnCall.Collaboration
import OnCall.Web.Message

/-!
# The assisted analysis as a web service

* `AnalysisService.analyze`: one request, answered with a summary.
-/

namespace OnCall

/-- The analyst, reached over the web. -/
structure AnalysisService where
  address : String

namespace AnalysisService

def summary? (j : Json) : Option String := do
  match ← Json.fields? ["summary"] j with
  | [summary] => summary.required Json.string?
  | _ => none

/-- Ask for the summary of an alert. -/
def analyze (s : AnalysisService) (limit : Option Span) (q : AnalysisRequest) : WebWork String := do
  let reply ← WebWork.send {
    method := .post
    address := s.address
    query := []
    headers := []
    body := some q.toJson
    limit := limit }
  WebWork.settle (reply.read .bare "analysis" summary?)

end AnalysisService

end OnCall
