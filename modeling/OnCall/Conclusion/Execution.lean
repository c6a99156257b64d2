import OnCall.Conclusion.Basic
import OnCall.Restriction.Setting

/-!
# Carrying out a conclusion

* `Site`: the incident and the cluster that a conclusion is about.
* `Conclusion.execute`: applies the steps in order and stops at the first one that fails. Only the
  setting of a restriction is retried.
-/

namespace OnCall

/-- Where a conclusion is carried out. -/
structure Site where
  incidentId : String
  /-- Restrictions and advisories need it. -/
  cluster : Option Cluster
  retry : RetryPolicy
deriving DecidableEq

namespace Site

/-- The cluster, for a step that needs it. -/
def needCluster (site : Site) (label : String) : Fallible Cluster :=
  match site.cluster with
  | some cluster => return cluster
  | none => throw (.root (.noCluster label))

end Site

namespace Action

/-- Apply one step, and count it. -/
def apply (site : Site) : Action → Fallible Unit
  | note text => Work.addNote site.incidentId text
  | side (.restrict change) => do
    let cluster ← site.needCluster "restrict"
    if ← Work.retried site.retry (Restriction.ensure cluster.id change.restriction) then
      Work.count .restrictionsSet
  | side (.advise draft) => do
    let cluster ← site.needCluster "advise"
    Work.postAdvisory cluster draft.advisory
    Work.count .advisoriesSent
  | terminal (.escalate reason) => do
    Work.escalate site.incidentId reason
    Work.count .escalations
  | terminal (.silence reason) => do
    Work.silence site.incidentId reason
    Work.count .silences

/-- Apply steps in order, up to the first that fails. -/
def applyAll (site : Site) : List Action → Fallible Unit
  | [] => return
  | a :: as => do
    (a.apply site).describe ("failed to " ++ a.label)
    applyAll site as

end Action

/-- Carry out a conclusion. -/
def Conclusion.execute (site : Site) (c : Conclusion) : Fallible Unit :=
  Action.applyAll site c.actions

end OnCall
