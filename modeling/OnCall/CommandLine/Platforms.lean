import OnCall.CommandLine.Terminal
import OnCall.Service.Analysis
import OnCall.Service.Management
import OnCall.Service.Paging
import OnCall.Tool.CloudCli
import OnCall.Tool.EgressProbe

/-!
# The platforms behind an investigation

What an investigation asks for is done by services and tools.

* `Platforms`: the services and the tools.
* `Platforms.meet`: how each request of an investigation is met.
* `Connections`: the cloud accounts that are open, and the counters.
-/

namespace OnCall

/-- The services and the tools that investigations work with. -/
structure Platforms where
  management : ManagementService
  paging : PagingService
  clouds : CloudCliFactory
  deployments : DeploymentService
  probe : EgressProbe
  analysis : Option AnalysisService

/-- What is kept between requests: a session is the place of its account in the list. -/
structure Connections where
  accounts : List CloudCli
  tally : Tally

/-- Nothing is open, and nothing is counted yet. -/
def Connections.none : Connections := ⟨[], .zero⟩

/-- A program on the machine that keeps connections. -/
abbrev Connected (α : Type) := StateT Connections (Program machine) α

namespace Platforms

/-- Do something on the machine. -/
def onMachine {α : Type} (x : OnMachine α) : Connected α := liftM (n := Connected) x

/-- Open the cloud account of a cluster. -/
def openCloud (p : Platforms) (cluster : Cluster) : Connected (Except Failure CloudClient) := do
  match ← onMachine (OnMachine.tools (p.clouds.client cluster)) with
  | .error f => return .error f
  | .ok cli =>
    let c ← get
    set { c with accounts := c.accounts ++ [cli] }
    return .ok ⟨c.accounts.length⟩

/-- Meet a call to a platform. -/
def meetCall (p : Platforms) : (call : Call) → Connected (Except Failure call.Answer)
  | .manager call => onMachine (OnMachine.web (p.management.perform call))
  | .pager call => onMachine (OnMachine.web (p.paging.perform call))
  | .cloud client call => do
    match (← get).accounts[client.session]? with
    | some cli => onMachine (OnMachine.tools (cli.perform call))
    | none => return .error (.root (.reported "the cloud account is not open"))
  | .openCloud cluster => p.openCloud cluster
  | .deployment clusterId => onMachine (OnMachine.web (p.deployments.deployment clusterId))
  | .verifyEgress target => onMachine (OnMachine.tools (p.probe.verify target))

/-- Ask for an assisted analysis and measure how long it takes. -/
def analyze (p : Platforms) (q : AnalysisRequest) (limit : Span) :
    Connected (Timed (Except Failure String)) := do
  let start ← onMachine (OnMachine.ask .now)
  let reply ← match p.analysis with
    | some service => onMachine (OnMachine.web (service.analyze (some limit) q))
    | none => pure (.error (.root (.reported "no analyst is set up")))
  let stop ← onMachine (OnMachine.ask .now)
  return ⟨.ofNanos (stop.since start).toNat, reply⟩

/-- Meet a request of an investigation. -/
def meet (p : Platforms) : (q : Ask) → Connected q.Reply
  | .call call => p.meetCall call
  | .analyze q limit => p.analyze q limit
  | .pause span => onMachine (OnMachine.ask (.pause span))
  | .now => onMachine (OnMachine.ask .now)
  | .count counter => modify fun c => { c with tally := c.tally.bump counter }

/-- Carry out the program of an investigation; the counters are returned with its value. -/
def carryOut {α : Type} (p : Platforms) (x : Work α) : OnMachine (α × Tally) := do
  let (a, c) ← (x.interpret (I := collaboration) p.meet).run .none
  return (a, c.tally)

end Platforms

end OnCall
