import OnCall.Alert
import OnCall.CommandLine.Command
import OnCall.CommandLine.Platforms
import OnCall.Handling
import OnCall.Json.Pretty

/-!
# Running a command

* `Command.perform`: a command as a program on the machine. It ends well or with a failure.
* `Outcome.lines`, `Outcome.report`: the outcome of an alert, as lines or as JSON.
* `version`: what is shown for the version.
-/

namespace OnCall

/-! ## 1. Outcomes -/

/-- The words for how the handling of an alert ended. -/
def OutcomeStatus.words : OutcomeStatus → String
  | concluded => "concluded"
  | unmatched => "unmatched"
  | investigationFailed => "investigation failed"
  | executionFailed => "execution failed"

/-- The name of the status where it is reported as a failure. -/
def OutcomeStatus.title : OutcomeStatus → String
  | concluded => "Concluded"
  | unmatched => "Unmatched"
  | investigationFailed => "InvestigationFailed"
  | executionFailed => "ExecutionFailed"

/-- The lines that show a step of a conclusion. -/
def Action.lines : Action → List String
  | note text =>
    "  note" :: (Text.lines text.toList).map fun line => "    " ++ String.ofList line
  | side (.restrict change) => ["  restrict " ++ change.summary]
  | side (.advise draft) => ["  advise " ++ draft.summary]
  | terminal (.escalate reason) => ["  escalate " ++ reason]
  | terminal (.silence reason) => ["  silence " ++ reason]

namespace Outcome

/-- The outcome in lines. -/
def lines (o : Outcome) : List String :=
  (o.investigation ++ " " ++ o.status.words) :: o.conclusion.actions.flatMap Action.lines

/-- The outcome and the counters as JSON. -/
def report (o : Outcome) (tally : Tally) : String :=
  (Json.record [("outcome", o.toJson), ("metrics", tally.toJson)]).sorted.pretty

/-- An alert that was escalated because something failed is not handled well. -/
def judge (o : Outcome) : Except Failure Unit :=
  match o.status with
  | .concluded | .unmatched => .ok ()
  | status =>
    .error (.root (.reported
      ("alert was escalated after a failure (" ++ status.title ++ ")")))

end Outcome

namespace CommandLine

/-- What is shown for the version. -/
def version : String := "triage 0.2.85"

/-- The lines that show an investigation. -/
def investigationLines (i : Investigation) : List String :=
  [if i.isExperimental then i.name ++ " (experimental)" else i.name, "  " ++ i.description]

/-- A program on the machine that may fail. -/
abbrev Performing (α : Type) := ExceptT Failure (Program machine) α

/-- Do something on the machine. -/
def onMachine {α : Type} (x : OnMachine α) : Performing α := liftM (n := Performing) x

/-- Show a line. -/
def display (line : String) : Performing Unit := onMachine (OnMachine.ask (.print line))

/-- Go on with a reply, or fail with what went wrong. -/
def expect {α : Type} (text : String) : Except String α → Performing α
  | .ok a => pure a
  | .error report => throw (.context text (.root (.reported report)))

namespace RunOptions

/-- The text of the alert. -/
def readPayload (o : RunOptions) : Performing String := do
  if o.payload = "-" then
    expect "Failed to read payload from stdin" (← onMachine (OnMachine.ask .input))
  else
    expect ("Failed to read payload " ++ o.payload) (← onMachine (OnMachine.ask (.file o.payload)))

/-- The services and the tools that the options name. -/
def platforms (o : RunOptions) (deployments : DeploymentService) : Platforms where
  management := ⟨o.managementAddress, o.managementToken⟩
  paging := ⟨PagingService.standardAddress, o.pagingToken, o.pagingSender, o.escalationPolicy,
    o.silentPolicy⟩
  clouds := ⟨⟨o.cloudProgram, o.settings.commandTimeout⟩, o.cloudProfile⟩
  deployments := deployments
  probe := ⟨⟨o.probeProgram, o.settings.commandTimeout⟩, o.cloudProfile⟩
  analysis := o.analysisAddress.map fun address => ⟨address⟩

/-- Handle the alert of an event, and show the outcome. -/
def handle (o : RunOptions) (w : Webhook) (status : AlertStatus) : Performing Unit := do
  let deployments ← expect "Failed to connect to the Hive cluster"
    (← onMachine (OnMachine.ask .connect))
  let platforms := o.platforms deployments
  let clusterId ← ExceptT.adapt
    (Failure.context ("Failed to find the cluster of incident " ++ w.incidentId))
    (ExceptT.mk (OnMachine.web (platforms.paging.clusterOf w.incidentId)))
  let desk : Desk := .standard o.settings platforms.analysis.isSome
  let alert : Alert := ⟨w.incidentId, w.title, status, clusterId⟩
  let (result, tally) ← onMachine (platforms.carryOut (desk.handle alert).run)
  match result with
  | .error f => throw f
  | .ok outcome =>
    if o.json then display (outcome.report tally)
    else outcome.lines.forM display
    match outcome.judge with
    | .ok () => return
    | .error f => throw f

/-- Handle one event. Events that are about no alert are passed over. -/
def perform (o : RunOptions) : Performing Unit := do
  let text ← o.readPayload
  match Json.decode? Webhook.ofJson? text with
  | none =>
    throw (.context "Failed to parse webhook payload" (.root (.malformedJson Json.unreadableReport)))
  | some w =>
    match w.status? with
    | none => display ("Ignored: " ++ w.eventType)
    | some status => o.handle w status

end RunOptions

/-- Carry out a command. -/
def Command.perform : Command → Performing Unit
  | run options => options.perform
  | investigations =>
    (Roster.standard false).investigations.flatMap investigationLines |>.forM display

end CommandLine

end OnCall
