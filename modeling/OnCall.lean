import OnCall.Main
import OnCall.Proofs.Contexts
import OnCall.Proofs.Requests
import OnCall.Proofs.Retries
import OnCall.Rehearsal.Outside
import OnCall.RoundTrip
import OnCall.Proofs.Attempts
import OnCall.Proofs.Metering
import OnCall.Proofs.Counters
import OnCall.Proofs.Refusals
import OnCall.Proofs.Executions
import OnCall.Proofs.Paging
import OnCall.Proofs.Holding
import OnCall.Proofs.Silences
import OnCall.Proofs.Surroundings
import OnCall.Proofs.Lifts
import OnCall.Proofs.Repetition
import OnCall.Proofs.RateLimit
import OnCall.Proofs.Outcomes
import OnCall.Proofs.Stores
import OnCall.Proofs.Records
import OnCall.Proofs.Standing
import OnCall.Proofs.Setting
import OnCall.Proofs.Reports
import OnCall.Proofs.Traces
import OnCall.Proofs.LostReplies
import OnCall.Proofs.Machine
import OnCall.Proofs.RepeatedDeletion
import OnCall.Proofs.FailedAttempts
import OnCall.Proofs.Liftings
import OnCall.Proofs.SafeDeletions
import OnCall.Proofs.Removals
import OnCall.Proofs.Denials
import OnCall.Proofs.Probing
import OnCall.Proofs.Degradation
import OnCall.Proofs.Delays
import OnCall.Proofs.RetryLoop
import OnCall.Proofs.Wrapping
import OnCall.Proofs.Findings
import OnCall.Proofs.Judgements
import OnCall.Proofs.Widening
import OnCall.Proofs.Filtering
import OnCall.Proofs.LiftOutcomes
import OnCall.Proofs.Hibernations
import OnCall.Proofs.ToolRuns
import OnCall.Proofs.MarkedLines
import OnCall.Proofs.EgressVerdicts
import OnCall.Proofs.MergedEvents
import OnCall.Proofs.StopEvents
import OnCall.Proofs.Shapes
import OnCall.Proofs.AuditPayloads
import OnCall.Proofs.LookBack
import OnCall.Proofs.Fetches
import OnCall.Proofs.Needs
import OnCall.Proofs.Revocation
import OnCall.Proofs.GivingUp
import OnCall.Proofs.Prefixes
import OnCall.Proofs.Installations
import OnCall.Proofs.RecordFormats
import OnCall.Proofs.ManagementRecords
import OnCall.Proofs.ExpectedNodes
