import OnCall.Retry

/-!
# Settings

* `Settings`: what can be set for investigations and for the handling of alerts;
  `Settings.standard` are the values that hold if nothing is set.
-/

namespace OnCall

/-- What can be set. -/
structure Settings where
  /-- Investigations that are not ready for production may be used. -/
  experimental : Bool
  /-- For whole investigations and for changes of restrictions. -/
  retry : RetryPolicy
  /-- The longest wait for an assisted analysis. -/
  analysisTimeout : Span
  /-- The longest run of an external tool. -/
  commandTimeout : Span
  /-- How far back to look for stop and terminate events. -/
  auditLookback : Span
  /-- The greatest number of audit events per instance. -/
  auditMaxResults : Nat
  /-- A resume from hibernation within this window is recent. -/
  recentResumeWindow : Span
  /-- The window of history that decides whether a restriction is flapping. -/
  flappingWindow : Span
  /-- So many changes within the window are flapping. -/
  flappingThreshold : Nat
  /-- The accounts that the automation changes restrictions as. -/
  serviceAccounts : List String
  /-- Blocked egress to this host blocks the monitoring of the cluster. -/
  monitorHost : String
deriving DecidableEq

namespace Settings

def standard : Settings where
  experimental := false
  retry := .standard
  analysisTimeout := .ofSeconds 300
  commandTimeout := .ofSeconds 300
  auditLookback := .ofSeconds (15 * 60)
  auditMaxResults := 50
  recentResumeWindow := .ofSeconds (2 * 60 * 60)
  flappingWindow := .ofSeconds (24 * 60 * 60)
  flappingThreshold := 2
  serviceAccounts := ["service-account-cluster-triage"]
  monitorHost := "nosnch.in"

/-- Whether a user is one of the automation's own accounts. -/
def ownsAccount (s : Settings) (username : String) : Bool :=
  s.serviceAccounts.any (· = username)

end Settings

end OnCall
