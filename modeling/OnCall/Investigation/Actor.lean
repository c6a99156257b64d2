import OnCall.Cloud.Records
import OnCall.Failure.Basic
import OnCall.Text.Occurs

/-!
# Who stopped the machines

* `Actor.ofEvent`: who issued an audit event. The payload must be JSON of a known shape, of version
  1.8 or a later 1.x; everything else is a finding.
* `Permissions`: the actors that may stop machines, as parts of names.
* `judge`: the actor that stands for a list of events: the first one who may not, else the last.
-/

namespace OnCall

/-- The identity behind a call. -/
structure Actor where
  username : String
  /-- The name of the role that the actor took on, if any. -/
  issuerUsername : String
  /-- The type of the identity. -/
  identityType : String
deriving DecidableEq

namespace Actor

/-! ## 1. Versions -/

/-- A decimal number of 32 bits; a plus and zeros may stand in front. -/
def word32? (cs : List Char) : Option Nat :=
  let ds := match cs with
    | '+' :: rest => rest
    | rest => rest
  if ds.isEmpty || !ds.all Char.isDigit then none
  else
    let n := Text.valueOf ds
    if n < UInt32.size then some n else none

/-- The parts of a version before and after its first point. -/
def splitVersion (version : List Char) : Option (List Char × List Char) :=
  match version.dropWhile (· ≠ '.') with
  | '.' :: minor => some (version.takeWhile (· ≠ '.'), minor)
  | _ => none

/-- The major and the minor number of a version. -/
def version? (version : String) : Option (Nat × Nat) := do
  let (major, minor) ← splitVersion version.toList
  return (← word32? major, ← word32? minor)

/-- A version must be 1.8 or a later 1.x: older events name the issuer otherwise. -/
def checkVersion (version : String) : Except Failure Unit :=
  match version? version with
  | none => .error (.root (.malformedVersion version))
  | some (major, minor) =>
    if major = 1 ∧ 8 ≤ minor then .ok () else .error (.root (.unsupportedVersion version))

/-! ## 2. Payloads -/

/-- What a payload says about the identity behind an event. -/
structure Identity where
  identityType : String
  userName : Option String
  issuerName : Option String
deriving DecidableEq

/-- An identity that a payload says nothing about. -/
def Identity.unnamed : Identity := ⟨"", none, none⟩

/-- The issuer of a session: its user name. -/
def issuer? (j : Json) : Option (Option String) := do
  match ← Json.fields? ["userName"] j with
  | [userName] => userName.optional Json.string?
  | _ => none

/-- The issuer named in a session context, if one is. -/
def sessionIssuer? (j : Json) : Option (Option String) := do
  match ← Json.fields? ["sessionIssuer"] j with
  | [issuer] => return (← issuer.optional issuer?).join
  | _ => none

/-- The identity of an event. -/
def Identity.ofJson? (j : Json) : Option Identity := do
  match ← Json.fields? ["type", "userName", "sessionContext"] j with
  | [identityType, userName, context] =>
    return {
      identityType := ← identityType.defaulted "" Json.string?
      userName := ← userName.optional Json.string?
      issuerName := (← context.optional sessionIssuer?).join }
  | _ => none

/-- The version and the identity of a payload. -/
def payload? (j : Json) : Option (String × Identity) := do
  match ← Json.fields? ["eventVersion", "userIdentity"] j with
  | [version, identity] =>
    return (← version.required Json.string?, ← identity.defaulted .unnamed Identity.ofJson?)
  | _ => none

/-- Who issued an event. The name outside of the payload comes first, then the name inside. -/
def ofEvent (e : AuditEvent) : Except Failure Actor :=
  match Json.decode? payload? e.payload with
  | none =>
    .error (Failure.asFinding ("could not parse audit event " ++ e.eventId)
      (.root (.malformedJson Json.unreadableReport)))
  | some (version, identity) =>
    match checkVersion version with
    | .error f => .error (f.asFinding ("cannot decode audit event " ++ e.eventId))
    | .ok _ => .ok {
        username := (e.username.or identity.userName).getD ""
        issuerUsername := identity.issuerName.getD ""
        identityType := identity.identityType }

end Actor

/-! ## 3. Permission -/

/-- Parts of the names of actors that may stop machines. -/
structure Permissions where
  users : List String
  roles : List String
  /-- Roles that are accepted only where the cloud account is not the customer's. -/
  nonCcsRoles : List String
deriving DecidableEq

namespace Permissions

def standard : Permissions where
  users := ["openshift-machine-api-aws", "osdCcsAdmin", "osdManagedAdmin", "RH-SRE-"]
  roles := ["openshift-machine-api-aws", "-Installer-Role", "-Support-Role",
    "ManagedOpenShift-Support-"]
  nonCcsRoles := ["OrganizationAccountAccessRole"]

/-- The parts of names that count for a cluster. -/
def patterns (allow : Permissions) (ccs : Bool) : List String :=
  allow.users ++ allow.roles ++ (if ccs then [] else allow.nonCcsRoles)

/-- Whether a user or the issuer of its session may stop machines: an allowed part stands in one of
the two names. -/
def permits (allow : Permissions) (username issuerUsername : String) (ccs : Bool) : Bool :=
  (allow.patterns ccs).any fun p => Text.occursIn p username || Text.occursIn p issuerUsername

end Permissions

/-- The actor that stands for some events, and whether the actor was allowed to. -/
structure Judgement where
  actor : Actor
  authorized : Bool
deriving DecidableEq

namespace Judgement

/-- Judge the events in order, with the judgement of the events before them. -/
def continued (allow : Permissions) (ccs : Bool) :
    Option Judgement → List AuditEvent → Except Failure Judgement
  | some judgement, [] => .ok judgement
  | none, [] =>
    .error (Failure.asFinding
      "events may be too old or the audit trail has not caught up yet" (.root .noStopEvents))
  | _, e :: es =>
    match Actor.ofEvent e with
    | .error f => .error f
    | .ok actor =>
      if allow.permits actor.username actor.issuerUsername ccs
      then continued allow ccs (some ⟨actor, true⟩) es
      else .ok ⟨actor, false⟩

/-- The first actor who was not allowed to; if all were, the last one. -/
def ofEvents (allow : Permissions) (ccs : Bool) (events : List AuditEvent) :
    Except Failure Judgement :=
  continued allow ccs none events

end Judgement

end OnCall
