import OnCall.CommandLine.Options
import OnCall.Service.Management
import OnCall.Settings
import OnCall.Text.Digits

/-!
# Commands

* `Command`: what the program is asked to do: handle one alert, or list the investigations.
* `Command.parse`: the command of a list of words.

Options for every command may stand before and after its name. Where both are given, the one after
the name holds.
-/

namespace OnCall.CommandLine

/-! ## 1. Numbers -/

/-- A whole number, perhaps with a sign. -/
def number? (s : String) : Option Int :=
  let digits (cs : List Char) : Option Nat :=
    if cs.isEmpty || !cs.all Char.isDigit then none else some (Text.valueOf cs)
  match s.toList with
  | '+' :: cs => (digits cs).map fun n => n
  | '-' :: cs => (digits cs).map fun n => -n
  | cs => (digits cs).map fun n => n

/-- A number of attempts: at least one, and less than 2^32. -/
def attempts? (s : String) : Option Nat :=
  (number? s).bind fun n => if 1 ≤ n ∧ n < UInt32.size then some n.toNat else none

/-- A number of seconds: less than 2^64, and without a minus. -/
def seconds? (s : String) : Option Nat :=
  if s.toList.head? = some '-' then none
  else (number? s).bind fun n => if n < UInt64.size then some n.toNat else none

/-! ## 2. Options -/

/-- Any value. -/
def anything (_ : String) : Bool := true

/-- Any value but an empty one. -/
def nonEmpty (s : String) : Bool := !s.isEmpty

namespace Options

def experimental : OptionRule :=
  (OptionRule.switch "experimental").withVariable "TRIAGE_EXPERIMENTAL_ENABLED"

def retryAttempts : OptionRule :=
  ((OptionRule.valued "retry-attempts" fun s => (attempts? s).isSome).withVariable
    "TRIAGE_RETRY_ATTEMPTS").withStandard "3"

def analysisTimeout : OptionRule :=
  ((OptionRule.valued "analysis-timeout" fun s => (seconds? s).isSome).withVariable
    "TRIAGE_ANALYSIS_TIMEOUT").withStandard "300"

def commandTimeout : OptionRule :=
  ((OptionRule.valued "command-timeout" fun s => (seconds? s).isSome).withVariable
    "TRIAGE_COMMAND_TIMEOUT").withStandard "300"

/-- The options of every command. No log is written, so two of them change nothing. -/
def common : List OptionRule :=
  [(OptionRule.switch "verbose").withLetter 'v',
    (OptionRule.valued "log-format" fun s => s = "text" || s = "json").withStandard "text",
    experimental, retryAttempts, analysisTimeout, commandTimeout]

def payload : OptionRule := (OptionRule.valued "payload" nonEmpty).withStandard "-"

def managementAddress : OptionRule :=
  ((OptionRule.valued "ocm-url" anything).withVariable "OCM_URL").withStandard
    ManagementService.standardAddress

def managementToken : OptionRule :=
  ((OptionRule.valued "ocm-token" anything).withVariable "OCM_TOKEN").required

def pagingToken : OptionRule :=
  ((OptionRule.valued "pagerduty-token" anything).withVariable "PAGERDUTY_TOKEN").required

def pagingSender : OptionRule :=
  ((OptionRule.valued "pagerduty-from" anything).withVariable "PAGERDUTY_FROM").required

def escalationPolicy : OptionRule :=
  ((OptionRule.valued "pagerduty-escalation-policy" anything).withVariable
    "PAGERDUTY_ESCALATION_POLICY").required

def silentPolicy : OptionRule :=
  ((OptionRule.valued "pagerduty-silent-policy" anything).withVariable
    "PAGERDUTY_SILENT_POLICY").required

def cloudProfile : OptionRule :=
  (OptionRule.valued "aws-profile" anything).withVariable "AWS_PROFILE"

def cloudProgram : OptionRule :=
  ((OptionRule.valued "aws-cli-bin" nonEmpty).withVariable "AWS_CLI_BIN").withStandard "aws"

def probeProgram : OptionRule :=
  ((OptionRule.valued "network-verifier-bin" nonEmpty).withVariable
    "NETWORK_VERIFIER_BIN").withStandard "osd-network-verifier"

def analysisAddress : OptionRule :=
  (OptionRule.valued "analysis-url" anything).withVariable "ANALYSIS_URL"

def json : OptionRule := .switch "json"

/-- The options of the command that handles an alert. -/
def forRun : List OptionRule :=
  [payload, managementAddress, managementToken, pagingToken, pagingSender, escalationPolicy,
    silentPolicy, cloudProfile, cloudProgram, probeProgram, analysisAddress, json]

end Options

/-! ## 3. Commands -/

/-- How an alert is to be handled. -/
structure RunOptions where
  /-- The file that holds the alert; a dash stands for the standard input. -/
  payload : String
  managementAddress : String
  managementToken : String
  pagingToken : String
  pagingSender : String
  escalationPolicy : String
  silentPolicy : String
  cloudProfile : Option String
  cloudProgram : String
  probeProgram : String
  analysisAddress : Option String
  /-- The outcome is shown as JSON. -/
  json : Bool
  settings : Settings

/-- What the program is asked to do. -/
inductive Command where
  | run (options : RunOptions)
  | investigations

/-- The settings that the options of every command make. -/
def settingsOf (vars : Variables) (given : Given) : Settings :=
  let value (r : OptionRule) := (r.value vars given).getD ""
  let s := Settings.standard
  { s with
    experimental := value Options.experimental = "true"
    retry := { s.retry with maxAttempts := (attempts? (value Options.retryAttempts)).getD 0 }
    analysisTimeout := .ofSeconds ((seconds? (value Options.analysisTimeout)).getD 0)
    commandTimeout := .ofSeconds ((seconds? (value Options.commandTimeout)).getD 0) }

/-- The options of the command that handles an alert. -/
def runOptionsOf (vars : Variables) (given : Given) : RunOptions :=
  let value (r : OptionRule) := (r.value vars given).getD ""
  { payload := value Options.payload
    managementAddress := value Options.managementAddress
    managementToken := value Options.managementToken
    pagingToken := value Options.pagingToken
    pagingSender := value Options.pagingSender
    escalationPolicy := value Options.escalationPolicy
    silentPolicy := value Options.silentPolicy
    cloudProfile := Options.cloudProfile.value vars given
    cloudProgram := value Options.cloudProgram
    probeProgram := value Options.probeProgram
    analysisAddress := Options.analysisAddress.value vars given
    json := value Options.json = "true"
    settings := settingsOf vars given }

namespace Command

/-- The names of the commands. -/
def names : List String := ["run", "investigations", "help"]

/-- Read the options after the name of a command; no plain word may follow. -/
def scanRest (rules : List OptionRule) (vars : Variables) (words : List String) :
    Except Stop Given := do
  match ← scan rules false none [] words with
  | (given, []) =>
    check rules vars given
    return given
  | (_, word :: _) => throw (.misuse ("unexpected argument '" ++ word ++ "'"))

/-- What help about some words comes to: only a command has any, and none of its parts. -/
def helpAbout : List String → Stop
  | [] => .help
  | [name] => if names.contains name then .help else .misuse ("unknown command '" ++ name ++ "'")
  | _ => .misuse "unknown command"

/-- The command of a list of words. -/
def parse (vars : Variables) (words : List String) : Except Stop Command := do
  match ← scan Options.common true none [] words with
  | (_, []) => throw (.misuse "a command is needed")
  | (before, name :: words) =>
    let command (rules : List OptionRule) : Except Stop Given := do
      let after ← scanRest rules vars words
      check Options.common vars before
      return after ++ before
    match name with
    | "run" =>
      return .run (runOptionsOf vars (← command (Options.common ++ Options.forRun)))
    | "investigations" =>
      let _ ← command Options.common
      return .investigations
    | "help" => throw (helpAbout words)
    | name => throw (.misuse ("unknown command '" ++ name ++ "'"))

end Command

end OnCall.CommandLine
