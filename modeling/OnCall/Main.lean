import OnCall.CommandLine.Run
import Std.Time.DateTime.Timestamp

/-!
# The program

Reads the command line, carries out the command, and ends with an exit code: 0 if it went well, 1
if it failed, 2 if the command line cannot be understood.

The program itself has no way to the network and starts no tools: requests go unanswered and tools
are not started. What a command does with their replies is in `CommandLine`.
-/

namespace OnCall.Main

open CommandLine

/-- What is shown for help. -/
def usage : String :=
  "Usage: triage [OPTIONS] <COMMAND>\n\nCommands:\n  run             Handle one alert from a webhook payload\n  investigations  List registered investigations in dispatch order"

/-- The variables that options are read from. -/
def readVariables : IO Variables := do
  let names := (Options.common ++ Options.forRun).filterMap OptionRule.variableName
  names.filterMapM fun name => return (← IO.getEnv name).map fun value => (name, value)

/-- A text, or the report of why it cannot be read. -/
def attempt (x : IO String) : IO (Except String String) :=
  tryCatch (Except.ok <$> x) fun e => return .error (toString e)

/-- Meet a request of a command. -/
def meet : (q : MachineAsk) → IO q.Reply
  | .input => attempt do (← IO.getStdin).readToEnd
  | .file path => attempt (IO.FS.readFile path)
  | .print line => IO.println line
  | .connect => return .error "no cluster can be reached"
  | .send _ => return .unanswered "error sending request"
  | .start _ => return .notStarted "no tool can be started"
  | .pause span => IO.sleep (min (span.nanos / 1_000_000) (UInt32.size - 1)).toUInt32
  | .now => do
    let nanos := (← Std.Time.Timestamp.now).toNanosecondsSinceUnixEpoch.val
    return (Instant.of? (nanos / 1_000_000_000) (nanos % 1_000_000_000).toNat).getD .epoch

/-- Carry out a command and show why it failed, if it did. -/
def perform (command : Command) : IO UInt32 := do
  match ← command.perform.run.interpret (I := machine) (m := IO) meet with
  | .ok () => return 0
  | .error f =>
    IO.eprintln ("Error: " ++ f.message)
    if f.texts.length > 1 then
      IO.eprintln "\nCaused by:"
      f.texts.tail.forM fun text => IO.eprintln ("    " ++ text)
    return 1

end OnCall.Main

open OnCall in
/-- The exit code for the words of a command line. -/
def main (words : List String) : IO UInt32 := do
  match CommandLine.Command.parse (← Main.readVariables) words with
  | .ok command => Main.perform command
  | .error .help => do
    IO.println Main.usage
    return 0
  | .error .version => do
    IO.println CommandLine.version
    return 0
  | .error (.misuse complaint) => do
    IO.eprintln ("error: " ++ complaint ++ "\n\n" ++ Main.usage)
    return 2
