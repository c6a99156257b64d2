import OnCall.Service.Deployments
import OnCall.Tool.Command
import OnCall.Web.Message

/-!
# What a command asks of the machine it runs on

* `MachineAsk`: read a text, show a line, send a request, start a tool, wait, or look at the clock.
* `machine`: the interface of these requests; `Command` programs are written over it.
* `OnMachine.web`, `OnMachine.tools`: programs of requests and of tools, carried out on the machine.
-/

namespace OnCall

/-- A request of a command. -/
inductive MachineAsk where
  /-- The standard input. -/
  | input
  /-- The text of a file. -/
  | file (path : String)
  /-- Show a line on the standard output. -/
  | print (line : String)
  /-- Connect to the service that holds the deployment records. -/
  | connect
  | send (q : WebRequest)
  | start (q : ToolStart)
  | pause (span : Span)
  | now

/-- What a request is answered with; an error is the report of what went wrong. -/
def MachineAsk.Reply : MachineAsk → Type
  | input => Except String String
  | file _ => Except String String
  | print _ => Unit
  | connect => Except String DeploymentService
  | send _ => WebReply
  | start _ => ToolEnding
  | pause _ => Unit
  | now => Instant

/-- The requests of a command and their replies. -/
def machine : Interface := ⟨MachineAsk, MachineAsk.Reply⟩

/-- A program that runs on the machine. -/
abbrev OnMachine (α : Type) := Program machine α

namespace OnMachine

/-- Make one request. -/
def ask (q : MachineAsk) : OnMachine q.Reply := Program.request (I := machine) q

/-- Carry out a program of web requests. -/
def web {α : Type} (x : WebWork α) : OnMachine (Except Failure α) :=
  x.run.interpret fun q => ask (.send q)

/-- Carry out a program of tools. -/
def tools {α : Type} (x : ToolWork α) : OnMachine (Except Failure α) :=
  x.run.interpret fun q => ask (.start q)

end OnMachine

end OnCall
