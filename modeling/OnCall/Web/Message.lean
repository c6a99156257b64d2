import OnCall.Failure.Basic
import OnCall.Json.Record
import OnCall.Program

/-!
# Requests to web services

* `WebRequest`, `WebReply`: a request and its reply; `web` is the interface of requests.
* `WebReply.content`: the body of a reply that reports success.
* `WebReply.read`: that body read as JSON.

A request with a header that cannot be sent, a reply that did not come and a reply that cannot be
read are told as a fault of the service or as the bare report, as the caller wants it (`Telling`).
A reply that reports failure is always told as a fault of the service.
-/

namespace OnCall

/-- What is to be done with a resource. -/
inductive WebMethod where
  | get
  | post
  | put
  | delete
deriving DecidableEq

def WebMethod.name : WebMethod → String
  | get => "GET"
  | post => "POST"
  | put => "PUT"
  | delete => "DELETE"

/-- A request to a web service. -/
structure WebRequest where
  method : WebMethod
  address : String
  query : List (String × String)
  headers : List (String × String)
  body : Option Json
  /-- A request that has no reply by then is given up. -/
  limit : Option Span

namespace WebRequest

/-- Whether a text may stand in a header: without control characters, apart from tabs. -/
def isHeaderText (s : String) : Bool :=
  s.toList.all fun c => c = '\t' || (0x20 ≤ c.toNat && c.toNat ≠ 0x7f)

/-- Whether a request can be sent. -/
def isSendable (q : WebRequest) : Bool := q.headers.all fun header => isHeaderText header.2

end WebRequest

/-- The reply to a request, if one came. -/
inductive WebReply where
  /-- The request cannot be sent. -/
  | unsent
  | unanswered (report : String)
  | answered (status : Nat) (body : String)

/-- The requests to web services and their replies. -/
def web : Interface := ⟨WebRequest, fun _ => WebReply⟩

/-- A program that sends requests and may fail. -/
abbrev WebWork (α : Type) := ExceptT Failure (Program web) α

/-- How a reply that did not come, or that cannot be read, is told. -/
inductive Telling where
  | asFault
  | bare
deriving DecidableEq

namespace Telling

def cause : Telling → String → Cause
  | asFault, report => .api (.http report)
  | bare, report => .reported report

def unsent : Telling → Cause
  | asFault => .api .unsent
  | bare => .unsent

end Telling

namespace WebReply

/-- What is said of a body that cannot be read. -/
def unreadable : String := "error decoding response body"

/-- The body of a reply, if its status reports success. -/
def content (telling : Telling) (resource : String) : WebReply → Except Cause String
  | unsent => .error telling.unsent
  | unanswered report => .error (telling.cause report)
  | answered status body =>
    if 200 ≤ status ∧ status < 300 then .ok body
    else if status = 404 then .error (.api (.notFound resource))
    else .error (.api (.status status body))

/-- The body of a reply, read as JSON. -/
def read {α : Type} (telling : Telling) (resource : String) (value : Json → Option α)
    (reply : WebReply) : Except Cause α := do
  match Json.decode? value (← reply.content telling resource) with
  | some a => return a
  | none => .error (telling.cause unreadable)

end WebReply

namespace WebWork

/-- Send a request, if it can be sent. -/
def send (q : WebRequest) : WebWork WebReply :=
  if q.isSendable then (Program.request (I := web) q : Program web WebReply)
  else pure .unsent

/-- Go on with what a reply says, or fail with the cause it tells. -/
def settle {α : Type} : Except Cause α → WebWork α
  | .ok a => pure a
  | .error cause => throw (.root cause)

/-- The same program, with a text added to its failure. -/
def describe {α : Type} (text : String) (x : WebWork α) : WebWork α :=
  ExceptT.adapt (Failure.context text) x

end WebWork

end OnCall
