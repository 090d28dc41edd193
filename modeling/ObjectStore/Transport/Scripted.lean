import ObjectStore.Client.Exchange
import ObjectStore.Json.Printer
import ObjectStore.Json.Tree
import ObjectStore.Resource.Json

/-!
Transports that answer from a script and remember what they were asked. The bodies of requests are
read to their end before anything is answered.
-/

namespace ObjectStore

inductive ScriptedOutcome where
  | answer (response : HttpResponse)
  | failure (error : TransportError)
  | silence
deriving DecidableEq, Repr

namespace ScriptedOutcome

def reply : ScriptedOutcome → Reply
  | .answer response => .answer (.ok response)
  | .failure error => .answer (.error error)
  | .silence => .silence

def ofText (status : Nat) (headers : List (String × String)) (body : String) : ScriptedOutcome :=
  .answer ⟨status,
    headers.foldl (fun headers entry => headers.insert entry.1 (Bytes.ofText entry.2)) Headers.empty,
    .ofBytes (Bytes.ofText body)⟩

def ofJson (status : Nat) (value : Json.Value) : ScriptedOutcome :=
  ofText status [] value.compact

def refusal (status : Nat) (message : String) : ScriptedOutcome :=
  ofJson status (ErrorEnvelope.toJson ⟨UInt16.ofNat status, message⟩)

end ScriptedOutcome

structure ReceivedRequest where
  method : Method
  url : Url
  headers : Headers
  body : Option Bytes
deriving DecidableEq, Repr

namespace ReceivedRequest

def headerText? (request : ReceivedRequest) (name : String) : Option String :=
  request.headers.getText? name

def json? (request : ReceivedRequest) : Option Json.Value :=
  request.body.bind fun bytes => (Json.parse bytes).toOption

end ReceivedRequest

structure Script where
  remaining : List ScriptedOutcome
  received : List ReceivedRequest
deriving DecidableEq, Repr

namespace Script

def start (outcomes : List ScriptedOutcome) : Script :=
  ⟨outcomes, []⟩

def noneLeft : String := "no scripted response left"

def receive (script : Script) (request : HttpRequest) (body : Option Bytes) : Script :=
  { script with
    received := script.received ++ [⟨request.method, request.url, request.headers, body⟩] }

/-- A request whose body fails is remembered and uses up no outcome. With no outcome left the request
fails. -/
def transport : Transport Script := fun request script =>
  match request.body.collect with
  | .error error => (.answer (.error error), script.receive request none)
  | .ok bytes =>
      let received := script.receive request (some bytes)
      match script.remaining with
      | [] => (.answer (.error (.ofMessage noneLeft)), received)
      | outcome :: rest => (outcome.reply, { received with remaining := rest })

/-- A stricter reading of a script: a request whose body fails is not remembered, and the transport
breaks when no outcome is left. -/
def strictTransport : Transport Script := fun request script =>
  match request.body.collect with
  | .error error => (.answer (.error error), script)
  | .ok bytes =>
      let received := script.receive request (some bytes)
      match script.remaining with
      | [] => (.fault noneLeft, received)
      | outcome :: rest => (outcome.reply, { received with remaining := rest })

end Script

end ObjectStore
