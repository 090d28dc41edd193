import ObjectStore.Base64
import ObjectStore.Client.Exchange
import ObjectStore.Percent

/-!
What a connection does to the messages that cross it. The server at the other end is a transport of its
own: it sees requests as they arrive, and the caller sees its responses as they are delivered.
-/

namespace ObjectStore.Network

def isReachable (url : Url) : Bool :=
  url.scheme = "http" || url.scheme = "https"

/-! ### Failures -/

def ofUrl (kind : String) (url : Url) (causes : List String) : TransportError :=
  let text := kind ++ " for url (" ++ url.text ++ ")"
  ⟨"failed to execute request: " ++ text, none, text :: causes⟩

def unreachable (url : Url) : TransportError :=
  ofUrl "builder error" url ["URL scheme is not allowed"]

def interrupted (url : Url) (causes : List String) : TransportError :=
  ofUrl "error sending request" url ("client error (SendRequest)" :: causes)

def unfinishedBody (failure : ReadFailure) : List String :=
  "error from user's Body stream" :: failure.message :: failure.causes

def closed : List String := ["connection closed before message completed"]

def lostBody : ReadFailure :=
  ⟨"error decoding response body",
    ["error reading a body from connection", "end of file before message length reached"]⟩

/-! ### Requests -/

def credentials? (url : Url) : Option (Bytes × Option Bytes) :=
  let readable (text : String) : Option Bytes :=
    let bytes := Percent.decodeLenient (Bytes.ofText text)
    if (Bytes.toText? bytes).isSome then some bytes else none
  (readable url.username).bind fun username =>
    let password := url.password.bind readable
    if username.isEmpty && password.isNone then none else some (username, password)

def basicAuthorization (username : Bytes) (password : Option Bytes) : Bytes :=
  Bytes.ofText ("Basic " ++ Base64.encode (username ++ 0x3A :: password.getD []))

/-- Credentials travel in a header and not in the URL; a header that is there already wins. -/
def withoutCredentials (request : HttpRequest) : HttpRequest :=
  match credentials? request.url with
  | none => request
  | some (username, password) =>
      let url := { request.url with username := "", password := none }
      let headers :=
        if (request.headers.get? "authorization").isSome then request.headers
        else request.headers.insert "authorization" (basicAuthorization username password)
      { request with url, headers }

def isBlank (byte : UInt8) : Bool :=
  byte == 0x20 || byte == 0x09

def trim (value : Bytes) : Bytes :=
  ((value.dropWhile isBlank).reverse.dropWhile isBlank).reverse

def trimHeaders (headers : Headers) : Headers :=
  ⟨headers.entries.map fun entry => (entry.1, trim entry.2)⟩

def arriving (request : HttpRequest) (body : Bytes) : HttpRequest :=
  { request with
    url := { request.url with fragment := none }
    headers := trimHeaders request.headers
    body := .full body }

/-! ### Responses -/

def carriesBody (method : Method) (status : Nat) : Bool :=
  method.token != "HEAD" && 200 ≤ status && status != 204 && status != 304

/-- A body that the server cannot finish is lost from its first byte on. -/
def delivered (method : Method) (response : HttpResponse) : HttpResponse :=
  { response with
    headers := trimHeaders response.headers
    body :=
      if carriesBody method response.status then
        match response.body.collect with
        | .ok bytes => .ofBytes bytes
        | .error _ => [.failure lostBody]
      else [] }

/-- The server hears of a request when the whole of it has arrived. Where it fails to answer, the
connection is closed. -/
def connect {σ : Type} (server : Transport σ) : Transport σ := fun request state =>
  let request := withoutCredentials request
  if !isReachable request.url then (.answer (.error (unreachable request.url)), state)
  else match request.body.content.collect with
    | .error failure => (.answer (.error (interrupted request.url (unfinishedBody failure))), state)
    | .ok body =>
        match server (arriving request body) state with
        | (.answer (.ok response), after) => (.answer (.ok (delivered request.method response)), after)
        | (.answer (.error _), after) => (.answer (.error (interrupted request.url closed)), after)
        | (reply, after) => (reply, after)

end ObjectStore.Network
