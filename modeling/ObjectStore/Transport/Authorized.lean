import ObjectStore.Client.Operation

/-!
A bearer token on every request, whatever carries the requests.
-/

namespace ObjectStore

structure Authorization where
  value : Bytes
deriving DecidableEq, Repr

namespace Authorization

def ofToken (token : String) : Except TransportError Authorization :=
  let value := Bytes.ofText ("Bearer " ++ token)
  if Headers.isValidValue value then .ok ⟨value⟩
  else .error (.ofMessage "access token is not a valid header value")

def authorize (authorization : Authorization) (request : HttpRequest) : HttpRequest :=
  request.withHeader "authorization" authorization.value

def transport {σ : Type} (authorization : Authorization) (inner : Transport σ) : Transport σ :=
  fun request state => inner (authorization.authorize request) state

end Authorization

end ObjectStore
