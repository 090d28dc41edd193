import ObjectStore.Http.Header
import ObjectStore.Http.Status
import ObjectStore.Url.Basic

/-!
Requests and responses. A body that comes in pieces may fail to be read at any of them.
-/

namespace ObjectStore

inductive Method where
  | get | post | put | patch | delete
  | other (token : String)
deriving DecidableEq, Repr

def Method.token : Method → String
  | .get => "GET"
  | .post => "POST"
  | .put => "PUT"
  | .patch => "PATCH"
  | .delete => "DELETE"
  | .other token => token

def Method.ofToken (token : String) : Method :=
  if token = "GET" then .get
  else if token = "POST" then .post
  else if token = "PUT" then .put
  else if token = "PATCH" then .patch
  else if token = "DELETE" then .delete
  else .other token

structure ReadFailure where
  message : String
  causes : List String
deriving DecidableEq, Repr

inductive Chunk where
  | bytes (bytes : Bytes)
  | failure (failure : ReadFailure)
deriving DecidableEq, Repr

abbrev Content := List Chunk

namespace Content

def ofBytes (bytes : Bytes) : Content :=
  [.bytes bytes]

def collect : Content → Except ReadFailure Bytes
  | [] => .ok []
  | .bytes bytes :: rest => (collect rest).map fun tail => bytes ++ tail
  | .failure failure :: _ => .error failure

def readAll : Content → Bytes × Option ReadFailure
  | [] => ([], none)
  | .bytes bytes :: rest =>
      let (tail, failure) := readAll rest
      (bytes ++ tail, failure)
  | .failure failure :: _ => ([], some failure)

def readUpTo : Nat → Content → Bytes × Option ReadFailure
  | 0, _ => ([], none)
  | _, [] => ([], none)
  | limit, .bytes bytes :: rest =>
      if limit ≤ bytes.length then (bytes.take limit, none)
      else
        let (tail, failure) := readUpTo (limit - bytes.length) rest
        (bytes ++ tail, failure)
  | _, .failure failure :: _ => ([], some failure)

theorem collect_eq_readAll (content : Content) :
    content.collect = match content.readAll with
      | (bytes, none) => .ok bytes
      | (_, some failure) => .error failure := by
  induction content with
  | nil => rfl
  | cons chunk rest ih =>
      cases chunk with
      | bytes bytes =>
          rw [collect, readAll, ih]
          rcases readAll rest with ⟨tail, _ | failure⟩ <;> rfl
      | failure failure => rfl

end Content

inductive Body where
  | empty
  | full (bytes : Bytes)
  | stream (content : Content)
deriving DecidableEq, Repr

def Body.content : Body → Content
  | .empty => []
  | .full bytes => .ofBytes bytes
  | .stream content => content

structure HttpRequest where
  method : Method
  url : Url
  headers : Headers
  body : Body
deriving DecidableEq, Repr

structure HttpResponse where
  status : Nat
  headers : Headers
  body : Content
deriving DecidableEq, Repr

/-- No response came, or the transport took one for a failure and tells its status. -/
structure TransportError where
  message : String
  status : Option Nat
  causes : List String
deriving DecidableEq, Repr

def TransportError.ofMessage (message : String) : TransportError :=
  ⟨message, none, []⟩

def ReadFailure.toTransportError (failure : ReadFailure) : TransportError :=
  ⟨"body: " ++ failure.message, none, failure.message :: failure.causes⟩

def Body.collect (body : Body) : Except TransportError Bytes :=
  body.content.collect.mapError ReadFailure.toTransportError

def HttpResponse.collect (response : HttpResponse) : Except TransportError Bytes :=
  response.body.collect.mapError ReadFailure.toTransportError

/-! ### How messages are shown to a reader -/

def Body.description : Body → String
  | .empty => "Empty"
  | .full bytes => "Full(" ++ toString bytes.length ++ ")"
  | .stream _ => "Stream"

def Headers.description (headers : Headers) : String :=
  let entry (header : String × Bytes) : String :=
    Quoted.ofText header.1 ++ ": " ++ Quoted.ofBytes header.2
  "\x7b" ++ String.intercalate ", " (headers.entries.map entry) ++ "\x7d"

def HttpResponse.description (response : HttpResponse) : String :=
  "HttpResponse \x7b status: " ++ toString response.status ++ ", headers: " ++
    response.headers.description ++ ", .. \x7d"

end ObjectStore
