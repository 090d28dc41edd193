import ObjectStore.Client.Exchange
import ObjectStore.Client.Operation
import ObjectStore.Simulation.Clock
import ObjectStore.Simulation.Store

/-!
A service in memory that answers the requests of a bucket as the real one would: resumable uploads,
direct reads, resources and listings.
-/

namespace ObjectStore

inductive Route where
  | read (bucket object : String)
  | announce (bucket : String)
  | upload
  | list (bucket : String)
  | stat (bucket object : String)
  | patch (bucket object : String)
  | delete (bucket object : String)
  | unknownEndpoint
  | unsupported
deriving DecidableEq, Repr

namespace Route

def storageHost : String := "storage.fake.test"
def uploadHost : String := "upload.fake.test"
def apiHost : String := "api.fake.test"

def segmentsBehind (fixed : List String) (path : UrlPath) : Option (List String) :=
  match path with
  | .plain _ => none
  | .segments pieces =>
      if pieces.take fixed.length = fixed && fixed.length < pieces.length then
        (pieces.drop fixed.length).mapM fun piece => (Percent.decodeText? piece).bind Bytes.toText?
      else none

def ofRequest (method : Method) (url : Url) : Route :=
  let host := url.hostText
  if host = storageHost then
    match segmentsBehind [] url.path, method with
    | none, _ => .unknownEndpoint
    | some [bucket, object], .get => .read bucket object
    | some _, _ => .unsupported
  else if host = uploadHost then
    match segmentsBehind ["upload", "storage", "v1", "b"] url.path, method with
    | none, _ => .unknownEndpoint
    | some [bucket, "o"], .post => .announce bucket
    | some [_, "o"], .put => .upload
    | some _, _ => .unsupported
  else if host = apiHost then
    match segmentsBehind ["storage", "v1", "b"] url.path, method with
    | none, _ => .unknownEndpoint
    | some [bucket, "o"], .get => .list bucket
    | some [bucket, "o", object], .get => .stat bucket object
    | some [bucket, "o", object], .patch => .patch bucket object
    | some [bucket, "o", object], .delete => .delete bucket object
    | some _, _ => .unsupported
  else .unknownEndpoint

end Route

structure Parameters where
  pairs : List (String × String)
deriving DecidableEq, Repr

def Parameters.get? (parameters : Parameters) (name : String) : Option String :=
  parameters.pairs.reverse.lookup name

namespace HttpResponse

def ofBytes (status : Nat) (headers : Headers) (bytes : Bytes) : HttpResponse :=
  ⟨status, headers, .ofBytes bytes⟩

def ofJson (status : Nat) (value : Json.Value) : HttpResponse :=
  ofBytes status (Headers.empty.insert "content-type" jsonContentType) (Bytes.ofText value.compact)

def refusal (status : Nat) (message : String) : HttpResponse :=
  ofJson status (ErrorEnvelope.toJson ⟨UInt16.ofNat status, message⟩)

def noSuchObject (bucket object : String) : HttpResponse :=
  refusal Status.notFound ("No such object: " ++ bucket ++ "/" ++ object)

end HttpResponse

namespace Store

open HttpResponse (refusal noSuchObject)

def answerRead (store : Store) (bucket object : String) (parameters : Parameters) : HttpResponse :=
  match store.find? bucket object with
  | none => noSuchObject bucket object
  | some stored =>
      let isWanted := match parameters.get? "generation" with
        | none => true
        | some generation => Decimal.signed? 64 generation == some (stored.generation : Int)
      if isWanted then .ofBytes Status.ok .empty stored.contents else noSuchObject bucket object

def uploadLocation (bucket session : String) : String :=
  "https://" ++ Route.uploadHost ++ "/upload/storage/v1/b/" ++ Percent.encodeSegment bucket ++
    "/o?uploadType=resumable&upload_id=" ++ session

inductive AnnounceFault where
  | notResumable
  | json (text : String)
  | noName
  | badPrecondition
deriving DecidableEq, Repr

def AnnounceFault.message : AnnounceFault → String
  | .notResumable => "only resumable uploads are supported"
  | .json text => text
  | .noName => "Required: name"
  | .badPrecondition => "invalid ifGenerationMatch"

def readPrecondition (parameters : Parameters) : Except AnnounceFault (Option Int) :=
  match parameters.get? "ifGenerationMatch" with
  | none => .ok none
  | some text => match Decimal.signed? 64 text with
    | some generation => .ok (some generation)
    | none => .error .badPrecondition

def readAnnouncement (bucket : String) (parameters : Parameters) (headers : Headers) (body : Bytes) :
    Except AnnounceFault PendingUpload := do
  if parameters.get? "uploadType" ≠ some "resumable" then throw .notResumable
  let resource ← (Resource.parse body).mapError fun fault => .json (fault.message body)
  if resource.name = "" then throw .noName
  let contentType :=
    if resource.contentType = "" then (headers.getText? "x-upload-content-type").getD ""
    else resource.contentType
  let precondition ← readPrecondition parameters
  pure ⟨bucket, { resource with contentType }, precondition⟩

def answerAnnounce (store : Store) (bucket : String) (parameters : Parameters) (headers : Headers)
    (body : Bytes) : HttpResponse × Store :=
  match readAnnouncement bucket parameters headers body with
  | .error fault => (refusal Status.badRequest fault.message, store)
  | .ok upload =>
      let (session, announced) := store.announce upload
      let location := Bytes.ofText (uploadLocation bucket session)
      (.ofBytes Status.ok (Headers.empty.insert "location" location) [], announced)

def answerUpload (store : Store) (now : Timestamp) (parameters : Parameters) (headers : Headers)
    (contents : Bytes) : HttpResponse × Store :=
  match (parameters.get? "upload_id").bind store.takeUpload with
  | none => (refusal Status.notFound "no such upload session", store)
  | some (upload, closed) =>
      let name := upload.resource.name
      if PendingUpload.admits upload (closed.generationOf upload.bucket name) then
        let contentType := (headers.getText? "content-type").getD defaultContentType
        let (object, written) := closed.write upload contentType contents now
        (.ofJson Status.ok (object.toResource upload.bucket name).toJson, written)
      else (refusal Status.preconditionFailed "Precondition Failed", closed)

def answerStat (store : Store) (bucket object : String) : HttpResponse :=
  match store.find? bucket object with
  | some stored => .ofJson Status.ok (stored.toResource bucket object).toJson
  | none => noSuchObject bucket object

def answerPatch (store : Store) (now : Timestamp) (bucket object : String) (body : Bytes) :
    HttpResponse × Store :=
  match Json.parseObject body with
  | .error fault => (refusal Status.badRequest (fault.message body), store)
  | .ok changes =>
      match store.find? bucket object with
      | none => (noSuchObject bucket object, store)
      | some stored =>
          match patchObject stored changes now with
          | .error fault => (refusal Status.badRequest fault.message, store)
          | .ok patched =>
              (.ofJson Status.ok (patched.toResource bucket object).toJson,
                store.put bucket object patched)

def answerDelete (store : Store) (bucket object : String) : HttpResponse × Store :=
  match store.find? bucket object with
  | some _ => (.ofBytes Status.noContent .empty [], store.remove bucket object)
  | none => (noSuchObject bucket object, store)

def defaultPageSize : Nat := 1000

def pageOffset (parameters : Parameters) : Nat :=
  ((parameters.get? "pageToken").bind (Decimal.unsigned? 64)).getD 0

def pageSize (parameters : Parameters) : Nat :=
  (((parameters.get? "maxResults").bind (Decimal.unsigned? 64)).filter (0 < ·)).getD defaultPageSize

def answerList (store : Store) (bucket : String) (parameters : Parameters) : Option HttpResponse :=
  let stem := (parameters.get? "prefix").getD ""
  let delimiter := (parameters.get? "delimiter").getD ""
  let all := store.entries bucket stem delimiter
  (page bucket all (pageOffset parameters) (pageSize parameters)).map
    fun listing => .ofJson Status.ok listing.toJson

/-- The answer to a request whose body has arrived, or none when the end of a page is no position. -/
def answer (store : Store) (now : Timestamp) (request : HttpRequest) (body : Bytes) :
    Option HttpResponse × Store :=
  let url := request.url
  let parameters : Parameters := ⟨Form.pairs url⟩
  match Route.ofRequest request.method url with
  | .read bucket object => (store.answerRead bucket object parameters, store)
  | .announce bucket =>
      let (response, after) := store.answerAnnounce bucket parameters request.headers body
      (response, after)
  | .upload =>
      let (response, after) := store.answerUpload now parameters request.headers body
      (response, after)
  | .list bucket => (store.answerList bucket parameters, store)
  | .stat bucket object => (store.answerStat bucket object, store)
  | .patch bucket object =>
      let (response, after) := store.answerPatch now bucket object body
      (response, after)
  | .delete bucket object =>
      let (response, after) := store.answerDelete bucket object
      (response, after)
  | .unknownEndpoint => (refusal Status.notFound ("unknown endpoint: " ++ url.text), store)
  | .unsupported =>
      (refusal Status.methodNotAllowed
        ("unsupported request: " ++ request.method.token ++ " " ++ url.text), store)

end Store

structure Simulation where
  clock : Clock
  store : Store
deriving DecidableEq, Repr

namespace Simulation

def start (time : Timestamp) : Simulation :=
  ⟨⟨time⟩, .start⟩

def positionOverflow : String := "attempt to add with overflow"

/-- The whole body arrives before anything changes. -/
def transport : Transport Simulation := fun request simulation =>
  match request.body.collect with
  | .error error => (.answer (.error error), simulation)
  | .ok body =>
      match simulation.store.answer simulation.clock.now request body with
      | (some response, store) => (.answer (.ok response), { simulation with store })
      | (none, store) => (.fault positionOverflow, { simulation with store })

def bucketConfig (name : String) : BucketConfig :=
  { projectId := "fake-project", name
    storageHost := Route.storageHost
    uploadHost := Route.uploadHost
    apiBase := "https://api.fake.test/storage/v1/" }

end Simulation

end ObjectStore
