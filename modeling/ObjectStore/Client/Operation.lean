import ObjectStore.Client.Address
import ObjectStore.Client.Exchange
import ObjectStore.Client.Verdict

/-!
The operations on a bucket. Each is one request and its reply, but for creation: it announces the
object, and sends the contents to the place that the reply names. Nothing is sent twice.
-/

namespace ObjectStore

abbrev Operation (α : Type) := Exchange (Except Error α)

namespace Operation

variable {α : Type}

def sending (request : Except InvalidRequest HttpRequest)
    (next : Except TransportError HttpResponse → Operation α) : Operation α :=
  match request with
  | .error reason => .done (.error (.invalidRequest reason))
  | .ok request => .send request next

def accepted (reply : Except TransportError HttpResponse) : Except Error HttpResponse := do
  let response ← reply.mapError Error.transport
  response.check

end Operation

def HttpRequest.withHeader (request : HttpRequest) (name : String) (value : Bytes) : HttpRequest :=
  { request with headers := request.headers.insert name value }

def HttpRequest.withBody (request : HttpRequest) (body : Body) : HttpRequest :=
  { request with body }

def HttpResponse.bytes (response : HttpResponse) : Except Error Bytes :=
  response.collect.mapError Error.transport

def HttpResponse.object (bucket : String) (response : HttpResponse) : Except Error Object := do
  let bytes ← response.bytes
  let resource ← (Resource.parse bytes).mapError (Error.json bytes)
  (Object.ofResource bucket resource).mapError Error.decode

/-- One bad item refuses the page. An empty token is none. -/
def HttpResponse.page (bucket : String) (query : Query) (response : HttpResponse) : Except Error Page := do
  let bytes ← response.bytes
  let listing ← (ResourceList.parse bytes).mapError (Error.json bytes)
  let results ← ((listing.items.getD []).mapM (Object.ofResource bucket)).mapError Error.decode
  let token := listing.nextPageToken.filter (· ≠ "")
  pure ⟨results, listing.prefixes.getD [], token.map fun cursor => { query with cursor }⟩

/-! ### Bodies of updates -/

open Json (Value)

def FieldUpdate.entry (name : String) : FieldUpdate → List (String × Value)
  | .keep => []
  | .clear => [(name, .null)]
  | .set value => [(name, .string value)]

def metadataChange (changes : Dictionary (Option String)) : Value :=
  .object (changes.toList.map fun change =>
    (change.1, match change.2 with
      | some value => .string value
      | none => .null))

def UpdateRequest.patch (request : UpdateRequest) : Value :=
  .object (
    request.cacheControl.entry "cacheControl" ++
    request.contentEncoding.entry "contentEncoding" ++
    request.contentLanguage.entry "contentLanguage" ++
    request.contentType.entry "contentType" ++
    match request.metadata with
    | some changes => [("metadata", metadataChange changes)]
    | none => [])

/-! ### Operations -/

def defaultContentType : String := "application/octet-stream"

/-- The service refuses conditional uploads without a content type. -/
def Attributes.effectiveContentType (attributes : Attributes) : String :=
  if attributes.contentType = "" then defaultContentType else attributes.contentType

def jsonContentType : Bytes := Bytes.ofText "application/json"

namespace BucketConfig

def request (config : BucketConfig) (method : Method) (url : Url) : Except InvalidRequest HttpRequest :=
  let userAgent := Bytes.ofText config.userAgent
  if Headers.isValidValue userAgent then .ok ⟨method, url, Headers.empty.insert "user-agent" userAgent, .empty⟩
  else .error .userAgent

def statRequest (config : BucketConfig) (name : String) : Except InvalidRequest HttpRequest := do
  let url ← config.objectUrl name true
  config.request .get url

def deleteRequest (config : BucketConfig) (name : String) : Except InvalidRequest HttpRequest := do
  let url ← config.objectUrl name false
  config.request .delete url

def updateRequest (config : BucketConfig) (update : UpdateRequest) : Except InvalidRequest HttpRequest := do
  let url ← config.objectUrl update.name true
  let request ← config.request .patch url
  pure ((request.withHeader "content-type" jsonContentType).withBody
    (.full (Bytes.ofText update.patch.compact)))

def readRequest (config : BucketConfig) (read : ReadRequest) : Except InvalidRequest HttpRequest := do
  checkSegmentName read.name
  let url ← parseUrl (config.readAddress read)
  config.request .get url

def listRequest (config : BucketConfig) (query : Query) : Except InvalidRequest HttpRequest := do
  let url ← config.listUrl query
  config.request .get url

def announceRequest (config : BucketConfig) (create : CreateRequest) : Except InvalidRequest HttpRequest := do
  validateName create.attributes.name
  let contentType := Bytes.ofText create.attributes.effectiveContentType
  if !Headers.isValidValue contentType then throw (.contentType create.attributes.effectiveContentType)
  let url ← parseUrl (config.uploadAddress create.precondition)
  let request ← config.request .post url
  pure (((request.withHeader "content-type" jsonContentType).withHeader
    "x-upload-content-type" contentType).withBody (.full (create.attributes.serialize config.name)))

def uploadUrl (reply : Except TransportError HttpResponse) : Except Error Url := do
  let response ← Operation.accepted reply
  match (response.headers.getText? "location").filter (· ≠ "") with
  | none => throw (.protocol .missingLocation)
  | some location => (Url.parse location).mapError fun _ => .protocol (.invalidLocation location)

def uploadRequest (config : BucketConfig) (create : CreateRequest) (url : Url) : Except Error HttpRequest := do
  let request ← (config.request .put url).mapError Error.invalidRequest
  pure ((request.withHeader "content-type" (Bytes.ofText create.attributes.effectiveContentType)).withBody
    (.stream create.contents))

def stat (config : BucketConfig) (name : String) : Operation Object :=
  .sending (config.statRequest name) fun reply => .done do
    let response ← Operation.accepted reply
    response.object config.name

def update (config : BucketConfig) (update : UpdateRequest) : Operation Object :=
  .sending (config.updateRequest update) fun reply => .done do
    let response ← Operation.accepted reply
    response.object config.name

def delete (config : BucketConfig) (name : String) : Operation Unit :=
  .sending (config.deleteRequest name) fun reply => .done do
    let response ← reply.mapError TransportError.classify
    let _ ← response.check
    pure ()

def read (config : BucketConfig) (read : ReadRequest) : Operation Content :=
  .sending (config.readRequest read) fun reply => .done do
    let response ← Operation.accepted reply
    pure response.body

def list (config : BucketConfig) (query : Query) : Operation Page :=
  .sending (config.listRequest query) fun reply => .done do
    let response ← Operation.accepted reply
    response.page config.name query

def create (config : BucketConfig) (create : CreateRequest) : Operation Object :=
  .sending (config.announceRequest create) fun reply =>
    match uploadUrl reply >>= config.uploadRequest create with
    | .error error => .done (.error error)
    | .ok request => .send request fun reply => .done do
        let response ← Operation.accepted reply
        response.object config.name

/-- So many pages at most, each with the query that follows it, and the error that ended them. -/
def pages (config : BucketConfig) : Nat → Query → Exchange (List Page × Option Error)
  | 0, _ => .done ([], none)
  | count + 1, query => (config.list query).bind fun result =>
      match result with
      | .error error => .done ([], some error)
      | .ok page =>
          match page.next with
          | none => .done ([page], none)
          | some next => (pages config count next).map fun rest => (page :: rest.1, rest.2)

end BucketConfig

end ObjectStore
