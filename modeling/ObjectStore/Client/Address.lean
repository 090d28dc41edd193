import ObjectStore.Client.Config
import ObjectStore.Client.Request
import ObjectStore.Error
import ObjectStore.Percent
import ObjectStore.Url.Form
import ObjectStore.Url.Parser

/-!
Which names an object may have, and the URLs under which buckets, objects and uploads are found.
-/

namespace ObjectStore

/-- Dot segments vanish from URLs, escaped or not, so that such a name would reach another place. -/
def checkSegmentName (name : String) : Except InvalidRequest Unit :=
  if name = "" then .error .emptyName
  else if name = "." || name = ".." then .error (.dotName name)
  else .ok ()

def validateName (name : String) : Except InvalidRequest Unit := do
  checkSegmentName name
  if maxNameLength < name.utf8ByteSize then throw (.longName name.utf8ByteSize)
  if name.toList.any fun character => character = '\n' || character = '\r' then throw .lineBreakInName

def parseUrl (text : String) : Except InvalidRequest Url :=
  (Url.parse text).mapError (InvalidRequest.url text)

namespace BucketConfig

def bucketAddress (config : BucketConfig) : String :=
  config.apiBase ++ "b/" ++ Percent.expandVariable config.name ++ "/o"

def objectAddress (config : BucketConfig) (name : String) : String :=
  config.bucketAddress ++ "/" ++ Percent.expandVariable name

def objectUrl (config : BucketConfig) (name : String) (isFull : Bool) : Except InvalidRequest Url := do
  checkSegmentName name
  parseUrl (config.objectAddress name ++ if isFull then "?projection=full" else "")

def uploadAddress (config : BucketConfig) (precondition : Option Int64) : String :=
  "https://" ++ config.uploadHost ++ "/upload/storage/v1/b/" ++ Percent.encodeSegment config.name ++
    "/o?uploadType=resumable&projection=full" ++
    match precondition with
    | some generation => "&ifGenerationMatch=" ++ toString generation.toInt
    | none => ""

def readAddress (config : BucketConfig) (request : ReadRequest) : String :=
  "https://" ++ config.storageHost ++ "/" ++ Percent.encodeSegment config.name ++ "/" ++
    Percent.encodeSegment request.name ++
    if request.generation = 0 then "" else "?generation=" ++ toString request.generation.toInt

def listPairs (query : Query) : List (String × String) :=
  let given (name value : String) : List (String × String) := if value = "" then [] else [(name, value)]
  ("projection", "full") :: given "prefix" query.stem ++ given "delimiter" query.delimiter ++
    (if query.versions then [("versions", "true")] else []) ++ given "pageToken" query.cursor ++
    (if query.maxResults = 0 then [] else [("maxResults", toString query.maxResults.toNat)])

def listUrl (config : BucketConfig) (query : Query) : Except InvalidRequest Url := do
  let url ← parseUrl config.bucketAddress
  pure (Form.appendPairs url (listPairs query))

end BucketConfig

structure ObjectUri where
  bucket : String
  object : String
deriving DecidableEq, Repr

namespace ObjectUri

def scheme : List Char := ['g', 's', ':', '/', '/']

def parse (uri : String) : Except InvalidRequest ObjectUri :=
  match uri.toList with
  | 'g' :: 's' :: ':' :: '/' :: '/' :: rest =>
      let bucket := rest.takeWhile (· != '/')
      let object := (rest.dropWhile (· != '/')).drop 1
      if bucket.isEmpty then .error (.uriBucket uri)
      else .ok ⟨String.ofList bucket, String.ofList object⟩
  | _ => .error (.uriProvider uri)

def text (bucket object : String) : String :=
  String.ofList scheme ++ bucket ++ "/" ++ object

end ObjectUri

end ObjectStore
