import ObjectStore.Base64
import ObjectStore.Checksum.Crc32c
import ObjectStore.Checksum.Md5
import ObjectStore.Json.Tree
import ObjectStore.Percent
import ObjectStore.Resource.Json
import ObjectStore.Timestamp

/-!
The state of the simulated service: one live generation of each object, and the uploads that were
announced and not yet finished. Generations and upload sessions are numbered and no number is used
twice.
-/

namespace ObjectStore

structure StoredObject where
  contentType : String
  contentLanguage : String
  contentEncoding : String
  cacheControl : String
  metadata : Dictionary String
  acl : List AclRule
  contents : Bytes
  generation : Nat
  metageneration : Nat
  created : Timestamp
  updated : Timestamp
deriving DecidableEq, Repr

structure PendingUpload where
  bucket : String
  resource : Resource
  precondition : Option Int
deriving DecidableEq, Repr

structure Store where
  nextGeneration : Nat
  nextUpload : Nat
  objects : Dictionary (Dictionary StoredObject)
  uploads : Dictionary PendingUpload
deriving DecidableEq, Repr

namespace StoredObject

def timeText (time : Timestamp) : String :=
  time.format?.getD ""

def mediaLink (bucket name : String) (generation : Nat) : String :=
  "https://storage.fake.test/download/storage/v1/b/" ++ Percent.expandVariable bucket ++ "/o/" ++
    Percent.expandVariable name ++ "?generation=" ++ toString generation ++ "&alt=media"

def toResource (bucket name : String) (object : StoredObject) : Resource :=
  { bucket, name
    contentType := object.contentType
    contentLanguage := object.contentLanguage
    contentEncoding := object.contentEncoding
    cacheControl := object.cacheControl
    acl := some object.acl
    metadata := if object.metadata.isEmpty then none else some object.metadata
    owner := some "user-fake"
    size := some (.text (toString object.contents.length))
    mediaLink := mediaLink bucket name object.generation
    generation := some (.text (toString object.generation))
    metageneration := some (.text (toString object.metageneration))
    storageClass := "STANDARD"
    md5Hash := Base64.encode (Md5.digest object.contents)
    crc32c := Base64.encode (Crc32c.toBytes (Crc32c.checksum object.contents))
    timeCreated := timeText object.created
    updated := timeText object.updated }

end StoredObject

namespace Store

def start : Store :=
  ⟨1, 0, ∅, ∅⟩

def bucket (store : Store) (name : String) : Dictionary StoredObject :=
  (store.objects.get? name).getD ∅

def find? (store : Store) (bucket name : String) : Option StoredObject :=
  (store.bucket bucket).get? name

def put (store : Store) (bucket name : String) (object : StoredObject) : Store :=
  { store with objects := store.objects.insert bucket ((store.bucket bucket).insert name object) }

def remove (store : Store) (bucket name : String) : Store :=
  { store with objects := store.objects.insert bucket ((store.bucket bucket).erase name) }

@[simp] theorem find?_put (store : Store) (bucket name : String) (object : StoredObject)
    (otherBucket otherName : String) :
    (store.put bucket name object).find? otherBucket otherName =
      if otherBucket = bucket ∧ otherName = name then some object else store.find? otherBucket otherName := by
  by_cases sameBucket : otherBucket = bucket
  · subst sameBucket
    simp [find?, put, Store.bucket]
  · simp [find?, put, Store.bucket, sameBucket]

@[simp] theorem find?_remove (store : Store) (bucket name otherBucket otherName : String) :
    (store.remove bucket name).find? otherBucket otherName =
      if otherBucket = bucket ∧ otherName = name then none else store.find? otherBucket otherName := by
  by_cases sameBucket : otherBucket = bucket
  · subst sameBucket
    simp [find?, remove, Store.bucket]
  · simp [find?, remove, Store.bucket, sameBucket]

def generationOf (store : Store) (bucket name : String) : Nat :=
  match store.find? bucket name with
  | some object => object.generation
  | none => 0

/-! ### Uploads -/

def sessionName (number : Nat) : String :=
  "upload-" ++ toString number

def announce (store : Store) (upload : PendingUpload) : String × Store :=
  let session := sessionName (store.nextUpload + 1)
  (session,
    { store with nextUpload := store.nextUpload + 1, uploads := store.uploads.insert session upload })

/-- Closes a session, whatever comes of it. -/
def takeUpload (store : Store) (session : String) : Option (PendingUpload × Store) :=
  (store.uploads.get? session).map fun upload =>
    (upload, { store with uploads := store.uploads.erase session })

def PendingUpload.admits (upload : PendingUpload) (current : Nat) : Bool :=
  match upload.precondition with
  | some expected => expected == (current : Int)
  | none => true

def PendingUpload.toObject (upload : PendingUpload) (contentType : String) (contents : Bytes)
    (generation : Nat) (now : Timestamp) : StoredObject :=
  { contentType := if upload.resource.contentType = "" then contentType else upload.resource.contentType
    contentLanguage := upload.resource.contentLanguage
    contentEncoding := upload.resource.contentEncoding
    cacheControl := upload.resource.cacheControl
    metadata := upload.resource.metadata.getD ∅
    acl := upload.resource.acl.getD []
    contents, generation
    metageneration := 1
    created := now
    updated := now }

def write (store : Store) (upload : PendingUpload) (contentType : String) (contents : Bytes)
    (now : Timestamp) : StoredObject × Store :=
  let object := PendingUpload.toObject upload contentType contents store.nextGeneration now
  (object,
    { store.put upload.bucket upload.resource.name object with
      nextGeneration := store.nextGeneration + 1 })

/-! ### Changes -/

inductive PatchFault where
  | notText (field : String)
  | metadataNotObject
  | metadataNotText
  | noContentType
deriving DecidableEq, Repr

def PatchFault.message : PatchFault → String
  | .notText field => field ++ " must be a string"
  | .metadataNotObject => "metadata must be an object"
  | .metadataNotText => "metadata values must be strings"
  | .noContentType => "Required: contentType"

open Json (Value)

def fieldValue (field : String) : Value → Except PatchFault String
  | .null => .ok ""
  | .string text => .ok text
  | _ => .error (.notText field)

def changeMetadata (metadata : Dictionary String) (change : String × Value) :
    Except PatchFault (Dictionary String) :=
  match change.2 with
  | .null => .ok (metadata.erase change.1)
  | .string text => .ok (metadata.insert change.1 text)
  | _ => .error .metadataNotText

def changeField (object : StoredObject) (change : String × Value) : Except PatchFault StoredObject :=
  let (field, value) := change
  if field = "contentType" then
    (fieldValue field value).map fun contentType => { object with contentType }
  else if field = "contentEncoding" then
    (fieldValue field value).map fun contentEncoding => { object with contentEncoding }
  else if field = "contentLanguage" then
    (fieldValue field value).map fun contentLanguage => { object with contentLanguage }
  else if field = "cacheControl" then
    (fieldValue field value).map fun cacheControl => { object with cacheControl }
  else if field = "metadata" then
    match value with
    | .object changes =>
        (changes.foldlM changeMetadata object.metadata).map fun metadata => { object with metadata }
    | _ => .error .metadataNotObject
  else .ok object

/-- All changes, or none when one of them is refused. -/
def patchObject (object : StoredObject) (changes : List (String × Value)) (now : Timestamp) :
    Except PatchFault StoredObject := do
  let changed ← changes.foldlM changeField object
  if changed.contentType = "" then throw .noContentType
  pure { changed with metageneration := changed.metageneration + 1, updated := now }

/-! ### Listings -/

inductive Entry where
  | item (name : String) (object : StoredObject)
  | group (stem : String)
deriving DecidableEq, Repr

def dropStem? : List Char → List Char → Option (List Char)
  | [], rest => some rest
  | _ :: _, [] => none
  | expected :: stem, character :: rest => if expected = character then dropStem? stem rest else none

def throughDelimiter? (delimiter : List Char) : List Char → Option (List Char)
  | [] => if delimiter.isEmpty then some [] else none
  | character :: rest =>
      if (dropStem? delimiter (character :: rest)).isSome then some delimiter
      else (throughDelimiter? delimiter rest).map fun through => character :: through

/-- How a name appears in a listing: not at all, as itself, or by what it shares with others. -/
def entry? (stem delimiter name : String) (object : StoredObject) : Option Entry :=
  match dropStem? stem.toList name.toList with
  | none => none
  | some rest =>
      if delimiter = "" then some (.item name object)
      else match throughDelimiter? delimiter.toList rest with
        | some through => some (.group (stem ++ String.ofList through))
        | none => some (.item name object)

def withoutRepeats : Option String → List Entry → List Entry
  | _, [] => []
  | last, .group stem :: rest =>
      if last = some stem then withoutRepeats last rest else .group stem :: withoutRepeats (some stem) rest
  | last, .item name object :: rest => .item name object :: withoutRepeats last rest

def entries (store : Store) (bucket stem delimiter : String) : List Entry :=
  withoutRepeats none
    ((store.bucket bucket).toList.filterMap fun named => entry? stem delimiter named.1 named.2)

def Entry.item? (bucket : String) : Entry → Option Resource
  | .item name object => some (object.toResource bucket name)
  | .group _ => none

def Entry.group? : Entry → Option String
  | .item _ _ => none
  | .group stem => some stem

/-- Positions in a listing are 64 bits wide; the end of a page must be such a position. -/
def page (bucket : String) (all : List Entry) (offset count : Nat) : Option ResourceList :=
  let shown := (all.drop offset).take count
  let stop := offset + count
  if Width.bound 64 ≤ stop then none
  else some {
    items := some (shown.filterMap (Entry.item? bucket))
    prefixes := some (shown.filterMap Entry.group?)
    nextPageToken := if stop < all.length then some (toString stop) else none }

end Store

end ObjectStore
