import ObjectStore.Base64
import ObjectStore.Checksum.Crc32c
import ObjectStore.Object
import ObjectStore.Resource.Json

/-!
Between objects and resources. Decoding is all or nothing: one field that cannot be decoded refuses
the whole object.
-/

namespace ObjectStore

inductive CodedField where
  | size | generation | metageneration | timeCreated | updated | timeDeleted | md5Hash | crc32c
deriving DecidableEq, Repr

def CodedField.name : CodedField → String
  | .size => "size"
  | .generation => "generation"
  | .metageneration => "metageneration"
  | .timeCreated => "timeCreated"
  | .updated => "updated"
  | .timeDeleted => "timeDeleted"
  | .md5Hash => "md5Hash"
  | .crc32c => "crc32c"

inductive DecodeError where
  | timestamp (field : CodedField) (fault : Timestamp.Fault)
  | base64 (field : CodedField) (fault : Base64.Fault)
  | checksumLength (length : Nat)
  | integer (field : CodedField) (text : String)
deriving DecidableEq, Repr

namespace DecodeError

def field : DecodeError → CodedField
  | .timestamp field _ => field
  | .base64 field _ => field
  | .checksumLength _ => .crc32c
  | .integer field _ => field

def message : DecodeError → String
  | .timestamp field fault => "decoding " ++ field.name ++ " field: " ++ fault.message
  | .base64 field fault => "decoding " ++ field.name ++ " field: " ++ fault.message
  | .checksumLength length => "wrong length for decoded crc32c field: " ++ toString length
  | .integer field text =>
      "decoding " ++ field.name ++ " field: " ++ Quoted.ofText text ++ " is not a valid integer"

/-- The messages of the faults behind an error, outermost first. A component of a time that is out of
range lies one level deeper than one that is unreadable. -/
def causes : DecodeError → List String
  | .timestamp _ fault =>
      match fault with
      | .outOfRange _ => [fault.message, fault.message, fault.message]
      | _ => [fault.message, fault.message]
  | .base64 _ fault => [fault.message]
  | .checksumLength _ => []
  | .integer _ _ => []

end DecodeError

/-! ### Fields -/

def decodeSize : Option WireInteger → Except DecodeError UInt64
  | none => .ok 0
  | some (.number value) =>
      if 0 ≤ value then .ok (UInt64.ofInt value.toInt)
      else .error (.integer .size (toString value.toInt))
  | some (.text digits) =>
      match Decimal.unsigned? 64 digits with
      | some value => .ok (UInt64.ofNat value)
      | none => .error (.integer .size digits)

def decodeInteger (field : CodedField) : Option WireInteger → Except DecodeError Int64
  | none => .ok 0
  | some (.number value) => .ok value
  | some (.text digits) =>
      match Decimal.signed? 64 digits with
      | some value => .ok (Int64.ofInt value)
      | none => .error (.integer field digits)

def decodeTime (field : CodedField) (text : String) : Except DecodeError (Option Timestamp) :=
  if text = "" then .ok none
  else match Timestamp.parse text with
    | .ok time => .ok (some time)
    | .error fault => .error (.timestamp field fault)

def decodeBase64 (field : CodedField) (text : String) : Except DecodeError Bytes :=
  (Base64.decode text).mapError (DecodeError.base64 field)

def decodeChecksum (text : String) : Except DecodeError UInt32 := do
  match ← decodeBase64 .crc32c text with
  | [first, second, third, fourth] => pure (Crc32c.ofBytes first second third fourth)
  | bytes => throw (.checksumLength bytes.length)

/-- `bucket` is the one that was asked, whatever the resource says. -/
def Object.ofResource (bucket : String) (resource : Resource) : Except DecodeError Object := do
  let size ← decodeSize resource.size
  let generation ← decodeInteger .generation resource.generation
  let metageneration ← decodeInteger .metageneration resource.metageneration
  let created ← decodeTime .timeCreated resource.timeCreated
  let updated ← decodeTime .updated resource.updated
  let deleted ← decodeTime .timeDeleted resource.timeDeleted
  let md5 ← decodeBase64 .md5Hash resource.md5Hash
  let crc32c ← decodeChecksum resource.crc32c
  pure {
    bucket, size, generation, metageneration, created, updated, deleted, md5, crc32c
    name := resource.name
    contentType := resource.contentType
    contentLanguage := resource.contentLanguage
    contentEncoding := resource.contentEncoding
    cacheControl := resource.cacheControl
    metadata := resource.metadata.getD ∅
    acl := resource.acl.getD []
    owner := resource.owner.getD ""
    storageClass := resource.storageClass
    mediaLink := resource.mediaLink }

def Attributes.toResource (bucket : String) (attributes : Attributes) : Resource :=
  { bucket
    name := attributes.name
    contentType := attributes.contentType
    contentLanguage := attributes.contentLanguage
    contentEncoding := attributes.contentEncoding
    cacheControl := attributes.cacheControl
    acl := if attributes.acl.isEmpty then none else some attributes.acl
    metadata := if attributes.metadata.isEmpty then none else some attributes.metadata }

def Attributes.serialize (bucket : String) (attributes : Attributes) : Bytes :=
  Bytes.ofText (attributes.toResource bucket).toJson.compact

end ObjectStore
