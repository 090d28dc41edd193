import ObjectStore.Json.Printer
import ObjectStore.Json.Schema
import ObjectStore.Resource
import ObjectStore.Width

/-!
The JSON of resources, listings and error envelopes, read and written.
-/

namespace ObjectStore

open Json (Value Record Field Shape)

/-! ### Reading -/

def WireInteger.ofValue? : Value → Option WireInteger
  | .number (.integer value) => if Width.fitsSigned 64 value then some (.number (Int64.ofInt value)) else none
  | .string digits => some (.text digits)
  | _ => none

def WireInteger.shape : Shape WireInteger :=
  Json.choice "RawInt" WireInteger.ofValue?

def AclRule.record : Record AclRule :=
  ⟨"RawAcl", ⟨"", ""⟩, [
    .of "entity" Json.text fun rule entity => { rule with entity },
    .of "role" Json.text fun rule role => { rule with role }]⟩

def Resource.ownerRecord : Record String :=
  ⟨"RawOwner", "", [.of "entity" Json.text fun _ entity => entity]⟩

def Resource.record : Record Resource :=
  ⟨"RawObject", {}, [
    .of "bucket" Json.text fun resource bucket => { resource with bucket },
    .of "name" Json.text fun resource name => { resource with name },
    .of "contentType" Json.text fun resource contentType => { resource with contentType },
    .of "contentLanguage" Json.text fun resource contentLanguage => { resource with contentLanguage },
    .of "contentEncoding" Json.text fun resource contentEncoding => { resource with contentEncoding },
    .of "cacheControl" Json.text fun resource cacheControl => { resource with cacheControl },
    .of "acl" (Json.optional (Json.list AclRule.record.shape)) fun resource acl => { resource with acl },
    .of "metadata" (Json.optional (Json.dictionary Json.text))
      fun resource metadata => { resource with metadata },
    .of "owner" (Json.optional ownerRecord.shape) fun resource owner => { resource with owner },
    .of "size" (Json.optional WireInteger.shape) fun resource size => { resource with size },
    .of "mediaLink" Json.text fun resource mediaLink => { resource with mediaLink },
    .of "generation" (Json.optional WireInteger.shape)
      fun resource generation => { resource with generation },
    .of "metageneration" (Json.optional WireInteger.shape)
      fun resource metageneration => { resource with metageneration },
    .of "storageClass" Json.text fun resource storageClass => { resource with storageClass },
    .of "md5Hash" Json.text fun resource md5Hash => { resource with md5Hash },
    .of "crc32c" Json.text fun resource crc32c => { resource with crc32c },
    .of "timeCreated" Json.text fun resource timeCreated => { resource with timeCreated },
    .of "updated" Json.text fun resource updated => { resource with updated },
    .of "timeDeleted" Json.text fun resource timeDeleted => { resource with timeDeleted }]⟩

def ResourceList.record : Record ResourceList :=
  ⟨"RawObjects", {}, [
    .of "items" (Json.optional (Json.list Resource.record.shape)) fun listing items => { listing with items },
    .of "prefixes" (Json.optional (Json.list Json.text)) fun listing prefixes => { listing with prefixes },
    .of "nextPageToken" (Json.optional Json.text)
      fun listing nextPageToken => { listing with nextPageToken }]⟩

def ErrorEnvelope.detailRecord : Record ErrorEnvelope :=
  ⟨"RawErrorDetail", ⟨0, ""⟩, [
    .of "code" (Json.natural 16) fun envelope code => { envelope with code := UInt16.ofNat code },
    .of "message" Json.text fun envelope message => { envelope with message }]⟩

def ErrorEnvelope.record : Record ErrorEnvelope :=
  ⟨"RawErrorBody", ⟨0, ""⟩, [.required "error" detailRecord.shape fun _ envelope => envelope]⟩

def Resource.parse (bytes : Bytes) : Except Json.Fault Resource :=
  Resource.record.parse bytes

def ResourceList.parse (bytes : Bytes) : Except Json.Fault ResourceList :=
  ResourceList.record.parse bytes

def ErrorEnvelope.parse (bytes : Bytes) : Except Json.Fault ErrorEnvelope :=
  ErrorEnvelope.record.parse bytes

/-! ### Writing -/

def WireInteger.toJson : WireInteger → Value
  | .number value => .number (.integer value.toInt)
  | .text digits => .string digits

def AclRule.toJson (rule : AclRule) : Value :=
  .object [("entity", .string rule.entity), ("role", .string rule.role)]

def Dictionary.toJson (dictionary : Dictionary String) : Value :=
  .object (dictionary.toList.map fun entry => (entry.1, .string entry.2))

def textMember (name text : String) : List (String × Value) :=
  if text = "" then [] else [(name, .string text)]

def member {α : Type} (name : String) (toJson : α → Value) : Option α → List (String × Value)
  | none => []
  | some value => [(name, toJson value)]

def Resource.toJson (resource : Resource) : Value :=
  .object (
    textMember "bucket" resource.bucket ++
    textMember "name" resource.name ++
    textMember "contentType" resource.contentType ++
    textMember "contentLanguage" resource.contentLanguage ++
    textMember "contentEncoding" resource.contentEncoding ++
    textMember "cacheControl" resource.cacheControl ++
    member "acl" (fun rules => .array (rules.map AclRule.toJson)) resource.acl ++
    member "metadata" Dictionary.toJson resource.metadata ++
    member "owner" (fun entity => .object [("entity", .string entity)]) resource.owner ++
    member "size" WireInteger.toJson resource.size ++
    textMember "mediaLink" resource.mediaLink ++
    member "generation" WireInteger.toJson resource.generation ++
    member "metageneration" WireInteger.toJson resource.metageneration ++
    textMember "storageClass" resource.storageClass ++
    textMember "md5Hash" resource.md5Hash ++
    textMember "crc32c" resource.crc32c ++
    textMember "timeCreated" resource.timeCreated ++
    textMember "updated" resource.updated ++
    textMember "timeDeleted" resource.timeDeleted)

def ResourceList.toJson (listing : ResourceList) : Value :=
  .object (
    member "items" (fun items => .array (items.map Resource.toJson)) listing.items ++
    member "prefixes" (fun prefixes => .array (prefixes.map Value.string)) listing.prefixes ++
    member "nextPageToken" Value.string listing.nextPageToken)

def ErrorEnvelope.toJson (envelope : ErrorEnvelope) : Value :=
  .object [("error", .object [
    ("code", .number (.integer envelope.code.toNat)), ("message", .string envelope.message)])]

end ObjectStore
