import ObjectStore.Json.Printer
import ObjectStore.Resource
import ObjectStore.Timestamp

/-!
Objects as callers see them, and the attributes that they choose for a new one.
-/

namespace ObjectStore

/-- Empty texts and collections are left for the service to fill in. -/
structure Attributes where
  name : String
  contentType : String := ""
  contentLanguage : String := ""
  contentEncoding : String := ""
  cacheControl : String := ""
  metadata : Dictionary String := ∅
  acl : List AclRule := []
deriving DecidableEq, Repr

structure Object where
  bucket : String
  name : String
  contentType : String
  contentLanguage : String
  contentEncoding : String
  cacheControl : String
  metadata : Dictionary String
  acl : List AclRule
  owner : String
  size : UInt64
  generation : Int64
  metageneration : Int64
  storageClass : String
  mediaLink : String
  md5 : Bytes
  crc32c : UInt32
  created : Option Timestamp
  updated : Option Timestamp
  deleted : Option Timestamp
deriving DecidableEq, Repr

namespace Object

def sameTime : Option Timestamp → Option Timestamp → Bool
  | none, none => true
  | some left, some right => left.sameInstant right
  | _, _ => false

def agrees (left right : Object) : Bool :=
  sameTime left.created right.created && sameTime left.updated right.updated &&
    sameTime left.deleted right.deleted &&
    { left with created := none, updated := none, deleted := none } =
      { right with created := none, updated := none, deleted := none }

open Json (Value)

def timeJson : Option Timestamp → Except Timestamp.WriteFault Value
  | none => .ok .null
  | some time => time.write.map Value.string

def toJson (object : Object) : Except Timestamp.WriteFault Value := do
  let text (name value : String) : String × Value := (name, .string value)
  let integer (name : String) (value : Int) : String × Value := (name, .number (.integer value))
  let created ← timeJson object.created
  let updated ← timeJson object.updated
  let deleted ← timeJson object.deleted
  pure (.object [
    text "bucket" object.bucket,
    text "name" object.name,
    text "content_type" object.contentType,
    text "content_language" object.contentLanguage,
    text "content_encoding" object.contentEncoding,
    text "cache_control" object.cacheControl,
    ("metadata", .object (object.metadata.toList.map fun entry => (entry.1, .string entry.2))),
    ("acl", .array (object.acl.map fun rule =>
      .object [("entity", .string rule.entity), ("role", .string rule.role)])),
    text "owner" object.owner,
    integer "size" object.size.toNat,
    integer "generation" object.generation.toInt,
    integer "meta_generation" object.metageneration.toInt,
    text "storage_class" object.storageClass,
    text "media_link" object.mediaLink,
    ("md5", .array (object.md5.map fun byte => .number (.integer byte.toNat))),
    integer "crc32c" object.crc32c.toNat,
    ("created", created),
    ("updated", updated),
    ("deleted", deleted)])

end Object

end ObjectStore
