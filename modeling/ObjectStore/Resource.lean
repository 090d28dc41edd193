import ObjectStore.Dictionary

/-!
What travels as JSON: the resource of an object, a listing of them, and the envelope of an error.
-/

namespace ObjectStore

structure AclRule where
  entity : String
  role : String
deriving DecidableEq, Repr

/-- An integer sent as a JSON number, or as its decimal text. -/
inductive WireInteger where
  | number (value : Int64)
  | text (digits : String)
deriving DecidableEq, Repr

/-- An empty text stands for a field that is absent. -/
structure Resource where
  bucket : String := ""
  name : String := ""
  contentType : String := ""
  contentLanguage : String := ""
  contentEncoding : String := ""
  cacheControl : String := ""
  acl : Option (List AclRule) := none
  metadata : Option (Dictionary String) := none
  owner : Option String := none
  size : Option WireInteger := none
  mediaLink : String := ""
  generation : Option WireInteger := none
  metageneration : Option WireInteger := none
  storageClass : String := ""
  md5Hash : String := ""
  crc32c : String := ""
  timeCreated : String := ""
  updated : String := ""
  timeDeleted : String := ""
deriving DecidableEq, Repr

structure ResourceList where
  items : Option (List Resource) := none
  prefixes : Option (List String) := none
  nextPageToken : Option String := none
deriving DecidableEq, Repr

structure ErrorEnvelope where
  code : UInt16
  message : String
deriving DecidableEq, Repr

end ObjectStore
