import ObjectStore.Http.Message
import ObjectStore.Object

/-!
What callers ask of a bucket.
-/

namespace ObjectStore

/-- With a precondition the object is written only over that generation; zero stands for none. -/
structure CreateRequest where
  attributes : Attributes
  contents : Content
  precondition : Option Int64
deriving DecidableEq, Repr

structure ReadRequest where
  name : String
  generation : Int64
deriving DecidableEq, Repr

inductive FieldUpdate where
  | keep
  | clear
  | set (value : String)
deriving DecidableEq, Repr

namespace FieldUpdate

def ofOption : Option String → FieldUpdate
  | none => .keep
  | some value => if value = "" then .clear else .set value

def ofText (value : String) : FieldUpdate :=
  ofOption (some value)

def isKeep : FieldUpdate → Bool
  | .keep => true
  | _ => false

end FieldUpdate

/-- Metadata keys without a value are removed, keys that are not named stay. -/
structure UpdateRequest where
  name : String
  contentType : FieldUpdate := .keep
  contentEncoding : FieldUpdate := .keep
  contentLanguage : FieldUpdate := .keep
  cacheControl : FieldUpdate := .keep
  metadata : Option (Dictionary (Option String)) := none
deriving DecidableEq, Repr

/-- `stem` is what the names must begin with. An empty cursor starts at the beginning, and a maximum
of zero lets the service choose. -/
structure Query where
  stem : String := ""
  delimiter : String := ""
  versions : Bool := false
  cursor : String := ""
  maxResults : UInt32 := 0
deriving DecidableEq, Repr

structure Page where
  results : List Object
  prefixes : List String
  next : Option Query
deriving DecidableEq, Repr

/-! ### How a request is shown to a reader -/

def AclRule.description (rule : AclRule) : String :=
  "AclRule \x7b entity: " ++ Quoted.ofText rule.entity ++ ", role: " ++ Quoted.ofText rule.role ++ " \x7d"

def Attributes.description (attributes : Attributes) : String :=
  let entry (pair : String × String) : String := Quoted.ofText pair.1 ++ ": " ++ Quoted.ofText pair.2
  "ObjectAttrs \x7b name: " ++ Quoted.ofText attributes.name ++
    ", content_type: " ++ Quoted.ofText attributes.contentType ++
    ", content_language: " ++ Quoted.ofText attributes.contentLanguage ++
    ", content_encoding: " ++ Quoted.ofText attributes.contentEncoding ++
    ", cache_control: " ++ Quoted.ofText attributes.cacheControl ++
    ", metadata: \x7b" ++ String.intercalate ", " (attributes.metadata.toList.map entry) ++ "\x7d" ++
    ", acl: [" ++ String.intercalate ", " (attributes.acl.map AclRule.description) ++ "] \x7d"

def CreateRequest.description (request : CreateRequest) : String :=
  "CreateObjectRequest \x7b attrs: " ++ request.attributes.description ++ ", generation_precondition: " ++
    (match request.precondition with
    | none => "None"
    | some generation => "Some(" ++ toString generation.toInt ++ ")") ++ ", .. \x7d"

end ObjectStore
