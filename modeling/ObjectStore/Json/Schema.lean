import ObjectStore.Json.Skip
import ObjectStore.Json.Tree

/-!
Reading JSON of a known shape. A record is an object whose unknown members are passed over, or a list
of its fields in order; a field that is absent keeps its default, and one that is given twice is
refused.
-/

namespace ObjectStore.Json

variable {α β σ : Type}

/-- A reader of what may stand inside so many further brackets. -/
abbrev Shape (α : Type) := Nat → Read α

def text : Shape String := fun _ bytes =>
  match skipBlank bytes with
  | [] => .error (.next .endOfValue [])
  | first :: rest =>
      if first == 0x22 then readTextBody rest else .error (unexpected "a string" (first :: rest))

def optional (shape : Shape α) : Shape (Option α) := fun depth bytes =>
  match skipBlank bytes with
  | [] => (shape depth []).map fun read => (some read.1, read.2)
  | first :: rest =>
      if first == 0x6E then (readWord afterN rest).map fun unread => (none, unread)
      else (shape depth (first :: rest)).map fun read => (some read.1, read.2)

def list (shape : Shape α) : Shape (List α) := fun depth bytes =>
  match skipBlank bytes with
  | [] => .error (.next .endOfValue [])
  | first :: rest =>
      if first == 0x5B then
        if depth ≤ 1 then .error (.next .tooDeep (first :: rest))
        else readItems (shape (depth - 1)) (rest.length + 1) true rest
      else .error (unexpected "a sequence" (first :: rest))

def dictionary (shape : Shape α) : Shape (Dictionary α) := fun depth bytes =>
  match skipBlank bytes with
  | [] => .error (.next .endOfValue [])
  | first :: rest =>
      if first == 0x7B then
        if depth ≤ 1 then .error (.next .tooDeep (first :: rest))
        else (readMembers (shape (depth - 1)) (rest.length + 1) true rest).map
          fun read => (Dictionary.ofList read.1, read.2)
      else .error (unexpected "a map" (first :: rest))

def natural (width : Nat) : Shape Nat := fun _ bytes =>
  let name := "u" ++ toString width
  match skipBlank bytes with
  | [] => .error (.next .endOfValue [])
  | first :: rest => do
      if first != 0x2D && (digit? first).isNone then throw (unexpected name (first :: rest))
      let (number, unread) ←
        if first == 0x2D then readNumber true rest else readNumber false (first :: rest)
      match number with
      | .integer value =>
          if Width.fits width value then pure (value.toNat, unread)
          else throw (.here (.wrongValue (.number number) name) unread)
      | .decimal .. => throw (.here (.wrongType (.number number) name) unread)

def choice (typeName : String) (select : Value → Option α) : Shape α := fun depth bytes => do
  let (value, rest) ← readTree depth bytes
  match select value with
  | some chosen => pure (chosen, rest)
  | none => throw (.later (.noVariant typeName) rest)

structure Field (σ : Type) where
  name : String
  isRequired : Bool
  change : σ → Shape σ

structure Record (σ : Type) where
  typeName : String
  empty : σ
  fields : List (Field σ)

def Field.of (name : String) (shape : Shape α) (store : σ → α → σ) : Field σ :=
  ⟨name, false, fun record depth bytes =>
    (shape depth bytes).map fun read => (store record read.1, read.2)⟩

def Field.required (name : String) (shape : Shape α) (store : σ → α → σ) : Field σ :=
  { Field.of name shape store with isRequired := true }

namespace Record

/-- A problem with the record as a whole is placed behind its closing bracket, if that follows. -/
def place (closing : UInt8) (fault : Fault) : Fault :=
  if fault.isPlaced then fault
  else match skipBlank fault.rest with
    | [] => .here fault.problem []
    | byte :: rest =>
        if byte == closing then .here fault.problem rest
        else if closing == 0x5D && byte == 0x2C then .here fault.problem (skipBlank rest)
        else .here fault.problem (byte :: rest)

def missing? (record : Record σ) (seen : List String) : Option String :=
  (record.fields.find? fun field => field.isRequired && !seen.contains field.name).map Field.name

def readFields (record : Record σ) (depth : Nat) : Nat → Bool → List String → σ → Read σ
  | 0, _, _, _, bytes => .error (.next .endOfObject bytes)
  | rounds + 1, isFirst, seen, state, bytes => do
      match ← nextMember isFirst bytes with
      | (false, rest) =>
          match record.missing? seen with
          | some name => throw (.later (.missingField name) rest)
          | none => pure (state, rest)
      | (true, rest) =>
          let (name, rest) ← readTextBody rest
          match record.fields.find? fun field => field.name == name with
          | none =>
              let rest ← readColon rest
              let rest ← skipValue rest
              readFields record depth rounds false seen state rest
          | some field =>
              if seen.contains name then throw (.later (.duplicateField name) rest)
              else
                let rest ← readColon rest
                let (state, rest) ← field.change state depth rest
                readFields record depth rounds false (name :: seen) state rest

def readPositions (record : Record σ) (depth : Nat) : List (Field σ) → Bool → σ → Read σ
  | [], _, state, bytes => .ok (state, bytes)
  | field :: fields, isFirst, state, bytes => do
      match ← nextItem isFirst bytes with
      | (false, rest) =>
          if field.isRequired then
            let position := record.fields.length - (field :: fields).length
            throw (.later (.wrongLength position
              ("struct " ++ record.typeName ++ " with " ++ toString record.fields.length ++
                if record.fields.length == 1 then " element" else " elements")) rest)
          else readPositions record depth fields isFirst state rest
      | (true, rest) =>
          let (state, rest) ← field.change state depth rest
          readPositions record depth fields false state rest

def closeList (bytes : Bytes) : Except Fault Bytes :=
  match skipBlank bytes with
  | [] => .error (.next .endOfList [])
  | byte :: rest =>
      if byte == 0x5D then .ok rest
      else if byte == 0x2C then
        match skipBlank rest with
        | [] => .error (.next .trailingCharacters [])
        | following :: unread =>
            .error (.next (if following == 0x5D then .trailingComma else .trailingCharacters)
              (following :: unread))
      else .error (.next .trailingCharacters (byte :: rest))

def shape (record : Record σ) : Shape σ := fun depth bytes =>
  match skipBlank bytes with
  | [] => .error (.next .endOfValue [])
  | first :: rest =>
      if first == 0x7B then
        if depth ≤ 1 then .error (.next .tooDeep (first :: rest))
        else match record.readFields (depth - 1) (rest.length + 1) true [] record.empty rest with
          | .ok (state, rest) => .ok (state, rest.drop 1)
          | .error fault => .error (place 0x7D fault)
      else if first == 0x5B then
        if depth ≤ 1 then .error (.next .tooDeep (first :: rest))
        else match record.readPositions (depth - 1) record.fields true record.empty rest with
          | .ok (state, rest) => (closeList rest).map fun unread => (state, unread)
          | .error fault => .error (place 0x5D fault)
      else .error (unexpected ("struct " ++ record.typeName) (first :: rest))

def parse (record : Record σ) (bytes : Bytes) : Except Fault σ :=
  readWhole (record.shape startDepth) bytes

end Record

end ObjectStore.Json
