import ObjectStore.Json.Token

/-!
Reading any JSON value. Lists and objects may be nested up to a depth that the caller gives.
-/

namespace ObjectStore.Json

def nextItem (isFirst : Bool) (bytes : Bytes) : Except Fault (Bool × Bytes) :=
  match skipBlank bytes with
  | [] => .error (.next .endOfList [])
  | byte :: rest =>
      if byte == 0x5D then .ok (false, byte :: rest)
      else if isFirst then .ok (true, byte :: rest)
      else if byte == 0x2C then
        match skipBlank rest with
        | [] => .error (.next .endOfValue [])
        | following :: unread =>
            if following == 0x5D then .error (.next .trailingComma (following :: unread))
            else .ok (true, following :: unread)
      else .error (.next .expectedListEnd (byte :: rest))

def nextMember (isFirst : Bool) (bytes : Bytes) : Except Fault (Bool × Bytes) :=
  match skipBlank bytes with
  | [] => .error (.next .endOfObject [])
  | byte :: rest =>
      if byte == 0x7D then .ok (false, byte :: rest)
      else if isFirst then
        if byte == 0x22 then .ok (true, rest) else .error (.next .keyNotText (byte :: rest))
      else if byte == 0x2C then
        match skipBlank rest with
        | [] => .error (.next .endOfValue [])
        | following :: unread =>
            if following == 0x22 then .ok (true, unread)
            else if following == 0x7D then .error (.next .trailingComma (following :: unread))
            else .error (.next .keyNotText (following :: unread))
      else .error (.next .expectedObjectEnd (byte :: rest))

def readColon (bytes : Bytes) : Except Fault Bytes :=
  match skipBlank bytes with
  | [] => .error (.next .endOfObject [])
  | byte :: rest => if byte == 0x3A then .ok rest else .error (.next .expectedColon (byte :: rest))

/-- The items of a list, up to its closing bracket and past it. Every item takes at least one byte,
so that as many rounds as there are bytes are enough. -/
def readItems {α : Type} (readItem : Read α) : Nat → Bool → Read (List α)
  | 0, _, bytes => .error (.next .endOfList bytes)
  | rounds + 1, isFirst, bytes => do
      match ← nextItem isFirst bytes with
      | (false, rest) => pure ([], rest.drop 1)
      | (true, rest) =>
          let (item, rest) ← readItem rest
          let (items, rest) ← readItems readItem rounds false rest
          pure (item :: items, rest)

def readMembers {α : Type} (readMember : Read α) : Nat → Bool → Read (List (String × α))
  | 0, _, bytes => .error (.next .endOfObject bytes)
  | rounds + 1, isFirst, bytes => do
      match ← nextMember isFirst bytes with
      | (false, rest) => pure ([], rest.drop 1)
      | (true, rest) =>
          let (name, rest) ← readTextBody rest
          let rest ← readColon rest
          let (member, rest) ← readMember rest
          let (members, rest) ← readMembers readMember rounds false rest
          pure ((name, member) :: members, rest)

def Value.ofMembers (members : List (String × Value)) : Value :=
  .object (members.foldl (fun entries member => Entries.insert member.1 member.2 entries) [])

/-- `depth` is one more than the number of brackets that may be open at once. -/
def readTree : Nat → Read Value
  | 0, bytes => .error (.next .tooDeep bytes)
  | depth + 1, bytes =>
      match skipBlank bytes with
      | [] => .error (.next .endOfValue [])
      | first :: rest =>
          if first == 0x6E then (readWord afterN rest).map fun unread => (.null, unread)
          else if first == 0x74 then (readWord afterT rest).map fun unread => (.boolean true, unread)
          else if first == 0x66 then (readWord afterF rest).map fun unread => (.boolean false, unread)
          else if first == 0x2D then
            (readNumber true rest).map fun read => (.number read.1, read.2)
          else if (digit? first).isSome then
            (readNumber false (first :: rest)).map fun read => (.number read.1, read.2)
          else if first == 0x22 then (readTextBody rest).map fun read => (.string read.1, read.2)
          else if first == 0x5B then
            if depth == 0 then .error (.next .tooDeep (first :: rest))
            else (readItems (readTree depth) (rest.length + 1) true rest).map
              fun read => (.array read.1, read.2)
          else if first == 0x7B then
            if depth == 0 then .error (.next .tooDeep (first :: rest))
            else (readMembers (readTree depth) (rest.length + 1) true rest).map
              fun read => (Value.ofMembers read.1, read.2)
          else .error (.next .expectedValue (first :: rest))

def startDepth : Nat := 128

def readWhole {α : Type} (read : Read α) (bytes : Bytes) : Except Fault α := do
  let (value, rest) ← read bytes
  match skipBlank rest with
  | [] => pure value
  | unread => throw (.next .trailingCharacters unread)

def parse (bytes : Bytes) : Except Fault Value :=
  readWhole (readTree startDepth) bytes

def unexpected (expected : String) : Bytes → Fault
  | [] => .next .expectedValue []
  | first :: rest =>
      let word (letters : Bytes) (found : Found) : Fault :=
        match readWord letters rest with
        | .ok unread => .here (.wrongType found expected) unread
        | .error fault => fault
      let number (isNegative : Bool) (bytes : Bytes) : Fault :=
        match readNumber isNegative bytes with
        | .ok (found, unread) => .here (.wrongType (.number found) expected) unread
        | .error fault => fault
      if first == 0x6E then word afterN .null
      else if first == 0x74 then word afterT (.boolean true)
      else if first == 0x66 then word afterF (.boolean false)
      else if first == 0x2D then number true rest
      else if (digit? first).isSome then number false (first :: rest)
      else if first == 0x22 then
        match readTextBody rest with
        | .ok (text, unread) => .here (.wrongType (.string text) expected) unread
        | .error fault => fault
      else if first == 0x5B then .here (.wrongType .sequence expected) (first :: rest)
      else if first == 0x7B then .here (.wrongType .map expected) (first :: rest)
      else .next .expectedValue (first :: rest)

def parseObject (bytes : Bytes) : Except Fault (List (String × Value)) :=
  readWhole (fun bytes =>
    match skipBlank bytes with
    | [] => .error (.next .endOfValue [])
    | first :: rest =>
        if first == 0x7B then do
          let (members, rest) ← readMembers (readTree (startDepth - 1)) (rest.length + 1) true rest
          pure (members.foldl (fun entries member => Entries.insert member.1 member.2 entries) [], rest)
        else .error (unexpected "a map" (first :: rest))) bytes

end ObjectStore.Json
