import ObjectStore.Text.Decimal

/-!
The grammar of arguments: options with values, operands in order, and the names of commands. Reading
stops at the first fault.
-/

namespace ObjectStore.CommandLine

inductive UsageFault where
  | helpWanted
  | versionWanted
  | nothingGiven
  | missingCommand
  | unknownCommand
  | missingOperand
  | unknownArgument
  | missingValue
  | unwantedValue
  | invalidValue
  | repeatedOption
deriving DecidableEq, Repr

def UsageFault.exitCode : UsageFault → UInt32
  | .helpWanted => 0
  | .versionWanted => 0
  | _ => 2

inductive ValueKind where
  | text | integer | count
deriving DecidableEq, Repr

def count? (text : String) : Option UInt32 :=
  (Decimal.signed? 64 text).bind fun value =>
    if Width.fits 32 value then some (UInt32.ofNat value.toNat) else none

def integer? (text : String) : Option Int64 :=
  (Decimal.signed? 64 text).map Int64.ofInt

def ValueKind.admits (kind : ValueKind) (text : String) : Bool :=
  match kind with
  | .text => true
  | .integer => (integer? text).isSome
  | .count => (count? text).isSome

structure OptionRule where
  name : String
  kind : ValueKind := .text
  isRepeatable : Bool := false
deriving DecidableEq, Repr

structure Level where
  options : List OptionRule
  operandCount : Nat
  commands : List String
  hasVersion : Bool
deriving DecidableEq, Repr

inductive Argument where
  | separator
  | long (name : String) (value : Option String)
  | short (flag : Char)
  | plain
deriving DecidableEq, Repr

def Argument.ofChars : List Char → Argument
  | ['-', '-'] => .separator
  | '-' :: '-' :: rest =>
      let value := match rest.dropWhile (· != '=') with
        | [] => none
        | _ :: value => some (String.ofList value)
      .long (String.ofList (rest.takeWhile (· != '='))) value
  | '-' :: flag :: _ => .short flag
  | _ => .plain

def Argument.ofText (text : String) : Argument :=
  .ofChars text.toList

/-- An option that stands apart from its value is settled only when the next option or operand comes. -/
inductive Pending where
  | none
  | awaiting (rule : OptionRule)
  | filled (rule : OptionRule) (value : String)
deriving DecidableEq, Repr

structure Reading where
  values : List (String × String)
  operands : List String
  pending : Pending
deriving DecidableEq, Repr

namespace Reading

def start : Reading :=
  ⟨[], [], .none⟩

def value? (reading : Reading) (name : String) : Option String :=
  reading.values.lookup name

def valuesOf (reading : Reading) (name : String) : List String :=
  reading.values.filterMap fun entry => if entry.1 = name then some entry.2 else none

def operand (reading : Reading) (index : Nat) : String :=
  reading.operands.getD index ""

def isAwaiting (reading : Reading) : Bool :=
  match reading.pending with
  | .awaiting _ => true
  | _ => false

def store (reading : Reading) (rule : OptionRule) (value : String) : Except UsageFault Reading :=
  if !rule.isRepeatable && (reading.value? rule.name).isSome then .error .repeatedOption
  else if !rule.kind.admits value then .error .invalidValue
  else .ok { reading with values := reading.values ++ [(rule.name, value)], pending := .none }

def settle (reading : Reading) : Except UsageFault Reading :=
  match reading.pending with
  | .none => .ok reading
  | .awaiting _ => .error .missingValue
  | .filled rule value => reading.store rule value

end Reading

namespace Level

def flag? (level : Level) (name : String) : Option UsageFault :=
  if name = "help" then some .helpWanted
  else if level.hasVersion && name = "version" then some .versionWanted
  else none

def shortFlag? (level : Level) (flag : Char) : Option UsageFault :=
  if flag = 'h' then some .helpWanted
  else if level.hasVersion && flag = 'V' then some .versionWanted
  else none

def readLong (level : Level) (reading : Reading) (name : String) (value : Option String) :
    Except UsageFault Reading :=
  match level.flag? name, level.options.find? fun rule => rule.name == name with
  | some wanted, _ =>
      if value.isSome then .error .unwantedValue
      else do
        let _ ← reading.settle
        throw wanted
  | none, none => .error .unknownArgument
  | none, some rule => do
      let settled ← reading.settle
      match value with
      | some value => settled.store rule value
      | none => pure { settled with pending := .awaiting rule }

def readShort (level : Level) (reading : Reading) (flag : Char) : Except UsageFault Reading :=
  match level.shortFlag? flag with
  | none => .error .unknownArgument
  | some wanted => do
      let _ ← reading.settle
      throw wanted

def readPlain (level : Level) (isLiteral : Bool) (reading : Reading) (word : String) :
    Except UsageFault Reading :=
  match isLiteral, reading.pending with
  | false, .awaiting rule => .ok { reading with pending := .filled rule word }
  | _, _ =>
      if reading.operands.length < level.operandCount then do
        let settled ← reading.settle
        pure { settled with operands := settled.operands ++ [word] }
      else if level.commands.isEmpty then .error .unknownArgument
      else if isLiteral && level.commands.contains word then .error .unknownArgument
      else .error .unknownCommand

/-- What a level holds, and the command name that ends it with what follows. Behind a separator
everything is plain. -/
def read (level : Level) (isLiteral : Bool) (reading : Reading) :
    List String → Except UsageFault (Reading × Option (String × List String))
  | [] => .ok (reading, none)
  | word :: rest =>
      if isLiteral then do level.read true (← level.readPlain true reading word) rest
      else if !reading.isAwaiting && level.commands.contains word then .ok (reading, some (word, rest))
      else match Argument.ofText word with
        | .separator => level.read true reading rest
        | .long name value => do level.read false (← level.readLong reading name value) rest
        | .short flag => do level.read false (← level.readShort reading flag) rest
        | .plain => do level.read false (← level.readPlain false reading word) rest

def readLast (level : Level) (words : List String) : Except UsageFault Reading := do
  let (reading, _) ← level.read false .start words
  let settled ← reading.settle
  if settled.operands.length < level.operandCount then throw .missingOperand
  pure settled

end Level

end ObjectStore.CommandLine
