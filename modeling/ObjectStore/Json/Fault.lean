import ObjectStore.Bytes
import ObjectStore.Json.Value
import ObjectStore.Text.Quoted

/-!
What can be wrong with JSON text, where, and in which words.
-/

namespace ObjectStore.Json

inductive Found where
  | null
  | boolean (value : Bool)
  | number (number : Number)
  | string (text : String)
  | sequence
  | map
deriving DecidableEq, Repr

inductive Problem where
  | endOfList | endOfObject | endOfString | endOfValue
  | expectedColon | expectedListEnd | expectedObjectEnd | expectedIdentifier | expectedValue
  | invalidEscape | invalidNumber | numberOutOfRange | invalidCodePoint | controlCharacter
  | keyNotText | loneSurrogate | trailingComma | trailingCharacters | shortEscape | tooDeep
  | wrongType (found : Found) (expected : String)
  | wrongValue (found : Found) (expected : String)
  | wrongLength (length : Nat) (expected : String)
  | duplicateField (name : String)
  | missingField (name : String)
  | noVariant (typeName : String)
deriving DecidableEq, Repr

inductive Category where
  | endsEarly | malformed | mismatched
deriving DecidableEq, Repr

def Problem.category : Problem → Category
  | .endOfList | .endOfObject | .endOfString | .endOfValue => .endsEarly
  | .wrongType .. | .wrongValue .. | .wrongLength .. | .duplicateField _ | .missingField _
  | .noVariant _ => .mismatched
  | _ => .malformed

def zeros (count : Nat) : List Char :=
  List.replicate count '0'

def decimalText (isNegative : Bool) (significand : Nat) (exponent : Int) : String :=
  let digits := (toString significand).toList
  let trimmed := (digits.reverse.dropWhile (· == '0')).reverse
  let sign := if isNegative then ['-'] else []
  if trimmed.isEmpty then String.ofList (sign ++ ['0', '.', '0'])
  else
    let point := (digits.length : Int) + exponent
    let body :=
      if 0 < point && point ≤ 16 then
        let whole := trimmed.take point.toNat
        whole ++ zeros (point.toNat - whole.length) ++ '.' ::
          (if trimmed.length ≤ point.toNat then ['0'] else trimmed.drop point.toNat)
      else if -5 < point && point ≤ 0 then ['0', '.'] ++ zeros point.natAbs ++ trimmed
      else
        (match trimmed with
        | [first] => [first]
        | first :: rest => first :: '.' :: rest
        | [] => []) ++ 'e' :: (toString (point - 1)).toList
    String.ofList (sign ++ body)

def Found.description : Found → String
  | .null => "null"
  | .boolean value => "boolean `" ++ (if value then "true" else "false") ++ "`"
  | .number (.integer value) => "integer `" ++ toString value ++ "`"
  | .number (.decimal isNegative significand exponent) =>
      "floating point `" ++ decimalText isNegative significand exponent ++ "`"
  | .string text => "string " ++ Quoted.ofText text
  | .sequence => "sequence"
  | .map => "map"

def Problem.message : Problem → String
  | .endOfList => "EOF while parsing a list"
  | .endOfObject => "EOF while parsing an object"
  | .endOfString => "EOF while parsing a string"
  | .endOfValue => "EOF while parsing a value"
  | .expectedColon => "expected `:`"
  | .expectedListEnd => "expected `,` or `]`"
  | .expectedObjectEnd => "expected `,` or `\x7d`"
  | .expectedIdentifier => "expected ident"
  | .expectedValue => "expected value"
  | .invalidEscape => "invalid escape"
  | .invalidNumber => "invalid number"
  | .numberOutOfRange => "number out of range"
  | .invalidCodePoint => "invalid unicode code point"
  | .controlCharacter => "control character (\\u0000-\\u001F) found while parsing a string"
  | .keyNotText => "key must be a string"
  | .loneSurrogate => "lone leading surrogate in hex escape"
  | .trailingComma => "trailing comma"
  | .trailingCharacters => "trailing characters"
  | .shortEscape => "unexpected end of hex escape"
  | .tooDeep => "recursion limit exceeded"
  | .wrongType found expected => "invalid type: " ++ found.description ++ ", expected " ++ expected
  | .wrongValue found expected => "invalid value: " ++ found.description ++ ", expected " ++ expected
  | .wrongLength length expected => "invalid length " ++ toString length ++ ", expected " ++ expected
  | .duplicateField name => "duplicate field `" ++ name ++ "`"
  | .missingField name => "missing field `" ++ name ++ "`"
  | .noVariant typeName => "data did not match any variant of untagged enum " ++ typeName

/-- A problem and what was unread at its place. A problem with a record as a whole has its place only
when the record has been closed. -/
structure Fault where
  problem : Problem
  rest : Bytes
  isPlaced : Bool
deriving DecidableEq, Repr

namespace Fault

def here (problem : Problem) (rest : Bytes) : Fault :=
  ⟨problem, rest, true⟩

def next (problem : Problem) (rest : Bytes) : Fault :=
  ⟨problem, rest.drop 1, true⟩

def later (problem : Problem) (rest : Bytes) : Fault :=
  ⟨problem, rest, false⟩

def category (fault : Fault) : Category :=
  fault.problem.category

def line (input : Bytes) (fault : Fault) : Nat :=
  1 + (input.take (input.length - fault.rest.length)).count 0x0A

def column (input : Bytes) (fault : Fault) : Nat :=
  ((input.take (input.length - fault.rest.length)).reverse.takeWhile (· != 0x0A)).length

def message (input : Bytes) (fault : Fault) : String :=
  fault.problem.message ++ " at line " ++ toString (fault.line input) ++
    " column " ++ toString (fault.column input)

end Fault

end ObjectStore.Json
