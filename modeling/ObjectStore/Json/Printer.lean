import ObjectStore.Json.Fault

/-!
Writing JSON: without blanks, or over several lines with two blanks for each level.
-/

namespace ObjectStore.Json

def controlEscape (character : Char) : List Char :=
  [Quoted.backslash, 'u', '0', '0', Quoted.hexDigit (character.toNat / 16), Quoted.hexDigit (character.toNat % 16)]

def escapeChar (character : Char) : List Char :=
  if character = Quoted.quoteMark || character = Quoted.backslash then [Quoted.backslash, character]
  else if 0x20 ≤ character.toNat then [character]
  else if character.toNat == 0x08 then [Quoted.backslash, 'b']
  else if character.toNat == 0x09 then [Quoted.backslash, 't']
  else if character.toNat == 0x0A then [Quoted.backslash, 'n']
  else if character.toNat == 0x0C then [Quoted.backslash, 'f']
  else if character.toNat == 0x0D then [Quoted.backslash, 'r']
  else controlEscape character

def textChars (text : String) : List Char :=
  Quoted.quoteMark :: text.toList.flatMap escapeChar ++ [Quoted.quoteMark]

def Number.text : Number → String
  | .integer value => toString value
  | .decimal isNegative significand exponent => decimalText isNegative significand exponent

def openBrace : Char := Char.ofNat 0x7B

def closeBrace : Char := Char.ofNat 0x7D

mutual

def Value.chars : Value → List Char
  | .null => ['n', 'u', 'l', 'l']
  | .boolean value => if value then ['t', 'r', 'u', 'e'] else ['f', 'a', 'l', 's', 'e']
  | .number number => number.text.toList
  | .string text => textChars text
  | .array items => '[' :: itemChars true items
  | .object members => openBrace :: memberChars true members

def itemChars : Bool → List Value → List Char
  | _, [] => [']']
  | isFirst, item :: items => (if isFirst then [] else [',']) ++ item.chars ++ itemChars false items

def memberChars : Bool → List (String × Value) → List Char
  | _, [] => [closeBrace]
  | isFirst, (name, value) :: members =>
      (if isFirst then [] else [',']) ++ textChars name ++ ':' :: value.chars ++ memberChars false members

end

def indentation (level : Nat) : List Char :=
  '\n' :: List.replicate (2 * level) ' '

mutual

def Value.indentedChars (level : Nat) : Value → List Char
  | .array [] => ['[', ']']
  | .array (item :: items) =>
      '[' :: indentation (level + 1) ++ item.indentedChars (level + 1) ++ indentedItems level items
  | .object [] => [openBrace, closeBrace]
  | .object ((name, value) :: members) =>
      openBrace :: indentation (level + 1) ++ textChars name ++ ':' :: ' ' ::
        value.indentedChars (level + 1) ++ indentedMembers level members
  | value => value.chars

def indentedItems (level : Nat) : List Value → List Char
  | [] => indentation level ++ [']']
  | item :: items =>
      ',' :: indentation (level + 1) ++ item.indentedChars (level + 1) ++ indentedItems level items

def indentedMembers (level : Nat) : List (String × Value) → List Char
  | [] => indentation level ++ [closeBrace]
  | (name, value) :: members =>
      ',' :: indentation (level + 1) ++ textChars name ++ ':' :: ' ' ::
        value.indentedChars (level + 1) ++ indentedMembers level members

end

def Value.compact (value : Value) : String :=
  String.ofList value.chars

def Value.indented (value : Value) : String :=
  String.ofList (value.indentedChars 0)

end ObjectStore.Json
