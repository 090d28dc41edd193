import ObjectStore.Bytes
import ObjectStore.Text.Printable

/-!
Text in double quotes, as messages show names and values: what would not be seen is escaped.
-/

namespace ObjectStore.Quoted

def hexDigit (value : Nat) : Char :=
  if value < 10 then Char.ofNat (0x30 + value) else Char.ofNat (0x57 + value)

def hexDigits (value : Nat) : List Char :=
  if _small : value < 16 then [hexDigit value] else hexDigits (value / 16) ++ [hexDigit (value % 16)]
termination_by value
decreasing_by omega

def quoteMark : Char := Char.ofNat 0x22

def backslash : Char := Char.ofNat 0x5C

def escapeChar (character : Char) : List Char :=
  if character = Char.ofNat 0 then [backslash, '0']
  else if character = '\t' then [backslash, 't']
  else if character = '\r' then [backslash, 'r']
  else if character = '\n' then [backslash, 'n']
  else if character = quoteMark || character = backslash then [backslash, character]
  else if Printable.isPrintable character then [character]
  else [backslash, 'u', Char.ofNat 0x7B] ++ hexDigits character.toNat ++ [Char.ofNat 0x7D]

def ofText (text : String) : String :=
  String.ofList (quoteMark :: text.toList.flatMap escapeChar ++ [quoteMark])

/-- Bytes outside visible ASCII are escaped one by one; the tab is kept. -/
def escapeByte (byte : UInt8) : List Char :=
  if byte == 0x22 then [backslash, quoteMark]
  else if (0x20 ≤ byte && byte < 0x7F) || byte == 0x09 then [Char.ofNat byte.toNat]
  else [backslash, 'x', hexDigit (byte.toNat / 16), hexDigit (byte.toNat % 16)]

def ofBytes (bytes : Bytes) : String :=
  String.ofList (quoteMark :: bytes.flatMap escapeByte ++ [quoteMark])

end ObjectStore.Quoted
