import ObjectStore.Bytes

/-!
Percent-encoding. An encoding is given by the bytes that it keeps; every other byte becomes an
escape of three characters.
-/

namespace ObjectStore.Percent

abbrev SafeSet := UInt8 → Bool

def isAlphanumeric (byte : UInt8) : Bool :=
  (0x30 ≤ byte && byte ≤ 0x39) || (0x41 ≤ byte && byte ≤ 0x5A) || (0x61 ≤ byte && byte ≤ 0x7A)

def among (characters : String) (byte : UInt8) : Bool :=
  (Bytes.ofText characters).contains byte

def unreserved (byte : UInt8) : Bool :=
  isAlphanumeric byte || byte == 0x2D || byte == 0x2E || byte == 0x5F || byte == 0x7E

def segment (byte : UInt8) : Bool :=
  unreserved byte || byte == 0x21 || byte == 0x24 || (0x26 ≤ byte && byte ≤ 0x2C) ||
    byte == 0x3A || byte == 0x3B || byte == 0x3D || byte == 0x40

def hexDigit (value : UInt8) : UInt8 :=
  if value < 10 then 0x30 + value else 0x37 + value

def escape (byte : UInt8) : Bytes :=
  [0x25, hexDigit (byte >>> 4), hexDigit (byte &&& 0xF)]

def encodeByte (safe : SafeSet) (byte : UInt8) : Bytes :=
  if safe byte then [byte] else escape byte

def encodeBytes (safe : SafeSet) (bytes : Bytes) : Bytes :=
  bytes.flatMap (encodeByte safe)

def asciiText (bytes : Bytes) : String :=
  String.ofList (bytes.map fun byte => Char.ofNat byte.toNat)

def encode (safe : SafeSet) (text : String) : String :=
  asciiText (encodeBytes safe (Bytes.ofText text))

def encodeSegment (name : String) : String :=
  encode segment name

def expandVariable (value : String) : String :=
  encode unreserved value

def hexValue? (digit : UInt8) : Option UInt8 :=
  if 0x30 ≤ digit && digit ≤ 0x39 then some (digit - 0x30)
  else if 0x61 ≤ digit && digit ≤ 0x66 then some (digit - 0x57)
  else if 0x41 ≤ digit && digit ≤ 0x46 then some (digit - 0x37)
  else none

/-- Refuses an escape that is cut short or not hexadecimal. -/
def decode? : Bytes → Option Bytes
  | [] => some []
  | 0x25 :: high :: low :: rest =>
      match hexValue? high, hexValue? low with
      | some upper, some lower => (decode? rest).map fun tail => (upper <<< 4 ||| lower) :: tail
      | _, _ => none
  | byte :: rest => if byte == 0x25 then none else (decode? rest).map fun tail => byte :: tail

def decodeText? (text : String) : Option Bytes :=
  decode? (Bytes.ofText text)

/-- Keeps an escape that is cut short or not hexadecimal. -/
def decodeLenient : Bytes → Bytes
  | [] => []
  | [byte] => [byte]
  | [first, second] => [first, second]
  | byte :: high :: low :: rest =>
      if byte == 0x25 then
        match hexValue? high, hexValue? low with
        | some upper, some lower => (upper <<< 4 ||| lower) :: decodeLenient rest
        | _, _ => byte :: decodeLenient (high :: low :: rest)
      else byte :: decodeLenient (high :: low :: rest)

end ObjectStore.Percent
