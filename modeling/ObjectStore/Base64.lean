import ObjectStore.Bytes

/-!
Base64 with the standard alphabet, always padded. Reading accepts the canonical text only and says
where another text goes wrong.
-/

namespace ObjectStore.Base64

def symbol (value : UInt8) : UInt8 :=
  if value < 26 then 0x41 + value
  else if value < 52 then 0x61 + (value - 26)
  else if value < 62 then 0x30 + (value - 52)
  else if value == 62 then 0x2B
  else 0x2F

def value? (byte : UInt8) : Option UInt8 :=
  if 0x41 ≤ byte && byte ≤ 0x5A then some (byte - 0x41)
  else if 0x61 ≤ byte && byte ≤ 0x7A then some (byte - 0x61 + 26)
  else if 0x30 ≤ byte && byte ≤ 0x39 then some (byte - 0x30 + 52)
  else if byte == 0x2B then some 62
  else if byte == 0x2F then some 63
  else none

def padding : UInt8 := 0x3D

def encodeBytes : Bytes → Bytes
  | [] => []
  | [a] => [symbol (a >>> 2), symbol ((a &&& 3) <<< 4), padding, padding]
  | [a, b] =>
      [symbol (a >>> 2), symbol (((a &&& 3) <<< 4) ||| (b >>> 4)), symbol ((b &&& 0xF) <<< 2), padding]
  | a :: b :: c :: rest =>
      symbol (a >>> 2) :: symbol (((a &&& 3) <<< 4) ||| (b >>> 4)) ::
        symbol (((b &&& 0xF) <<< 2) ||| (c >>> 6)) :: symbol (c &&& 0x3F) :: encodeBytes rest

def encode (bytes : Bytes) : String :=
  String.ofList ((encodeBytes bytes).map fun byte => Char.ofNat byte.toNat)

inductive Fault where
  | symbol (byte : UInt8) (offset : Nat)
  | length (count : Nat)
  | lastSymbol (byte : UInt8) (offset : Nat)
  | padding
deriving DecidableEq, Repr

def Fault.message : Fault → String
  | .symbol byte offset => "Invalid symbol " ++ toString byte.toNat ++ ", offset " ++ toString offset ++ "."
  | .length count => "Invalid input length: " ++ toString count
  | .lastSymbol byte offset =>
      "Invalid last symbol " ++ toString byte.toNat ++ ", offset " ++ toString offset ++ "."
  | .padding => "Invalid padding"

def valueAt (offset : Nat) (byte : UInt8) : Except Fault UInt8 :=
  match value? byte with
  | some value => .ok value
  | none => .error (.symbol byte offset)

/-- The values of the last group's symbols. Padding stands only after two of them, and only padding
follows padding. `seen` is how many symbols were read, `firstPadding` where padding began. -/
def lastGroup (offset index : Nat) (firstPadding : Option Nat) :
    Bytes → Except Fault (List (UInt8 × UInt8))
  | [] => .ok []
  | byte :: rest =>
      if byte == padding then
        if index < 2 then .error (.symbol padding (offset + index))
        else lastGroup offset (index + 1) (some (firstPadding.getD index)) rest
      else
        match firstPadding with
        | some first => .error (.symbol padding (offset + first))
        | none => do
            let value ← valueAt (offset + index) byte
            let values ← lastGroup offset (index + 1) none rest
            pure ((byte, value) :: values)

def lastBytes (offset size : Nat) : List (UInt8 × UInt8) → Except Fault Bytes
  | [] => if offset == 0 && size == 0 then .ok [] else .error (.length offset)
  | [_] => .error (.length (offset + 1))
  | [(_, a), (last, b)] =>
      if size != 4 then .error .padding
      else if b &&& 0xF != 0 then .error (.lastSymbol last (offset + 1))
      else .ok [(a <<< 2) ||| (b >>> 4)]
  | [(_, a), (_, b), (last, c)] =>
      if size != 4 then .error .padding
      else if c &&& 3 != 0 then .error (.lastSymbol last (offset + 2))
      else .ok [(a <<< 2) ||| (b >>> 4), (b <<< 4) ||| (c >>> 2)]
  | (_, a) :: (_, b) :: (_, c) :: (_, d) :: _ =>
      .ok [(a <<< 2) ||| (b >>> 4), (b <<< 4) ||| (c >>> 2), (c <<< 6) ||| d]

def decodeFrom (offset : Nat) : Bytes → Except Fault Bytes
  | first :: second :: third :: fourth :: following :: rest => do
      let a ← valueAt offset first
      let b ← valueAt (offset + 1) second
      let c ← valueAt (offset + 2) third
      let d ← valueAt (offset + 3) fourth
      let tail ← decodeFrom (offset + 4) (following :: rest)
      pure (((a <<< 2) ||| (b >>> 4)) :: ((b <<< 4) ||| (c >>> 2)) :: ((c <<< 6) ||| d) :: tail)
  | last => do
      let values ← lastGroup offset 0 none last
      lastBytes offset last.length values

def decodeBytes (bytes : Bytes) : Except Fault Bytes := do
  if bytes.length % 4 == 1 then
    match bytes.getLast? with
    | some last => if last != padding then let _ ← valueAt (bytes.length - 1) last
    | none => pure ()
  decodeFrom 0 bytes

def decode (text : String) : Except Fault Bytes :=
  decodeBytes (Bytes.ofText text)

end ObjectStore.Base64
