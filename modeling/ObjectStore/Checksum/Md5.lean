import ObjectStore.Bytes

/-!
The MD5 digest: sixteen bytes that identify contents.
-/

namespace ObjectStore.Md5

structure Words where
  a : UInt32
  b : UInt32
  c : UInt32
  d : UInt32
deriving DecidableEq, Repr

def Words.start : Words :=
  ⟨0x67452301, 0xEFCDAB89, 0x98BADCFE, 0x10325476⟩

def steps : List (UInt32 × UInt32) := [
  (0xD76AA478, 7), (0xE8C7B756, 12), (0x242070DB, 17), (0xC1BDCEEE, 22), (0xF57C0FAF, 7),
  (0x4787C62A, 12), (0xA8304613, 17), (0xFD469501, 22), (0x698098D8, 7), (0x8B44F7AF, 12),
  (0xFFFF5BB1, 17), (0x895CD7BE, 22), (0x6B901122, 7), (0xFD987193, 12), (0xA679438E, 17),
  (0x49B40821, 22), (0xF61E2562, 5), (0xC040B340, 9), (0x265E5A51, 14), (0xE9B6C7AA, 20),
  (0xD62F105D, 5), (0x02441453, 9), (0xD8A1E681, 14), (0xE7D3FBC8, 20), (0x21E1CDE6, 5),
  (0xC33707D6, 9), (0xF4D50D87, 14), (0x455A14ED, 20), (0xA9E3E905, 5), (0xFCEFA3F8, 9),
  (0x676F02D9, 14), (0x8D2A4C8A, 20), (0xFFFA3942, 4), (0x8771F681, 11), (0x6D9D6122, 16),
  (0xFDE5380C, 23), (0xA4BEEA44, 4), (0x4BDECFA9, 11), (0xF6BB4B60, 16), (0xBEBFBC70, 23),
  (0x289B7EC6, 4), (0xEAA127FA, 11), (0xD4EF3085, 16), (0x04881D05, 23), (0xD9D4D039, 4),
  (0xE6DB99E5, 11), (0x1FA27CF8, 16), (0xC4AC5665, 23), (0xF4292244, 6), (0x432AFF97, 10),
  (0xAB9423A7, 15), (0xFC93A039, 21), (0x655B59C3, 6), (0x8F0CCC92, 10), (0xFFEFF47D, 15),
  (0x85845DD1, 21), (0x6FA87E4F, 6), (0xFE2CE6E0, 10), (0xA3014314, 15), (0x4E0811A1, 21),
  (0xF7537E82, 6), (0xBD3AF235, 10), (0x2AD7D2BB, 15), (0xEB86D391, 21)]

def rotateLeft (word amount : UInt32) : UInt32 :=
  (word <<< amount) ||| (word >>> (32 - amount))

def mixing (step : Nat) (words : Words) : UInt32 × Nat :=
  if step < 16 then ((words.b &&& words.c) ||| (~~~words.b &&& words.d), step)
  else if step < 32 then ((words.d &&& words.b) ||| (~~~words.d &&& words.c), (5 * step + 1) % 16)
  else if step < 48 then (words.b ^^^ words.c ^^^ words.d, (3 * step + 5) % 16)
  else (words.c ^^^ (words.b ||| ~~~words.d), (7 * step) % 16)

def runSteps (block : Array UInt32) : Nat → List (UInt32 × UInt32) → Words → Words
  | _, [], words => words
  | step, (constant, rotation) :: rest, words =>
      let (mixed, index) := mixing step words
      let sum := words.a + mixed + constant + block.getD index 0
      runSteps block (step + 1) rest ⟨words.d, words.b + rotateLeft sum rotation, words.b, words.c⟩

def wordsOf : Bytes → List UInt32
  | a :: b :: c :: d :: rest =>
      (a.toUInt32 ||| (b.toUInt32 <<< 8) ||| (c.toUInt32 <<< 16) ||| (d.toUInt32 <<< 24)) :: wordsOf rest
  | _ => []

def absorb (words : Words) (block : Bytes) : Words :=
  let mixed := runSteps (wordsOf block).toArray 0 steps words
  ⟨words.a + mixed.a, words.b + mixed.b, words.c + mixed.c, words.d + mixed.d⟩

/-- A one bit, zeros, and the length in bits as eight bytes, to a multiple of 64 bytes. -/
def pad (bytes : Bytes) : Bytes :=
  let zeros := (119 - bytes.length % 64) % 64
  let bits := bytes.length * 8
  bytes ++ 0x80 :: List.replicate zeros 0 ++
    (List.range 8).map fun index => UInt8.ofNat (bits / Nat.pow 256 index)

def absorbAll : Nat → Bytes → Words → Words
  | 0, _, words => words
  | blocks + 1, bytes, words => absorbAll blocks (bytes.drop 64) (absorb words (bytes.take 64))

def wordBytes (word : UInt32) : Bytes :=
  [word.toUInt8, (word >>> 8).toUInt8, (word >>> 16).toUInt8, (word >>> 24).toUInt8]

def digest (bytes : Bytes) : Bytes :=
  let padded := pad bytes
  let words := absorbAll (padded.length / 64) padded .start
  wordBytes words.a ++ wordBytes words.b ++ wordBytes words.c ++ wordBytes words.d

end ObjectStore.Md5
