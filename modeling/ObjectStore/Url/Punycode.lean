/-!
Punycode: a label of a domain name in ASCII. The ASCII characters come first, then the places and
values of the others as a series of differences.
-/

namespace ObjectStore.Punycode

def base : Nat := 36

def threshold (bias position : Nat) : Nat :=
  if position ≤ bias + 1 then 1
  else if bias + 26 ≤ position then 26
  else position - bias

/-- Each round divides by 35, so that the difference bounds the rounds. -/
def reduce : Nat → Nat → Nat → Nat × Nat
  | 0, delta, k => (delta, k)
  | rounds + 1, delta, k =>
      if 455 < delta then reduce rounds (delta / 35) (k + base) else (delta, k)

def adapt (delta count : Nat) (isFirst : Bool) : Nat :=
  let scaled := if isFirst then delta / 700 else delta / 2
  let (small, k) := reduce scaled (scaled + scaled / count) 0
  k + 36 * small / (small + 38)

def digitChar (value : Nat) : Char :=
  if value < 26 then Char.ofNat (0x61 + value) else Char.ofNat (0x30 + (value - 26))

def digit? (character : Char) : Option Nat :=
  if 'a' ≤ character && character ≤ 'z' then some (character.toNat - 0x61)
  else if 'A' ≤ character && character ≤ 'Z' then some (character.toNat - 0x41)
  else if '0' ≤ character && character ≤ '9' then some (character.toNat - 0x30 + 26)
  else none

def encodeDelta (bias : Nat) : Nat → Nat → Nat → List Char
  | 0, value, _ => [digitChar value]
  | rounds + 1, value, k =>
      let limit := threshold bias k
      if value < limit then [digitChar value]
      else
        digitChar (limit + (value - limit) % (base - limit)) ::
          encodeDelta bias rounds ((value - limit) / (base - limit)) (k + base)

structure Encoder where
  delta : Nat
  bias : Nat
  handled : Nat
  isFirst : Bool
  output : List Char

def encodeCharacter (codePoint : Nat) (encoder : Encoder) (character : Char) : Encoder :=
  if character.toNat < codePoint then { encoder with delta := encoder.delta + 1 }
  else if character.toNat == codePoint then
    { delta := 0
      bias := adapt encoder.delta (encoder.handled + 1) encoder.isFirst
      handled := encoder.handled + 1
      isFirst := false
      output := encoder.output ++ encodeDelta encoder.bias encoder.delta encoder.delta base }
  else encoder

def encodeRounds (label : List Char) : Nat → Nat → Encoder → Encoder
  | 0, _, encoder => encoder
  | rounds + 1, floor, encoder =>
      match ((label.map Char.toNat).filter (floor ≤ ·)).min? with
      | none => encoder
      | some codePoint =>
          let raised :=
            { encoder with delta := encoder.delta + (codePoint - floor) * (encoder.handled + 1) }
          let passed := label.foldl (encodeCharacter codePoint) raised
          encodeRounds label rounds (codePoint + 1) { passed with delta := passed.delta + 1 }

def encode (label : List Char) : List Char :=
  let basic := label.filter fun character => character.toNat < 0x80
  let start := if basic.isEmpty then [] else basic ++ ['-']
  (encodeRounds label label.length 0x80 ⟨0, 72, basic.length, true, start⟩).output

def decodeDelta (bias : Nat) : Nat → Nat → Nat → List Char → Option (Nat × List Char)
  | _, _, _, [] => none
  | value, weight, k, character :: rest =>
      match digit? character with
      | none => none
      | some digit =>
          let limit := threshold bias k
          if digit < limit then some (value + digit * weight, rest)
          else decodeDelta bias (value + digit * weight) (weight * (base - limit)) (k + base) rest

def decodeRounds : Nat → Nat → Nat → Nat → List Char → List Char → Option (List Char)
  | _, _, _, _, output, [] => some output
  | 0, _, _, _, _, _ => none
  | rounds + 1, codePoint, position, bias, output, input => do
      let (delta, rest) ← decodeDelta bias 0 1 base input
      let size := output.length + 1
      let reached := position + delta
      let value := codePoint + reached / size
      let place := reached % size
      if 0x10FFFF < value || (0xD800 ≤ value && value ≤ 0xDFFF) then none
      else
        decodeRounds rounds value (place + 1) (adapt delta size (position == 0))
          (output.take place ++ Char.ofNat value :: output.drop place) rest

def splitBasic (label : List Char) : List Char × List Char :=
  let reversed := label.reverse
  match reversed.dropWhile (· != '-') with
  | [] => ([], label)
  | _ :: literal => (literal.reverse, (reversed.takeWhile (· != '-')).reverse)

def decode? (label : List Char) : Option (List Char) :=
  let (basic, encoded) := splitBasic label
  decodeRounds encoded.length 0x80 0 72 basic encoded

end ObjectStore.Punycode
