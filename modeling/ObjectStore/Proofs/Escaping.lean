import Mathlib.Data.List.Count
import ObjectStore.Proofs.Percent

/-!
The one form in which an encoding writes bytes: each of them is a character that the encoding keeps, or an escape
of two digits. A text in this form reads back as its bytes, and these bytes are written in no other way.
-/

namespace ObjectStore.Percent

open Bytes (toChars)

/-! ### Characters -/

def upperDigits : List Char := "0123456789ABCDEF".toList

def unreservedCharacters : List Char :=
  "ABCDEFGHIJKLMNOPQRSTUVWXYZabcdefghijklmnopqrstuvwxyz0123456789-._~".toList

def segmentCharacters : List Char :=
  unreservedCharacters ++ "!$&'()*+,;=:@".toList

def separators : List Char := ['/', '?', '#', ' ']

def IsKept (kept : List Char) (byte : UInt8) : Prop :=
  ∃ character ∈ kept, character.toNat = byte.toNat

/-- The characters spell these bytes: one that is kept stands for itself, any other is escaped in upper case. -/
inductive Spells (kept : List Char) : Bytes → List Char → Prop
  | done : Spells kept [] []
  | keep {byte : UInt8} {bytes : Bytes} {character : Char} {text : List Char} (isKept : character ∈ kept)
      (same : character.toNat = byte.toNat) (rest : Spells kept bytes text) :
      Spells kept (byte :: bytes) (character :: text)
  | escape {byte : UInt8} {bytes : Bytes} {upper lower : Char} {text : List Char} (notKept : ¬IsKept kept byte)
      (isUpper : upperDigits[byte.toNat / 16]? = some upper) (isLower : upperDigits[byte.toNat % 16]? = some lower)
      (rest : Spells kept bytes text) : Spells kept (byte :: bytes) ('%' :: upper :: lower :: text)

/-- A safe set by its characters, none of which has a meaning of its own in a path. -/
structure Keeps (safe : SafeSet) (kept : List Char) : Prop extends IsPlain safe where
  chooses : ∀ byte, safe byte = true ↔ IsKept kept byte
  apart : ∀ byte, safe byte = true → ∀ separator ∈ separators, separator.toNat ≠ byte.toNat

theorem isKept_iff_any {kept : List Char} {byte : UInt8} :
    IsKept kept byte ↔ (kept.any fun character => character.toNat == byte.toNat) = true := by
  simp only [IsKept, List.any_eq_true, beq_iff_eq]

theorem safe_iff_isKept {safe : SafeSet} {kept : List Char}
    (each : ∀ number < 256, safe (UInt8.ofNat number) = kept.any fun character => character.toNat == number)
    (byte : UInt8) : safe byte = true ↔ IsKept kept byte := by
  have here := each byte.toNat byte.toNat_lt
  rw [UInt8.ofNat_toNat] at here
  rw [here, isKept_iff_any]

theorem apart_segment (byte : UInt8) (kept : Percent.segment byte = true) :
    ∀ separator ∈ separators, separator.toNat ≠ byte.toNat := by
  rw [segment_iff, unreserved_iff, isAlphanumeric_iff] at kept
  simp only [separators, List.mem_cons, List.not_mem_nil, or_false]
  rintro separator (rfl | rfl | rfl | rfl) same
  all_goals
    simp only [Char.reduceToNat] at same
    omega

theorem keeps_segment : Keeps Percent.segment segmentCharacters where
  toIsPlain := isPlain_segment
  chooses := safe_iff_isKept (by decide +kernel)
  apart := apart_segment

theorem keeps_unreserved : Keeps unreserved unreservedCharacters where
  toIsPlain := isPlain_unreserved
  chooses := safe_iff_isKept (by decide +kernel)
  apart byte kept := apart_segment byte (segment_iff.2 (Or.inl kept))

/-! ### Encoded bytes -/

theorem upperDigits_half {half : UInt8} (small : half.toNat < 16) :
    upperDigits[half.toNat]? = some (Char.ofNat (hexDigit half).toNat) := by
  have each : ∀ number < 16,
      upperDigits[number]? = some (Char.ofNat (hexDigit (UInt8.ofNat number)).toNat) := by decide
  have found := each half.toNat small
  rwa [UInt8.ofNat_toNat] at found

theorem upperDigits_upper (byte : UInt8) :
    upperDigits[byte.toNat / 16]? = some (Char.ofNat (hexDigit (byte >>> 4)).toNat) := by
  have bound := byte.toNat_lt
  rw [← toNat_upper]
  apply upperDigits_half
  rw [toNat_upper]
  omega

theorem upperDigits_lower (byte : UInt8) :
    upperDigits[byte.toNat % 16]? = some (Char.ofNat (hexDigit (byte &&& 0xF)).toNat) := by
  rw [← toNat_lower]
  apply upperDigits_half
  rw [toNat_lower]
  omega

theorem length_encodeBytes (safe : SafeSet) (bytes : Bytes) :
    (encodeBytes safe bytes).length = bytes.length + 2 * bytes.countP (fun byte => !safe byte) := by
  induction bytes with
  | nil => rfl
  | cons byte rest ih =>
      rw [encodeBytes, List.flatMap_cons, ← encodeBytes, List.length_append, ih, List.length_cons, List.countP_cons,
        encodeByte]
      cases safe byte with
      | true => simp only [if_true, List.length_singleton, Bool.not_true, Bool.false_eq_true, if_false]; omega
      | false => simp only [Bool.false_eq_true, if_false, escape, List.length_cons, List.length_nil, Bool.not_false,
          if_true]; omega

theorem safe_of_encodeBytes_eq {safe : SafeSet} {bytes : Bytes} (same : encodeBytes safe bytes = bytes) :
    ∀ byte ∈ bytes, safe byte = true := by
  have lengths := length_encodeBytes safe bytes
  rw [same] at lengths
  have none : bytes.countP (fun byte => !safe byte) = 0 := by omega
  intro byte member
  simpa using List.countP_eq_zero.1 none byte member

theorem toList_encode (safe : SafeSet) (text : String) :
    (encode safe text).toList = toChars (encodeBytes safe (Bytes.ofText text)) := by
  rw [encode, asciiText, String.toList_ofList, toChars]

namespace Keeps

variable {safe : SafeSet} {kept : List Char} (keeps : Keeps safe kept)

include keeps

theorem spells_encodeBytes (bytes : Bytes) : Spells kept bytes (toChars (encodeBytes safe bytes)) := by
  induction bytes with
  | nil => exact .done
  | cons byte rest ih =>
      rw [encodeBytes, List.flatMap_cons, ← encodeBytes, encodeByte]
      split
      · rename_i isSafe
        obtain ⟨character, isKept, same⟩ := (keeps.chooses byte).1 isSafe
        have written : Char.ofNat byte.toNat = character := by rw [← same, Char.ofNat_toNat]
        rw [List.singleton_append, toChars, List.map_cons, written]
        exact .keep isKept same ih
      · rename_i notSafe
        exact .escape (fun isKept => notSafe ((keeps.chooses byte).2 isKept)) (upperDigits_upper byte)
          (upperDigits_lower byte) ih

theorem eq_encodeBytes_of_spells {bytes : Bytes} {text : List Char} (spells : Spells kept bytes text) :
    text = toChars (encodeBytes safe bytes) := by
  induction spells with
  | done => rfl
  | @keep byte bytes character text isKept same rest ih =>
      have isSafe : safe byte = true := (keeps.chooses byte).2 ⟨character, isKept, same⟩
      rw [encodeBytes, List.flatMap_cons, ← encodeBytes, encodeByte, if_pos isSafe, List.singleton_append, toChars,
        List.map_cons, ← same, Char.ofNat_toNat, ih, toChars]
  | @escape byte bytes upper lower text notKept isUpper isLower rest ih =>
      have notSafe : ¬safe byte = true := fun isSafe => notKept ((keeps.chooses byte).1 isSafe)
      rw [upperDigits_upper] at isUpper
      rw [upperDigits_lower] at isLower
      cases isUpper
      cases isLower
      rw [encodeBytes, List.flatMap_cons, ← encodeBytes, encodeByte, if_neg notSafe, ih]
      rfl

theorem eq_asciiText_of_spells {bytes : Bytes} {written : String} (spells : Spells kept bytes written.toList) :
    written = asciiText (encodeBytes safe bytes) := by
  rw [asciiText, ← toChars, ← keeps.eq_encodeBytes_of_spells spells, String.ofList_toList]

theorem decodeText?_of_spells {bytes : Bytes} {written : String} (spells : Spells kept bytes written.toList) :
    decodeText? written = some bytes := by
  rw [keeps.eq_asciiText_of_spells spells, decodeText?, ofText_asciiText (keeps.isAscii bytes),
    keeps.decode?_encodeBytes]

theorem exists_byte_of_mem_encode {text : String} {character : Char} (member : character ∈ (encode safe text).toList) :
    ∃ byte, isWritten safe byte = true ∧ character.toNat = byte.toNat := by
  rw [toList_encode] at member
  obtain ⟨byte, inBytes, rfl⟩ := List.mem_map.1 member
  have written := isWritten_encodeBytes safe _ byte inBytes
  exact ⟨byte, written, Bytes.toNat_char (keeps.lt_of_isWritten written)⟩

theorem not_separator {byte : UInt8} (written : isWritten safe byte = true) :
    ∀ separator ∈ separators, separator.toNat ≠ byte.toNat := by
  rcases isWritten_iff.1 written with isSafe | other
  · exact keeps.apart byte isSafe
  · rw [isUpperHex_iff] at other
    simp only [separators, List.mem_cons, List.not_mem_nil, or_false]
    rintro separator (rfl | rfl | rfl | rfl) same
    all_goals
      simp only [Char.reduceToNat] at same
      omega

theorem encode_eq_self_iff (text : String) :
    encode safe text = text ↔ ∀ byte ∈ Bytes.ofText text, safe byte = true := by
  constructor
  · intro same
    apply safe_of_encodeBytes_eq
    rw [← keeps.ofText_encode, same]
  · intro isSafe
    exact encode_of_safe (fun byte member => keeps.ascii byte (isSafe byte member)) isSafe

theorem encode_injective : Function.Injective (encode safe) := by
  intro text other same
  have decoded := keeps.decodeText?_encode text
  rw [same, keeps.decodeText?_encode] at decoded
  exact (Bytes.ofText_injective (Option.some.inj decoded)).symm

end Keeps

/-! ### Encoders -/

/-- An encoder that keeps these characters and escapes everything else, so that nothing is lost and every text has
one encoded form. -/
structure IsExact (encoder : String → String) (kept : List Char) : Prop where
  spells : ∀ text, Spells kept (Bytes.ofText text) (encoder text).toList
  ascii : ∀ text, ∀ character ∈ (encoder text).toList, character.toNat < 0x80
  apart : ∀ text, ∀ character ∈ (encoder text).toList, character ∉ separators
  unchanged : ∀ text, encoder text = text ↔ ∀ byte ∈ Bytes.ofText text, IsKept kept byte
  decodes : ∀ text, decodeText? (encoder text) = some (Bytes.ofText text)
  injective : Function.Injective encoder
  decodesForm : ∀ bytes written, Spells kept bytes written.toList → decodeText? written = some bytes
  encodesAgain : ∀ bytes written text, Spells kept bytes written.toList →
    (decodeText? written).bind Bytes.toText? = some text → encoder text = written

theorem Keeps.isExact {safe : SafeSet} {kept : List Char} (keeps : Keeps safe kept) :
    IsExact (encode safe) kept where
  spells text := by
    rw [toList_encode]
    exact keeps.spells_encodeBytes _
  ascii text character member := by
    obtain ⟨byte, written, same⟩ := keeps.exists_byte_of_mem_encode member
    rw [same]
    exact Bytes.toNat_lt_of_lt (keeps.lt_of_isWritten written)
  apart text character member isSeparator := by
    obtain ⟨byte, written, same⟩ := keeps.exists_byte_of_mem_encode member
    exact keeps.not_separator written character isSeparator same
  unchanged text := by simp only [keeps.encode_eq_self_iff, keeps.chooses]
  decodes := keeps.decodeText?_encode
  injective := keeps.encode_injective
  decodesForm bytes written spells := keeps.decodeText?_of_spells spells
  encodesAgain bytes written text spells decoded := by
    rw [keeps.decodeText?_of_spells spells, Option.bind_some] at decoded
    rw [encode, Bytes.ofText_of_toText? decoded, ← keeps.eq_asciiText_of_spells spells]

/-- Both encoders write a text in one form, which can be read back and is written again. They differ in the
characters that they keep. -/
theorem encoders_are_exact :
    IsExact encodeSegment segmentCharacters ∧ IsExact expandVariable unreservedCharacters :=
  ⟨keeps_segment.isExact, keeps_unreserved.isExact⟩

example : encodeSegment "a:b/é" = "a:b%2F%C3%A9" ∧ expandVariable "a:b/é" = "a%3Ab%2F%C3%A9" := by decide

end ObjectStore.Percent
