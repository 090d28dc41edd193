import ObjectStore.Percent
import ObjectStore.Proofs.Bytes

/-!
Percent-encoding loses nothing: what a safe set encodes is ASCII, and decodes to the bytes it was made
of.
-/

namespace ObjectStore.Percent

open Bytes (IsAscii toChars)

structure IsPlain (safe : SafeSet) : Prop where
  ascii : ∀ byte, safe byte = true → byte < 0x80
  mark : safe 0x25 = false

def isUpperHex (byte : UInt8) : Bool :=
  (0x30 ≤ byte && byte ≤ 0x39) || (0x41 ≤ byte && byte ≤ 0x46)

/-- The bytes of encoded text: those that are kept, and those of escapes. -/
def isWritten (safe : SafeSet) (byte : UInt8) : Bool :=
  safe byte || byte == 0x25 || isUpperHex byte

/-! ### Bytes by their numbers -/

theorem isAlphanumeric_iff {byte : UInt8} : isAlphanumeric byte = true ↔
    (0x30 ≤ byte.toNat ∧ byte.toNat ≤ 0x39) ∨ (0x41 ≤ byte.toNat ∧ byte.toNat ≤ 0x5A) ∨
      (0x61 ≤ byte.toNat ∧ byte.toNat ≤ 0x7A) := by
  simp only [isAlphanumeric, Bool.or_eq_true, Bool.and_eq_true, decide_eq_true_eq, UInt8.le_iff_toNat_le,
    UInt8.reduceToNat, or_assoc]

theorem isUpperHex_iff {byte : UInt8} : isUpperHex byte = true ↔
    (0x30 ≤ byte.toNat ∧ byte.toNat ≤ 0x39) ∨ (0x41 ≤ byte.toNat ∧ byte.toNat ≤ 0x46) := by
  simp only [isUpperHex, Bool.or_eq_true, Bool.and_eq_true, decide_eq_true_eq, UInt8.le_iff_toNat_le,
    UInt8.reduceToNat]

theorem isWritten_iff {safe : SafeSet} {byte : UInt8} : isWritten safe byte = true ↔
    safe byte = true ∨ byte.toNat = 0x25 ∨ isUpperHex byte = true := by
  simp only [isWritten, Bool.or_eq_true, beq_iff_eq, ← UInt8.toNat_inj, UInt8.reduceToNat, or_assoc]

theorem unreserved_iff {byte : UInt8} : unreserved byte = true ↔
    isAlphanumeric byte = true ∨ byte.toNat = 0x2D ∨ byte.toNat = 0x2E ∨ byte.toNat = 0x5F ∨ byte.toNat = 0x7E := by
  simp only [unreserved, Bool.or_eq_true, beq_iff_eq, ← UInt8.toNat_inj, UInt8.reduceToNat, or_assoc]

theorem segment_iff {byte : UInt8} : Percent.segment byte = true ↔
    unreserved byte = true ∨ byte.toNat = 0x21 ∨ byte.toNat = 0x24 ∨ (0x26 ≤ byte.toNat ∧ byte.toNat ≤ 0x2C) ∨
      byte.toNat = 0x3A ∨ byte.toNat = 0x3B ∨ byte.toNat = 0x3D ∨ byte.toNat = 0x40 := by
  simp only [Percent.segment, Bool.or_eq_true, Bool.and_eq_true, decide_eq_true_eq, beq_iff_eq,
    UInt8.le_iff_toNat_le, ← UInt8.toNat_inj, UInt8.reduceToNat, or_assoc]

/-! ### Escapes -/

theorem toNat_upper (byte : UInt8) : (byte >>> 4).toNat = byte.toNat / 16 := by
  rw [UInt8.toNat_shiftRight, Nat.shiftRight_eq_div_pow]
  rfl

theorem toNat_lower (byte : UInt8) : (byte &&& 0xF).toNat = byte.toNat % 16 :=
  (UInt8.toNat_and byte 0xF).trans (Nat.and_two_pow_sub_one_eq_mod byte.toNat 4)

theorem join_halves (byte : UInt8) : (byte >>> 4) <<< 4 ||| (byte &&& 0xF) = byte := by
  have bound := byte.toNat_lt
  have shifted : ((byte >>> 4) <<< 4).toNat = (byte.toNat / 16) <<< 4 := by
    have amount : UInt8.toNat 4 % 8 = 4 := rfl
    rw [UInt8.toNat_shiftLeft, toNat_upper, amount, Nat.shiftLeft_eq]
    omega
  rw [← UInt8.toNat_inj, UInt8.toNat_or, shifted, toNat_lower,
    ← Nat.shiftLeft_add_eq_or_of_lt (Nat.mod_lt _ (by omega)), Nat.shiftLeft_eq]
  omega

theorem hexDigit_half {half : UInt8} (small : half.toNat < 16) :
    hexValue? (hexDigit half) = some half ∧ isUpperHex (hexDigit half) = true := by
  have halves : ∀ number < 16, hexValue? (hexDigit (UInt8.ofNat number)) = some (UInt8.ofNat number) ∧
      isUpperHex (hexDigit (UInt8.ofNat number)) = true := by decide
  have found := halves half.toNat small
  rwa [UInt8.ofNat_toNat] at found

theorem hexDigit_upper (byte : UInt8) : hexValue? (hexDigit (byte >>> 4)) = some (byte >>> 4) ∧
    isUpperHex (hexDigit (byte >>> 4)) = true := by
  have bound := byte.toNat_lt
  apply hexDigit_half
  rw [toNat_upper]
  omega

theorem hexDigit_lower (byte : UInt8) : hexValue? (hexDigit (byte &&& 0xF)) = some (byte &&& 0xF) ∧
    isUpperHex (hexDigit (byte &&& 0xF)) = true := by
  apply hexDigit_half
  rw [toNat_lower]
  omega

theorem isWritten_escape (safe : SafeSet) (byte other : UInt8) (member : other ∈ escape byte) :
    isWritten safe other = true := by
  simp only [escape, List.mem_cons, List.not_mem_nil, or_false] at member
  rcases member with rfl | rfl | rfl
  · simp [isWritten]
  · rw [isWritten, (hexDigit_upper byte).2, Bool.or_true]
  · rw [isWritten, (hexDigit_lower byte).2, Bool.or_true]

theorem isWritten_encodeBytes (safe : SafeSet) (bytes : Bytes) :
    ∀ byte ∈ encodeBytes safe bytes, isWritten safe byte = true := by
  intro byte member
  obtain ⟨source, _, inPiece⟩ := List.mem_flatMap.1 member
  unfold encodeByte at inPiece
  split at inPiece
  · rename_i kept
    rw [List.mem_singleton.1 inPiece]
    simp [isWritten, kept]
  · exact isWritten_escape safe source byte inPiece

variable {safe : SafeSet}

theorem IsPlain.lt_of_isWritten (plain : IsPlain safe) {byte : UInt8}
    (written : isWritten safe byte = true) : byte < 0x80 := by
  rcases isWritten_iff.1 written with kept | other
  · exact plain.ascii byte kept
  · rw [isUpperHex_iff] at other
    apply Bytes.lt_of_toNat_lt
    omega

theorem IsPlain.isAscii (plain : IsPlain safe) (bytes : Bytes) : IsAscii (encodeBytes safe bytes) :=
  fun _ member => plain.lt_of_isWritten (isWritten_encodeBytes safe bytes _ member)

theorem ofText_asciiText {bytes : Bytes} (areAscii : IsAscii bytes) : Bytes.ofText (asciiText bytes) = bytes := by
  rw [asciiText, Bytes.ofText_ofList]
  exact Bytes.flatMap_toChars areAscii

theorem IsPlain.ofText_encode (plain : IsPlain safe) (text : String) :
    Bytes.ofText (encode safe text) = encodeBytes safe (Bytes.ofText text) :=
  ofText_asciiText (plain.isAscii _)

/-! ### Decoding -/

theorem decode?_cons_of_ne {byte : UInt8} (differs : byte ≠ 0x25) (rest : Bytes) :
    decode? (byte :: rest) = (decode? rest).map fun tail => byte :: tail := by
  rw [decode?.eq_def]
  split
  · rename_i same
    cases same
  · rename_i same
    exact absurd (List.cons.inj same).1 differs
  · rename_i same
    obtain ⟨rfl, rfl⟩ := List.cons.inj same
    rw [if_neg (by simpa using differs)]

theorem decode?_escape (byte : UInt8) (rest : Bytes) :
    decode? (escape byte ++ rest) = (decode? rest).map fun tail => byte :: tail := by
  simp only [escape, List.cons_append, List.nil_append, decode?, (hexDigit_upper byte).1,
    (hexDigit_lower byte).1, join_halves]

theorem IsPlain.decode?_encodeBytes (plain : IsPlain safe) (bytes : Bytes) :
    decode? (encodeBytes safe bytes) = some bytes := by
  induction bytes with
  | nil => rfl
  | cons byte rest ih =>
      rw [encodeBytes, List.flatMap_cons, ← encodeBytes, encodeByte]
      split
      · rename_i kept
        have differs : byte ≠ 0x25 := by
          rintro rfl
          rw [plain.mark] at kept
          cases kept
        rw [List.singleton_append, decode?_cons_of_ne differs, ih]
        rfl
      · rw [decode?_escape, ih]
        rfl

theorem IsPlain.decodeText?_encode (plain : IsPlain safe) (text : String) :
    decodeText? (encode safe text) = some (Bytes.ofText text) := by
  rw [decodeText?, plain.ofText_encode, plain.decode?_encodeBytes]

theorem encodeBytes_of_safe {bytes : Bytes} (kept : ∀ byte ∈ bytes, safe byte = true) :
    encodeBytes safe bytes = bytes := by
  induction bytes with
  | nil => rfl
  | cons byte rest ih =>
      rw [encodeBytes, List.flatMap_cons, ← encodeBytes, ih fun other member => kept other (by simp [member]),
        encodeByte, if_pos (kept byte (by simp))]
      rfl

theorem encode_of_safe {text : String} (areAscii : IsAscii (Bytes.ofText text))
    (kept : ∀ byte ∈ Bytes.ofText text, safe byte = true) : encode safe text = text := by
  apply Bytes.ofText_injective
  rw [encode, encodeBytes_of_safe kept, ofText_asciiText areAscii]

/-! ### The safe sets -/

theorem isPlain_segment : IsPlain Percent.segment := by
  refine ⟨fun byte kept => ?_, rfl⟩
  rw [segment_iff, unreserved_iff, isAlphanumeric_iff] at kept
  apply Bytes.lt_of_toNat_lt
  omega

theorem isPlain_unreserved : IsPlain unreserved :=
  ⟨fun byte kept => isPlain_segment.ascii byte (segment_iff.2 (Or.inl kept)), rfl⟩

end ObjectStore.Percent
