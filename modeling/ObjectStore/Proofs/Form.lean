import ObjectStore.Proofs.Percent
import ObjectStore.Url.Form

/-!
Queries read back as the pairs that they were written from, whatever the names and values are.
-/

namespace ObjectStore.Form

/-! ### Names and values -/

def isWritten (byte : UInt8) : Bool :=
  byte == 0x2B || Percent.isWritten isKept byte

theorem isKept_iff {byte : UInt8} : isKept byte = true ↔ Percent.isAlphanumeric byte = true ∨
    byte.toNat = 0x2A ∨ byte.toNat = 0x2D ∨ byte.toNat = 0x2E ∨ byte.toNat = 0x5F := by
  simp only [isKept, Bool.or_eq_true, beq_iff_eq, ← UInt8.toNat_inj, UInt8.reduceToNat, or_assoc]

theorem isWritten_iff {byte : UInt8} : isWritten byte = true ↔
    byte.toNat = 0x2B ∨ Percent.isWritten isKept byte = true := by
  simp only [isWritten, Bool.or_eq_true, beq_iff_eq, ← UInt8.toNat_inj, UInt8.reduceToNat]

theorem isPlain_isKept : Percent.IsPlain isKept := by
  refine ⟨fun byte kept => ?_, rfl⟩
  rw [isKept_iff, Percent.isAlphanumeric_iff] at kept
  apply Bytes.lt_of_toNat_lt
  omega

theorem isWritten_flatMap (bytes : Bytes) : ∀ byte ∈ bytes.flatMap encodeByte, isWritten byte = true := by
  intro byte member
  obtain ⟨source, _, inPiece⟩ := List.mem_flatMap.1 member
  unfold encodeByte at inPiece
  split at inPiece
  · rw [List.mem_singleton.1 inPiece]
    rfl
  · have inPlain : byte ∈ Percent.encodeBytes isKept [source] := by
      simpa [Percent.encodeBytes] using inPiece
    rw [isWritten, Percent.isWritten_encodeBytes isKept _ byte inPlain, Bool.or_true]

theorem isWritten_bounds (byte : UInt8) (written : isWritten byte = true) :
    byte < 0x80 ∧ byte ≠ 0x26 ∧ byte ≠ 0x3D := by
  rw [isWritten_iff, Percent.isWritten_iff, isKept_iff, Percent.isAlphanumeric_iff, Percent.isUpperHex_iff] at written
  simp only [UInt8.lt_iff_toNat_lt, ne_eq, ← UInt8.toNat_inj, UInt8.reduceToNat]
  omega

theorem ofText_encode (text : String) : Bytes.ofText (encode text) = (Bytes.ofText text).flatMap encodeByte := by
  apply Percent.ofText_asciiText
  intro byte member
  exact (isWritten_bounds byte (isWritten_flatMap _ byte member)).1

theorem isWritten_encode (text : String) : ∀ byte ∈ Bytes.ofText (encode text), isWritten byte = true := by
  rw [ofText_encode]
  exact isWritten_flatMap _

theorem flatMap_encodeByte_of_kept {bytes : Bytes} (kept : ∀ byte ∈ bytes, isKept byte = true) :
    bytes.flatMap encodeByte = bytes := by
  have notBlank (byte : UInt8) (kept : isKept byte = true) : (byte == 0x20) = false := by
    rw [isKept_iff, Percent.isAlphanumeric_iff] at kept
    simp only [beq_eq_false_iff_ne, ne_eq, ← UInt8.toNat_inj, UInt8.reduceToNat]
    omega
  induction bytes with
  | nil => rfl
  | cons byte rest ih =>
      have isKept := kept byte (by simp)
      rw [List.flatMap_cons, ih fun other member => kept other (by simp [member]), encodeByte,
        notBlank byte isKept, if_neg Bool.false_ne_true, Percent.encodeByte, if_pos isKept]
      rfl

theorem encode_of_kept {text : String} (kept : ∀ byte ∈ Bytes.ofText text, isKept byte = true) :
    encode text = text := by
  apply Bytes.ofText_injective
  rw [ofText_encode, flatMap_encodeByte_of_kept kept]

/-! ### Decoding -/

theorem decodeLenient_cons_of_ne {byte : UInt8} (differs : (byte == 0x25) = false) (rest : Bytes) :
    Percent.decodeLenient (byte :: rest) = byte :: Percent.decodeLenient rest := by
  match rest with
  | [] => rfl
  | [_] => rfl
  | _ :: _ :: _ => rw [Percent.decodeLenient, differs, if_neg Bool.false_ne_true]

theorem decodeLenient_escape (byte : UInt8) (rest : Bytes) :
    Percent.decodeLenient (Percent.escape byte ++ rest) = byte :: Percent.decodeLenient rest := by
  simp only [Percent.escape, List.cons_append, List.nil_append, Percent.decodeLenient, beq_self_eq_true, if_true,
    (Percent.hexDigit_upper byte).1, (Percent.hexDigit_lower byte).1, Percent.join_halves]

def blankOfPlus (byte : UInt8) : UInt8 :=
  if byte == 0x2B then 0x20 else byte

theorem map_blankOfPlus_encodeByte (byte : UInt8) (differs : (byte == 0x20) = false) :
    (encodeByte byte).map blankOfPlus = Percent.encodeByte isKept byte := by
  have written : ∀ other ∈ Percent.encodeBytes isKept [byte], blankOfPlus other = other := by
    intro other member
    have written := Percent.isWritten_encodeBytes isKept _ other member
    have notPlus : (other == 0x2B) = false := by
      rw [Percent.isWritten_iff, isKept_iff, Percent.isAlphanumeric_iff, Percent.isUpperHex_iff] at written
      simp only [beq_eq_false_iff_ne, ne_eq, ← UInt8.toNat_inj, UInt8.reduceToNat]
      omega
    rw [blankOfPlus, notPlus, if_neg Bool.false_ne_true]
  have single : Percent.encodeBytes isKept [byte] = Percent.encodeByte isKept byte := by
    simp [Percent.encodeBytes]
  rw [single] at written
  rw [encodeByte, differs, if_neg Bool.false_ne_true, List.map_congr_left written, List.map_id']

theorem decodeLenient_flatMap (bytes : Bytes) :
    Percent.decodeLenient ((bytes.flatMap encodeByte).map blankOfPlus) = bytes := by
  induction bytes with
  | nil => rfl
  | cons byte rest ih =>
      rw [List.flatMap_cons, List.map_append]
      by_cases isBlank : (byte == 0x20) = true
      · have same : byte = 0x20 := by simpa using isBlank
        subst same
        change Percent.decodeLenient (0x20 :: (rest.flatMap encodeByte).map blankOfPlus) = _
        rw [decodeLenient_cons_of_ne (by decide), ih]
      · rw [map_blankOfPlus_encodeByte byte (by simpa using isBlank), Percent.encodeByte]
        split
        · rename_i kept
          have differs : (byte == 0x25) = false := by
            rw [beq_eq_false_iff_ne]
            rintro rfl
            rw [isPlain_isKept.mark] at kept
            cases kept
          rw [List.singleton_append, decodeLenient_cons_of_ne differs, ih]
        · rw [decodeLenient_escape, ih]

theorem decode_encode (text : String) : decode (Bytes.ofText (encode text)) = text := by
  rw [ofText_encode, decode]
  change Bytes.toTextLossy (Percent.decodeLenient (((Bytes.ofText text).flatMap encodeByte).map blankOfPlus)) = text
  rw [decodeLenient_flatMap, Bytes.toTextLossy_ofText]

/-! ### Pairs -/

theorem parsePair_ofText (pair : String × String) : parsePair (Bytes.ofText (pairText pair)) = pair := by
  have bytes : Bytes.ofText (pairText pair) =
      Bytes.ofText (encode pair.1) ++ 0x3D :: Bytes.ofText (encode pair.2) := by
    rw [pairText, Bytes.ofText_append, Bytes.ofText_append, List.append_assoc]
    rfl
  have name : ∀ byte ∈ Bytes.ofText (encode pair.1), (byte != 0x3D) = true := by
    intro byte member
    simpa using (isWritten_bounds byte (isWritten_encode _ byte member)).2.2
  rw [parsePair, bytes, List.takeWhile_append_of_pos name, List.dropWhile_append_of_pos name]
  simp [decode_encode]

theorem splitBytes_append {piece : Bytes} (inside : ∀ byte ∈ piece, byte ≠ 0x26) {rest : Bytes}
    {pieces : List Bytes} (split : splitBytes 0x26 rest = [] :: pieces) :
    splitBytes 0x26 (piece ++ rest) = piece :: pieces := by
  induction piece with
  | nil => exact split
  | cons byte piece ih =>
      have differs : ¬((byte == 0x26) = true) := by simpa using inside byte (by simp)
      rw [List.cons_append, splitBytes, if_neg differs, ih fun other member => inside other (by simp [member])]

theorem splitBytes_pairs (first : String × String) (rest : List (String × String)) :
    splitBytes 0x26 (Bytes.ofText (joinPairs (first :: rest))) =
      (first :: rest).map fun pair => Bytes.ofText (pairText pair) := by
  have inside (pair : String × String) : ∀ byte ∈ Bytes.ofText (pairText pair), byte ≠ 0x26 := by
    intro byte member
    rw [pairText, Bytes.ofText_append, Bytes.ofText_append] at member
    simp only [List.mem_append] at member
    rcases member with (inName | isMark) | inValue
    · exact (isWritten_bounds byte (isWritten_encode _ byte inName)).2.1
    · rw [List.mem_singleton.1 isMark]
      decide
    · exact (isWritten_bounds byte (isWritten_encode _ byte inValue)).2.1
  induction rest generalizing first with
  | nil =>
      have bytes : Bytes.ofText (joinPairs [first]) = Bytes.ofText (pairText first) ++ [] := by
        simp [joinPairs]
      rw [bytes, splitBytes_append (inside first) rfl]
      rfl
  | cons second rest ih =>
      have bytes : Bytes.ofText (joinPairs (first :: second :: rest)) =
          Bytes.ofText (pairText first) ++ 0x26 :: Bytes.ofText (joinPairs (second :: rest)) := by
        rw [joinPairs, List.map_cons, List.map_cons, String.intercalate_cons_cons, Bytes.ofText_append,
          Bytes.ofText_append, List.append_assoc]
        rfl
      have split : splitBytes 0x26 (0x26 :: Bytes.ofText (joinPairs (second :: rest))) =
          [] :: (second :: rest).map fun pair => Bytes.ofText (pairText pair) := by
        rw [splitBytes, if_pos (by rfl), ih second]
      rw [bytes, splitBytes_append (inside first) split]
      rfl

theorem parsePairs_joinPairs (pairs : List (String × String)) : parsePairs (joinPairs pairs) = pairs := by
  cases pairs with
  | nil => rfl
  | cons first rest =>
      have notEmpty : ∀ piece ∈ (first :: rest).map fun pair => Bytes.ofText (pairText pair),
          (!piece.isEmpty) = true := by
        intro piece member
        obtain ⟨pair, _, rfl⟩ := List.mem_map.1 member
        rw [pairText, Bytes.ofText_append, Bytes.ofText_append]
        simp [show Bytes.ofText "=" = [0x3D] from rfl]
      rw [parsePairs, splitBytes_pairs, List.filter_eq_self.2 notEmpty, List.map_map]
      exact (List.map_congr_left fun pair _ => parsePair_ofText pair).trans (List.map_id _)

end ObjectStore.Form
