import Mathlib.Data.String.Basic
import ObjectStore.Bytes

/-!
The bytes of a text: those of its characters one after the other. They read back as the text, they are in
the order of the characters, and a character outside ASCII has no byte inside it.
-/

namespace ObjectStore.Bytes

theorem ofText_eq_flatMap (text : String) : ofText text = text.toList.flatMap String.utf8EncodeChar := by
  have bytes := String.toByteArray_ofList (l := text.toList)
  rw [String.ofList_toList] at bytes
  rw [ofText, bytes, List.utf8Encode, List.data_toByteArray]

theorem ofText_ofList (characters : List Char) :
    ofText (String.ofList characters) = characters.flatMap String.utf8EncodeChar := by
  rw [ofText_eq_flatMap, String.toList_ofList]

@[simp] theorem ofText_append (left right : String) : ofText (left ++ right) = ofText left ++ ofText right := by
  simp [ofText_eq_flatMap]

@[simp] theorem toText?_ofText (text : String) : toText? (ofText text) = some text := by
  have same : (⟨(ofText text).toArray⟩ : ByteArray) = text.toByteArray := by
    simp [ofText]
  rw [toText?, same, String.fromUTF8?, dif_pos text.isValidUTF8]
  rfl

theorem ofText_of_toText? {bytes : Bytes} {text : String} (read : toText? bytes = some text) : ofText text = bytes := by
  unfold toText? String.fromUTF8? at read
  split at read
  · cases read
    rfl
  · cases read

theorem toTextLossy_ofText (text : String) : toTextLossy (ofText text) = text := by
  simp [toTextLossy]

theorem ofText_injective {left right : String} (same : ofText left = ofText right) : left = right := by
  have read := toText?_ofText left
  rw [same, toText?_ofText] at read
  exact (Option.some.inj read).symm

/-! ### Single characters -/

theorem utf8EncodeChar_of_lt {character : Char} (isAscii : character.toNat < 0x80) :
    String.utf8EncodeChar character = [UInt8.ofNat character.toNat] := by
  have small : character.val.toNat ≤ 0x7F := Nat.le_of_lt_succ isAscii
  rw [String.utf8EncodeChar]
  simp only [if_pos small]
  rfl

theorem le_of_mem_utf8EncodeChar {character : Char} (notAscii : 0x80 ≤ character.toNat) {byte : UInt8}
    (member : byte ∈ String.utf8EncodeChar character) : 0x80 ≤ byte := by
  have large : ¬character.val.toNat ≤ 0x7F := Nat.not_le.2 notAscii
  rw [String.utf8EncodeChar] at member
  simp only [if_neg large] at member
  rw [UInt8.le_iff_toNat_le]
  change 0x80 ≤ byte.toNat
  split at member
  · simp only [List.mem_cons, List.not_mem_nil, or_false] at member
    rcases member with rfl | rfl <;> (rw [UInt8.toNat_ofNat']; omega)
  · split at member
    · simp only [List.mem_cons, List.not_mem_nil, or_false] at member
      rcases member with rfl | rfl | rfl <;> (rw [UInt8.toNat_ofNat']; omega)
    · simp only [List.mem_cons, List.not_mem_nil, or_false] at member
      rcases member with rfl | rfl | rfl | rfl <;> (rw [UInt8.toNat_ofNat']; omega)

/-! ### Order -/

theorem utf8EncodeChar_append_lt {left right : Char} (less : left < right) (behind otherBehind : Bytes) :
    String.utf8EncodeChar left ++ behind < String.utf8EncodeChar right ++ otherBehind := by
  have values : left.val.toNat < right.val.toNat := UInt32.lt_iff_toNat_lt.1 less
  have bound : right.val.toNat < 0x110000 := by
    have isScalar := right.valid
    simp only [UInt32.isValidChar, Nat.isValidChar] at isScalar
    omega
  simp only [String.utf8EncodeChar]
  generalize left.val.toNat = value at values ⊢
  generalize right.val.toNat = otherValue at values bound ⊢
  -- The first byte tells how many there are, so that encodings of different lengths differ in it already.
  split_ifs <;>
  · simp only [List.cons_append, List.nil_append, List.cons_lt_cons_iff, UInt8.lt_iff_toNat_lt, ← UInt8.toNat_inj,
      UInt8.toNat_ofNat']
    simp (disch := omega) only [Nat.mod_eq_of_lt]
    omega

theorem ofText_lt {left right : String} (less : left < right) : ofText left < ofText right := by
  rw [ofText_eq_flatMap, ofText_eq_flatMap]
  have characters := String.lt_iff_toList_lt.1 less
  generalize left.toList = short at characters ⊢
  generalize right.toList = long at characters ⊢
  induction short generalizing long with
  | nil =>
      cases long with
      | nil => exact absurd characters (List.not_lt_nil _)
      | cons character rest =>
          have notEmpty := List.append_ne_nil_of_left_ne_nil (String.utf8EncodeChar_ne_nil (c := character))
            (rest.flatMap String.utf8EncodeChar)
          obtain ⟨byte, bytes, same⟩ := List.exists_cons_of_ne_nil notEmpty
          rw [List.flatMap_cons, same]
          exact List.nil_lt_cons _ _
  | cons character rest ih =>
      cases long with
      | nil => exact absurd characters (List.not_lt_nil _)
      | cons other behind =>
          rw [List.flatMap_cons, List.flatMap_cons]
          rcases List.cons_lt_cons_iff.1 characters with below | ⟨rfl, later⟩
          · exact utf8EncodeChar_append_lt below _ _
          · exact List.append_left_lt (ih behind later)

/-! ### ASCII -/

def IsAscii (bytes : Bytes) : Prop :=
  ∀ byte ∈ bytes, byte < 0x80

theorem toNat_lt_of_lt {byte : UInt8} (isAscii : byte < 0x80) : byte.toNat < 0x80 :=
  UInt8.lt_iff_toNat_lt.1 isAscii

theorem lt_of_toNat_lt {byte : UInt8} (isAscii : byte.toNat < 0x80) : byte < 0x80 :=
  UInt8.lt_iff_toNat_lt.2 isAscii

theorem toNat_char {byte : UInt8} (isAscii : byte < 0x80) : (Char.ofNat byte.toNat).toNat = byte.toNat := by
  have small := toNat_lt_of_lt isAscii
  have isScalar : byte.toNat.isValidChar := Or.inl (by omega)
  rw [Char.ofNat, dif_pos isScalar]
  rfl

def toChars (bytes : Bytes) : List Char :=
  bytes.map fun byte => Char.ofNat byte.toNat

theorem flatMap_toChars {bytes : Bytes} (areAscii : IsAscii bytes) :
    (toChars bytes).flatMap String.utf8EncodeChar = bytes := by
  induction bytes with
  | nil => rfl
  | cons byte rest ih =>
      have isAscii := areAscii byte (by simp)
      have same := toNat_char isAscii
      have small := toNat_lt_of_lt isAscii
      rw [toChars, List.map_cons, List.flatMap_cons, utf8EncodeChar_of_lt (by omega), same,
        UInt8.ofNat_toNat, ← toChars, ih fun other member => areAscii other (by simp [member])]
      rfl

theorem toList_of_isAscii {text : String} (areAscii : IsAscii (ofText text)) :
    text.toList = toChars (ofText text) := by
  have same : text = String.ofList (toChars (ofText text)) := by
    apply ofText_injective
    rw [ofText_ofList, flatMap_toChars areAscii]
  rw [← String.toList_ofList (l := toChars (ofText text)), ← same]

theorem forall_mem_toList {text : String} (areAscii : IsAscii (ofText text)) (holds : Char → Bool)
    (each : ∀ byte ∈ ofText text, holds (Char.ofNat byte.toNat) = true) :
    ∀ character ∈ text.toList, holds character = true := by
  intro character member
  rw [toList_of_isAscii areAscii] at member
  obtain ⟨byte, inBytes, rfl⟩ := List.mem_map.1 member
  exact each byte inBytes

end ObjectStore.Bytes
