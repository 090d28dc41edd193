import ObjectStore.Percent.Cursor
import ObjectStore.Proofs.Escaping

/-!
The texts that can be decoded. A text is read from left to right in pieces, an escape or another byte, and two digits
must follow every mark that is met. Each piece then stands for one byte. A loop over the positions finds the same
bytes and stays within the text.
-/

namespace ObjectStore.Percent

/-! ### Pieces -/

def lowerDigits : List Char := "0123456789abcdef".toList

def IsDigit (byte : UInt8) (value : Nat) : Prop :=
  ∃ digit : Char, digit.toNat = byte.toNat ∧ (upperDigits[value]? = some digit ∨ lowerDigits[value]? = some digit)

def HasDigit (text : Bytes) (position : Nat) : Prop :=
  ∃ byte value, text[position]? = some byte ∧ IsDigit byte value

/-- What is read at once: an escape of three bytes, or one other byte. -/
inductive Piece where
  | plain (byte : UInt8) (notMark : byte ≠ 0x25)
  | escape (high low : UInt8) (upper lower : Nat) (isHigh : IsDigit high upper) (isLow : IsDigit low lower)

namespace Piece

def text : Piece → Bytes
  | plain byte _ => [byte]
  | escape high low .. => [0x25, high, low]

def byte : Piece → UInt8
  | plain byte _ => byte
  | escape _ _ upper lower .. => UInt8.ofNat (16 * upper + lower)

end Piece

def width (byte : UInt8) : Nat :=
  if byte = 0x25 then 3 else 1

/-- The positions that are met when a text is read from left to right. -/
inductive Meets (text : Bytes) : Nat → Prop
  | start : Meets text 0
  | next {position : Nat} {byte : UInt8} (met : Meets text position) (found : text[position]? = some byte) :
      Meets text (position + width byte)

def IsWellFormed (text : Bytes) : Prop :=
  ∀ position, Meets text position → text[position]? = some 0x25 →
    HasDigit text (position + 1) ∧ HasDigit text (position + 2)

/-- The one way to read a text in pieces, which start at the positions that are met. -/
structure IsReading (text : Bytes) (pieces : List Piece) : Prop where
  joined : pieces.flatMap Piece.text = text
  only : ∀ others : List Piece, others.flatMap Piece.text = text → others = pieces
  starts : ∀ position, Meets text position ↔ ∃ front, front <+: pieces ∧ (front.flatMap Piece.text).length = position

def IsBroken (text : Bytes) : Prop :=
  text[0]? = some 0x25 ∧ ¬(HasDigit text 1 ∧ HasDigit text 2)

/-! ### Digits -/

theorem IsDigit.lt {byte : UInt8} {value : Nat} (isDigit : IsDigit byte value) : value < 16 := by
  obtain ⟨_, _, upper | lower⟩ := isDigit
  · exact (List.getElem?_eq_some_iff.1 upper).1
  · exact (List.getElem?_eq_some_iff.1 lower).1

theorem IsDigit.hexValue?_eq {byte : UInt8} {value : Nat} (isDigit : IsDigit byte value) :
    hexValue? byte = some (UInt8.ofNat value) := by
  have uppers : ∀ number < 16, (upperDigits[number]?.map fun digit => hexValue? (UInt8.ofNat digit.toNat)) =
      some (some (UInt8.ofNat number)) := by decide
  have lowers : ∀ number < 16, (lowerDigits[number]?.map fun digit => hexValue? (UInt8.ofNat digit.toNat)) =
      some (some (UInt8.ofNat number)) := by decide
  have small := isDigit.lt
  obtain ⟨digit, same, upper | lower⟩ := isDigit
  · have read := uppers value small
    rwa [upper, Option.map_some, same, UInt8.ofNat_toNat, Option.some.injEq] at read
  · have read := lowers value small
    rwa [lower, Option.map_some, same, UInt8.ofNat_toNat, Option.some.injEq] at read

theorem isDigit_of_hexValue? {byte value : UInt8} (read : hexValue? byte = some value) : IsDigit byte value.toNat := by
  have each : ∀ number < 256, ((hexValue? (UInt8.ofNat number)).all fun value =>
      upperDigits[value.toNat]?.any (fun digit => digit.toNat == number) ||
        lowerDigits[value.toNat]?.any (fun digit => digit.toNat == number)) = true := by decide +kernel
  have found := each byte.toNat byte.toNat_lt
  rw [UInt8.ofNat_toNat, read] at found
  simp only [Option.all_some, Bool.or_eq_true, Option.any_eq_true, beq_iff_eq] at found
  rcases found with ⟨digit, upper, same⟩ | ⟨digit, lower, same⟩
  · exact ⟨digit, same, Or.inl upper⟩
  · exact ⟨digit, same, Or.inr lower⟩

theorem hexValue?_eq_none_iff {byte : UInt8} : hexValue? byte = none ↔ ∀ value, ¬IsDigit byte value := by
  constructor
  · intro isNone value isDigit
    rw [isDigit.hexValue?_eq] at isNone
    cases isNone
  · intro noDigit
    cases read : hexValue? byte with
    | none => rfl
    | some value => exact absurd (isDigit_of_hexValue? read) (noDigit _)

theorem not_isDigit_mark (value : Nat) : ¬IsDigit 0x25 value :=
  hexValue?_eq_none_iff.1 rfl value

theorem IsDigit.unique {byte : UInt8} {value other : Nat} (isDigit : IsDigit byte value)
    (isOther : IsDigit byte other) : value = other := by
  have small := isDigit.lt
  have otherSmall := isOther.lt
  have same := isDigit.hexValue?_eq.symm.trans isOther.hexValue?_eq
  rw [Option.some.injEq, ← UInt8.toNat_inj, UInt8.toNat_ofNat', UInt8.toNat_ofNat'] at same
  omega

theorem join_digits {upper lower : Nat} (upperBound : upper < 16) (lowerBound : lower < 16) :
    UInt8.ofNat upper <<< 4 ||| UInt8.ofNat lower = UInt8.ofNat (16 * upper + lower) := by
  have halves := join_halves (UInt8.ofNat (16 * upper + lower))
  have high : UInt8.ofNat (16 * upper + lower) >>> 4 = UInt8.ofNat upper := by
    rw [← UInt8.toNat_inj, toNat_upper, UInt8.toNat_ofNat', UInt8.toNat_ofNat']
    omega
  have low : UInt8.ofNat (16 * upper + lower) &&& 0xF = UInt8.ofNat lower := by
    rw [← UInt8.toNat_inj, toNat_lower, UInt8.toNat_ofNat', UInt8.toNat_ofNat']
    omega
  rwa [high, low] at halves

/-! ### One piece -/

theorem Piece.text_ne_nil (piece : Piece) : piece.text ≠ [] := by
  cases piece <;> simp [text]

theorem Piece.length_text_pos (piece : Piece) : 0 < piece.text.length :=
  List.length_pos_iff.2 piece.text_ne_nil

theorem Piece.exists_first (piece : Piece) :
    ∃ first, piece.text[0]? = some first ∧ piece.text.length = width first := by
  cases piece with
  | plain byte notMark => exact ⟨byte, rfl, by simp [text, width, notMark]⟩
  | escape high low upper lower isHigh isLow => exact ⟨0x25, rfl, rfl⟩

theorem Piece.text_append_inj {piece other : Piece} {behind otherBehind : Bytes}
    (same : piece.text ++ behind = other.text ++ otherBehind) : piece = other ∧ behind = otherBehind := by
  cases piece with
  | plain byte notMark =>
      cases other with
      | plain otherByte otherNotMark =>
          obtain ⟨rfl, rfl⟩ := List.cons.inj same
          exact ⟨rfl, rfl⟩
      | escape => exact absurd (List.cons.inj same).1 notMark
  | escape high low upper lower isHigh isLow =>
      cases other with
      | plain otherByte otherNotMark => exact absurd (List.cons.inj same).1.symm otherNotMark
      | escape otherHigh otherLow otherUpper otherLower isOtherHigh isOtherLow =>
          simp only [text, List.cons_append, List.nil_append, List.cons.injEq, true_and] at same
          obtain ⟨rfl, rfl, rfl⟩ := same
          obtain rfl := isHigh.unique isOtherHigh
          obtain rfl := isLow.unique isOtherLow
          exact ⟨rfl, rfl⟩

theorem decode?_piece (piece : Piece) (behind : Bytes) :
    decode? (piece.text ++ behind) = (decode? behind).map fun bytes => piece.byte :: bytes := by
  cases piece with
  | plain byte notMark => exact decode?_cons_of_ne notMark behind
  | escape high low upper lower isHigh isLow =>
      simp only [Piece.text, Piece.byte, List.cons_append, List.nil_append, decode?, isHigh.hexValue?_eq,
        isLow.hexValue?_eq, join_digits isHigh.lt isLow.lt]

theorem IsBroken.decode?_eq_none {text : Bytes} (broken : IsBroken text) : decode? text = none := by
  obtain ⟨mark, noDigits⟩ := broken
  rw [decode?.eq_def]
  split
  · cases mark
  · rename_i high low rest
    split
    · rename_i upper lower isUpper isLower
      exact absurd ⟨⟨high, _, rfl, isDigit_of_hexValue? isUpper⟩, ⟨low, _, rfl, isDigit_of_hexValue? isLower⟩⟩ noDigits
    · rfl
  · cases mark
    rfl

theorem nil_or_piece_or_isBroken (text : Bytes) :
    text = [] ∨ (∃ (piece : Piece) (behind : Bytes), text = piece.text ++ behind) ∨ IsBroken text := by
  cases text with
  | nil => exact Or.inl rfl
  | cons first rest =>
      right
      by_cases mark : first = 0x25
      · subst mark
        by_cases digits : HasDigit (0x25 :: rest) 1 ∧ HasDigit (0x25 :: rest) 2
        · left
          obtain ⟨⟨high, upper, foundHigh, isHigh⟩, low, lower, foundLow, isLow⟩ := digits
          match rest, foundHigh, foundLow with
          | _ :: _ :: behind, rfl, rfl => exact ⟨.escape high low upper lower isHigh isLow, behind, rfl⟩
        · exact Or.inr ⟨rfl, digits⟩
      · exact Or.inl ⟨.plain first mark, rest, rfl⟩

/-! ### All pieces -/

theorem exists_pieces (text : Bytes) :
    ∃ (pieces : List Piece) (rest : Bytes), text = pieces.flatMap Piece.text ++ rest ∧ (rest = [] ∨ IsBroken rest) := by
  induction size : text.length using Nat.strongRecOn generalizing text with
  | ind length ih =>
      rcases nil_or_piece_or_isBroken text with isEmpty | ⟨piece, behind, rfl⟩ | broken
      · exact ⟨[], text, rfl, Or.inl isEmpty⟩
      · have shorter : behind.length < length := by
          have notEmpty := piece.length_text_pos
          rw [List.length_append] at size
          omega
        obtain ⟨pieces, rest, rfl, ends⟩ := ih behind.length shorter behind rfl
        exact ⟨piece :: pieces, rest, by rw [List.flatMap_cons, List.append_assoc], ends⟩
      · exact ⟨[], text, rfl, Or.inr broken⟩

theorem decode?_pieces (pieces : List Piece) (behind : Bytes) :
    decode? (pieces.flatMap Piece.text ++ behind) =
      (decode? behind).map fun bytes => pieces.map Piece.byte ++ bytes := by
  induction pieces with
  | nil => simp
  | cons piece rest ih =>
      rw [List.flatMap_cons, List.append_assoc, decode?_piece, ih, Option.map_map]
      rfl

theorem decode?_flatMap (pieces : List Piece) :
    decode? (pieces.flatMap Piece.text) = some (pieces.map Piece.byte) := by
  have decoded := decode?_pieces pieces []
  rwa [List.append_nil, decode?, Option.map_some, List.append_nil] at decoded

theorem decode?_eq_some_iff {text bytes : Bytes} : decode? text = some bytes ↔
    ∃ pieces : List Piece, pieces.flatMap Piece.text = text ∧ pieces.map Piece.byte = bytes := by
  constructor
  · intro decoded
    obtain ⟨pieces, rest, rfl, rfl | broken⟩ := exists_pieces text
    · rw [List.append_nil, decode?_flatMap] at decoded
      exact ⟨pieces, (List.append_nil _).symm, Option.some.inj decoded⟩
    · rw [decode?_pieces, broken.decode?_eq_none] at decoded
      cases decoded
  · rintro ⟨pieces, rfl, rfl⟩
    exact decode?_flatMap pieces

theorem decode?_append {text bytes : Bytes} (decoded : decode? text = some bytes) (behind : Bytes) :
    decode? (text ++ behind) = (decode? behind).map fun rest => bytes ++ rest := by
  obtain ⟨pieces, rfl, rfl⟩ := decode?_eq_some_iff.1 decoded
  exact decode?_pieces pieces behind

theorem eq_of_flatMap_text_eq {pieces others : List Piece}
    (same : others.flatMap Piece.text = pieces.flatMap Piece.text) : others = pieces := by
  induction pieces generalizing others with
  | nil =>
      cases others with
      | nil => rfl
      | cons other rest => exact absurd (List.append_eq_nil_iff.1 same).1 other.text_ne_nil
  | cons piece pieces ih =>
      cases others with
      | nil => exact absurd (List.append_eq_nil_iff.1 same.symm).1 piece.text_ne_nil
      | cons other rest =>
          obtain ⟨rfl, behind⟩ := Piece.text_append_inj same
          rw [ih behind]

theorem length_le_flatMap_text (pieces : List Piece) : pieces.length ≤ (pieces.flatMap Piece.text).length := by
  induction pieces with
  | nil => exact Nat.le_refl _
  | cons piece rest ih =>
      have notEmpty := piece.length_text_pos
      rw [List.length_cons, List.flatMap_cons, List.length_append]
      omega

/-! ### Positions -/

theorem getElem?_behind (front behind : Bytes) (position : Nat) :
    (front ++ behind)[front.length + position]? = behind[position]? := by
  rw [List.getElem?_append_right (Nat.le_add_right _ _), Nat.add_sub_cancel_left]

theorem hasDigit_behind {front behind : Bytes} {position : Nat} :
    HasDigit (front ++ behind) (front.length + position) ↔ HasDigit behind position := by
  simp only [HasDigit, getElem?_behind]

theorem meets_piece_iff {piece : Piece} {behind : Bytes} {position : Nat} :
    Meets (piece.text ++ behind) position ↔
      position = 0 ∨ ∃ later, piece.text.length + later = position ∧ Meets behind later := by
  obtain ⟨first, isFirst, size⟩ := piece.exists_first
  have starts : (piece.text ++ behind)[0]? = some first := by
    rw [List.getElem?_append_left piece.length_text_pos, isFirst]
  constructor
  · intro met
    induction met with
    | start => exact Or.inl rfl
    | @next position byte met found ih =>
        right
        rcases ih with rfl | ⟨later, rfl, metBehind⟩
        · rw [starts, Option.some.injEq] at found
          exact ⟨0, by rw [size, found, Nat.add_comm], .start⟩
        · rw [getElem?_behind] at found
          exact ⟨later + width byte, (Nat.add_assoc _ _ _).symm, .next metBehind found⟩
  · rintro (rfl | ⟨later, rfl, met⟩)
    · exact .start
    · induction met with
      | start =>
          have second := Meets.next .start starts
          rwa [← size, Nat.add_comm] at second
      | @next later byte met found ih =>
          rw [← Nat.add_assoc]
          exact .next ih (by rw [getElem?_behind, found])

theorem meets_nil_iff {position : Nat} : Meets [] position ↔ position = 0 := by
  constructor
  · intro met
    cases met with
    | start => rfl
    | next met found => cases found
  · rintro rfl
    exact .start

theorem meets_flatMap_iff {pieces : List Piece} {position : Nat} :
    Meets (pieces.flatMap Piece.text) position ↔
      ∃ front, front <+: pieces ∧ (front.flatMap Piece.text).length = position := by
  induction pieces generalizing position with
  | nil => simp [meets_nil_iff, eq_comm]
  | cons piece rest ih =>
      rw [List.flatMap_cons, meets_piece_iff]
      constructor
      · rintro (rfl | ⟨later, rfl, met⟩)
        · exact ⟨[], List.nil_prefix, rfl⟩
        · obtain ⟨front, isFront, rfl⟩ := ih.1 met
          exact ⟨piece :: front, List.cons_prefix_cons.2 ⟨rfl, isFront⟩, by
            rw [List.flatMap_cons, List.length_append]⟩
      · rintro ⟨front, isFront, rfl⟩
        rcases List.prefix_cons_iff.1 isFront with rfl | ⟨others, rfl, areFront⟩
        · exact Or.inl rfl
        · right
          exact ⟨_, by rw [List.flatMap_cons, List.length_append], ih.2 ⟨others, areFront, rfl⟩⟩

theorem meets_pieces (pieces : List Piece) (rest : Bytes) :
    Meets (pieces.flatMap Piece.text ++ rest) (pieces.flatMap Piece.text).length := by
  induction pieces with
  | nil => exact .start
  | cons piece pieces ih =>
      rw [List.flatMap_cons, List.append_assoc, List.length_append]
      exact meets_piece_iff.2 (Or.inr ⟨_, rfl, ih⟩)

theorem isReading_flatMap (pieces : List Piece) : IsReading (pieces.flatMap Piece.text) pieces where
  joined := rfl
  only _ same := eq_of_flatMap_text_eq same
  starts _ := meets_flatMap_iff

theorem isWellFormed_piece_iff {piece : Piece} {behind : Bytes} :
    IsWellFormed (piece.text ++ behind) ↔ IsWellFormed behind := by
  constructor
  · intro wellFormed position met mark
    have digits := wellFormed (piece.text.length + position) (meets_piece_iff.2 (Or.inr ⟨position, rfl, met⟩))
      (by rw [getElem?_behind, mark])
    rwa [Nat.add_assoc, Nat.add_assoc, hasDigit_behind, hasDigit_behind] at digits
  · intro wellFormed position met mark
    rcases meets_piece_iff.1 met with rfl | ⟨later, rfl, metBehind⟩
    · cases piece with
      | plain byte notMark => exact absurd (Option.some.inj mark) notMark
      | escape high low upper lower isHigh isLow => exact ⟨⟨high, upper, rfl, isHigh⟩, low, lower, rfl, isLow⟩
    · rw [getElem?_behind] at mark
      rw [Nat.add_assoc, Nat.add_assoc, hasDigit_behind, hasDigit_behind]
      exact wellFormed later metBehind mark

theorem isWellFormed_pieces_iff {pieces : List Piece} {behind : Bytes} :
    IsWellFormed (pieces.flatMap Piece.text ++ behind) ↔ IsWellFormed behind := by
  induction pieces with
  | nil => rfl
  | cons piece rest ih => rw [List.flatMap_cons, List.append_assoc, isWellFormed_piece_iff, ih]

theorem isWellFormed_nil : IsWellFormed [] := by
  intro position _ mark
  cases mark

theorem IsBroken.not_isWellFormed {text : Bytes} (broken : IsBroken text) : ¬IsWellFormed text :=
  fun wellFormed => broken.2 (wellFormed 0 .start broken.1)

theorem isSome_decode?_iff {text : Bytes} : (decode? text).isSome = true ↔ IsWellFormed text := by
  obtain ⟨pieces, rest, rfl, rfl | broken⟩ := exists_pieces text
  · simp only [decode?_pieces, isWellFormed_pieces_iff, isWellFormed_nil, decode?, Option.map_some, Option.isSome_some]
  · simp only [decode?_pieces, isWellFormed_pieces_iff, broken.not_isWellFormed, broken.decode?_eq_none,
      Option.map_none, Option.isSome_none, Bool.false_eq_true]

/-! ### Upper and lower case -/

def SameDigit (digit other : UInt8) : Prop :=
  ∃ value, IsDigit digit value ∧ IsDigit other value

/-- The same text but for the case of digits in escapes. -/
inductive Recased : Bytes → Bytes → Prop
  | done : Recased [] []
  | keep {byte : UInt8} {text other : Bytes} (rest : Recased text other) : Recased (byte :: text) (byte :: other)
  | escape {high otherHigh low otherLow : UInt8} {text other : Bytes} (sameHigh : SameDigit high otherHigh)
      (sameLow : SameDigit low otherLow) (rest : Recased text other) :
      Recased (0x25 :: high :: low :: text) (0x25 :: otherHigh :: otherLow :: other)

theorem hasDigit_of_append_mark {text behind : Bytes} {position : Nat} (within : position ≤ text.length)
    (digit : HasDigit (text ++ 0x25 :: behind) position) : HasDigit text position := by
  obtain ⟨byte, value, found, isDigit⟩ := digit
  rcases Nat.lt_or_eq_of_le within with inside | rfl
  · rw [List.getElem?_append_left inside] at found
    exact ⟨byte, value, found, isDigit⟩
  · rw [List.getElem?_append_right (Nat.le_refl _), Nat.sub_self] at found
    cases found
    exact absurd isDigit (not_isDigit_mark value)

theorem IsBroken.append_mark {text : Bytes} (broken : IsBroken text) (behind : Bytes) :
    IsBroken (text ++ 0x25 :: behind) := by
  obtain ⟨mark, noDigits⟩ := broken
  have notEmpty : 0 < text.length := (List.getElem?_eq_some_iff.1 mark).1
  refine ⟨by rw [List.getElem?_append_left notEmpty, mark], ?_⟩
  rintro ⟨first, second⟩
  have high := hasDigit_of_append_mark notEmpty first
  have longer : 1 < text.length := by
    obtain ⟨_, _, found, _⟩ := high
    exact (List.getElem?_eq_some_iff.1 found).1
  exact noDigits ⟨high, hasDigit_of_append_mark longer second⟩

theorem decode?_escape_congr {high otherHigh low otherLow : UInt8} (sameHigh : SameDigit high otherHigh)
    (sameLow : SameDigit low otherLow) (front behind : Bytes) :
    decode? (front ++ 0x25 :: high :: low :: behind) = decode? (front ++ 0x25 :: otherHigh :: otherLow :: behind) := by
  obtain ⟨pieces, rest, rfl, rfl | broken⟩ := exists_pieces front
  · obtain ⟨upper, isHigh, isOtherHigh⟩ := sameHigh
    obtain ⟨lower, isLow, isOtherLow⟩ := sameLow
    have one := decode?_piece (.escape high low upper lower isHigh isLow) behind
    have other := decode?_piece (.escape otherHigh otherLow upper lower isOtherHigh isOtherLow) behind
    simp only [Piece.text, List.cons_append, List.nil_append] at one other
    rw [List.append_nil, decode?_pieces, decode?_pieces, one, other]
    rfl
  · -- Nothing behind the broken mark is looked at, and it stays broken.
    have isNone (digits : Bytes) := (broken.append_mark digits).decode?_eq_none
    rw [List.append_assoc, List.append_assoc, decode?_pieces, decode?_pieces, isNone, isNone]

theorem Recased.decode?_eq {text other : Bytes} (recased : Recased text other) (front : Bytes) :
    decode? (front ++ text) = decode? (front ++ other) := by
  induction recased generalizing front with
  | done => rfl
  | @keep byte text other rest ih => simpa using ih (front ++ [byte])
  | @escape high otherHigh low otherLow text other sameHigh sameLow rest ih =>
      rw [decode?_escape_congr sameHigh sameLow]
      simpa using ih (front ++ [0x25, otherHigh, otherLow])

/-! ### The loop -/

/-- The loop has come to the start of a piece, with all before it decoded. -/
structure Stands (text : Bytes) (cursor : Cursor) : Prop where
  within : cursor.position ≤ text.length
  met : Meets text cursor.position
  decoded : decode? (text.take cursor.position) = some cursor.decoded.toList

structure Halts (text : Bytes) (count : Nat) (result : Option Bytes) : Prop where
  bounded : count ≤ text.length
  stands : ∀ rounds ≤ count, ∃ cursor, Cursor.start.after text.toArray rounds = .goesOn cursor ∧ Stands text cursor
  ends : ∀ rounds, count < rounds → Cursor.start.after text.toArray rounds = .ends result

theorem readingDigit_of_isDigit {text : Bytes} {position value : Nat} {digit : UInt8}
    (found : text[position]? = some digit) (isDigit : IsDigit digit value) (next : UInt8 → Round) :
    Round.readingDigit text.toArray position next = next (UInt8.ofNat value) := by
  have within : position < text.length := (List.getElem?_eq_some_iff.1 found).1
  simp only [Round.readingDigit, Round.reading, List.size_toArray, within, if_true, List.getElem?_toArray, found,
    isDigit.hexValue?_eq]

theorem readingDigit_of_not_hasDigit {text : Bytes} {position : Nat} (noDigit : ¬HasDigit text position)
    (next : UInt8 → Round) : Round.readingDigit text.toArray position next = .ends none := by
  rw [Round.readingDigit, List.size_toArray]
  split
  · rename_i within
    have found : text[position]? = some text[position] := List.getElem?_eq_getElem within
    have noValue : hexValue? text[position] = none :=
      hexValue?_eq_none_iff.2 fun value isDigit => noDigit ⟨_, value, found, isDigit⟩
    simp only [Round.reading, List.getElem?_toArray, found, noValue]
  · rfl

namespace Cursor

theorem round_of_end {text : Bytes} {cursor : Cursor} (atEnd : cursor.position = text.length) :
    cursor.round text.toArray = .ends (some cursor.decoded.toList) := by
  rw [round, List.size_toArray, if_neg (by omega)]

theorem round_of_found {text : Bytes} {cursor : Cursor} {byte : UInt8} (found : text[cursor.position]? = some byte) :
    cursor.round text.toArray =
      if byte == 0x25 then
        .readingDigit text.toArray (cursor.position + 1) fun upper =>
          .readingDigit text.toArray (cursor.position + 2) fun lower =>
            .goesOn (cursor.moved 3 (upper <<< 4 ||| lower))
      else .goesOn (cursor.moved 1 byte) := by
  have within : cursor.position < text.length := (List.getElem?_eq_some_iff.1 found).1
  simp only [round, Round.reading, List.size_toArray, within, if_true, List.getElem?_toArray, found]

theorem round_of_plain {text : Bytes} {cursor : Cursor} {byte : UInt8} (found : text[cursor.position]? = some byte)
    (notMark : byte ≠ 0x25) : cursor.round text.toArray = .goesOn (cursor.moved 1 byte) := by
  rw [round_of_found found, if_neg (by simpa using notMark)]

theorem round_of_digits {text : Bytes} {cursor : Cursor} {high low : UInt8} {upper lower : Nat}
    (mark : text[cursor.position]? = some 0x25) (foundHigh : text[cursor.position + 1]? = some high)
    (isHigh : IsDigit high upper) (foundLow : text[cursor.position + 2]? = some low) (isLow : IsDigit low lower) :
    cursor.round text.toArray = .goesOn (cursor.moved 3 (UInt8.ofNat (16 * upper + lower))) := by
  rw [round_of_found mark, if_pos (beq_self_eq_true _), readingDigit_of_isDigit foundHigh isHigh,
    readingDigit_of_isDigit foundLow isLow, join_digits isHigh.lt isLow.lt]

theorem round_of_noDigits {text : Bytes} {cursor : Cursor} (mark : text[cursor.position]? = some 0x25)
    (noDigits : ¬(HasDigit text (cursor.position + 1) ∧ HasDigit text (cursor.position + 2))) :
    cursor.round text.toArray = .ends none := by
  rw [round_of_found mark, if_pos (beq_self_eq_true _)]
  by_cases first : HasDigit text (cursor.position + 1)
  · have noSecond : ¬HasDigit text (cursor.position + 2) := fun second => noDigits ⟨first, second⟩
    obtain ⟨digit, value, found, isDigit⟩ := first
    rw [readingDigit_of_isDigit found isDigit, readingDigit_of_not_hasDigit noSecond]
  · exact readingDigit_of_not_hasDigit first _

def behind (pieces : List Piece) : Cursor :=
  ⟨(pieces.flatMap Piece.text).length, (pieces.map Piece.byte).toArray⟩

theorem moved_behind (pieces : List Piece) (piece : Piece) :
    (behind pieces).moved piece.text.length piece.byte = behind (pieces ++ [piece]) := by
  simp [behind, moved]

theorem stands_behind (pieces : List Piece) (rest : Bytes) :
    Stands (pieces.flatMap Piece.text ++ rest) (behind pieces) where
  within := by
    rw [List.length_append]
    exact Nat.le_add_right _ _
  met := meets_pieces pieces rest
  decoded := by rw [behind, List.take_left, decode?_flatMap]

theorem round_piece (front : List Piece) (piece : Piece) (rest : Bytes) :
    (behind front).round (front.flatMap Piece.text ++ (piece.text ++ rest)).toArray =
      .goesOn (behind (front ++ [piece])) := by
  have found (position : Nat) := getElem?_behind (front.flatMap Piece.text) (piece.text ++ rest) position
  rw [← moved_behind]
  cases piece with
  | plain byte notMark => exact round_of_plain (found 0) notMark
  | escape high low upper lower isHigh isLow => exact round_of_digits (found 0) (found 1) isHigh (found 2) isLow

theorem round_rest (pieces : List Piece) {rest : Bytes} (ends : rest = [] ∨ IsBroken rest) :
    (behind pieces).round (pieces.flatMap Piece.text ++ rest).toArray =
      .ends (decode? (pieces.flatMap Piece.text ++ rest)) := by
  rcases ends with rfl | broken
  · rw [List.append_nil, round_of_end rfl, decode?_flatMap]
    rfl
  · have mark := getElem?_behind (pieces.flatMap Piece.text) rest 0
    rw [broken.1] at mark
    rw [decode?_pieces, broken.decode?_eq_none]
    refine round_of_noDigits mark ?_
    simp only [behind, hasDigit_behind]
    exact broken.2

theorem after_pieces (front pieces : List Piece) (rest : Bytes) (rounds : Nat) :
    (behind front).after ((front ++ pieces).flatMap Piece.text ++ rest).toArray (pieces.length + rounds) =
      (behind (front ++ pieces)).after ((front ++ pieces).flatMap Piece.text ++ rest).toArray rounds := by
  -- The text stays whole in every round, and the first of the pieces comes to stand behind the cursor.
  induction pieces generalizing front with
  | nil => simp
  | cons piece pieces ih =>
      have whole : (front ++ piece :: pieces).flatMap Piece.text ++ rest =
          front.flatMap Piece.text ++ (piece.text ++ (pieces.flatMap Piece.text ++ rest)) := by simp
      have here := round_piece front piece (pieces.flatMap Piece.text ++ rest)
      have later := ih (front ++ [piece])
      rw [← whole] at here
      rw [List.append_assoc, List.singleton_append] at later
      rw [List.length_cons, Nat.add_right_comm, after, here]
      exact later

end Cursor

theorem exists_halts (text : Bytes) : ∃ count, Halts text count (decode? text) := by
  obtain ⟨pieces, rest, rfl, ends⟩ := exists_pieces text
  refine ⟨pieces.length, ?bounded, ?stands, ?ends⟩
  case bounded =>
    have bound := length_le_flatMap_text pieces
    rw [List.length_append]
    omega
  case stands =>
    intro rounds few
    have whole : pieces.flatMap Piece.text ++ rest = (pieces.take rounds).flatMap Piece.text ++
        ((pieces.drop rounds).flatMap Piece.text ++ rest) := by
      rw [← List.append_assoc, ← List.flatMap_append, List.take_append_drop]
    have reached := Cursor.after_pieces [] (pieces.take rounds) ((pieces.drop rounds).flatMap Piece.text ++ rest) 0
    rw [List.nil_append, ← whole, List.length_take, Nat.min_eq_left few] at reached
    refine ⟨.behind (pieces.take rounds), reached, ?_⟩
    rw [whole]
    exact Cursor.stands_behind _ _
  case ends =>
    intro rounds more
    obtain ⟨extra, rfl⟩ := Nat.exists_eq_add_of_lt more
    have reached := Cursor.after_pieces [] pieces rest (extra + 1)
    rw [List.nil_append, Cursor.after, Cursor.round_rest pieces ends] at reached
    exact reached

theorem Halts.ne_overruns {text : Bytes} {count : Nat} {result : Option Bytes} (halts : Halts text count result)
    (rounds : Nat) : Cursor.start.after text.toArray rounds ≠ .overruns := by
  rcases Nat.lt_or_ge count rounds with more | few
  · rw [halts.ends rounds more]
    exact Round.noConfusion
  · obtain ⟨cursor, reached, _⟩ := halts.stands rounds few
    rw [reached]
    exact Round.noConfusion

theorem scan_eq (text : String) : scan text = .ends (decodeText? text) := by
  have bytes : (Bytes.ofText text).toArray = text.toByteArray.data := Array.toArray_toList
  obtain ⟨count, halts⟩ := exists_halts (Bytes.ofText text)
  have bounded := halts.bounded
  have ended := halts.ends ((Bytes.ofText text).length + 1) (by omega)
  rwa [← List.size_toArray, bytes] at ended

/-! ### The decoder -/

/-- A decoder that reads a text piece by piece, and refuses it for nothing but a mark that no two digits follow. -/
structure ReadsEscapes (decoder : String → Option Bytes) : Prop where
  accepts : ∀ text, (decoder text).isSome = true ↔ IsWellFormed (Bytes.ofText text)
  reads : ∀ text bytes, decoder text = some bytes ↔
    ∃ pieces, IsReading (Bytes.ofText text) pieces ∧ pieces.map Piece.byte = bytes
  joins : ∀ text behind bytes, decoder text = some bytes →
    decoder (text ++ behind) = (decoder behind).map fun rest => bytes ++ rest
  caseless : ∀ text other, Recased (Bytes.ofText text) (Bytes.ofText other) → decoder text = decoder other
  halts : ∀ text, ∃ count, Halts (Bytes.ofText text) count (decoder text)
  stays : ∀ text rounds, Cursor.start.after (Bytes.ofText text).toArray rounds ≠ .overruns
  scans : ∀ text, scan text = .ends (decoder text)

/-- A text is accepted exactly if two digits follow every mark that is met, and each piece of it then stands for one
byte. Texts in a row are decoded apart, the case of digits says nothing, and the loop ends within any text. -/
theorem decoder_is_exact : ReadsEscapes decodeText? where
  accepts _ := isSome_decode?_iff
  reads text bytes := by
    rw [decodeText?, decode?_eq_some_iff]
    constructor
    · rintro ⟨pieces, joined, same⟩
      rw [← joined]
      exact ⟨pieces, isReading_flatMap pieces, same⟩
    · rintro ⟨pieces, reading, same⟩
      exact ⟨pieces, reading.joined, same⟩
  joins text behind bytes decoded := by
    rw [decodeText?, Bytes.ofText_append]
    exact decode?_append decoded (Bytes.ofText behind)
  caseless _ _ recased := recased.decode?_eq []
  halts text := exists_halts (Bytes.ofText text)
  stays text := by
    obtain ⟨_, halts⟩ := exists_halts (Bytes.ofText text)
    exact halts.ne_overruns
  scans := scan_eq

example : decodeText? "a%2fé" = some (Bytes.ofText "a/é") ∧ decodeText? "%%41" = none ∧ decodeText? "%4" = none := by
  decide

end ObjectStore.Percent
