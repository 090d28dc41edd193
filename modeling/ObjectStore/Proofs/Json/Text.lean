import Mathlib.Tactic.IntervalCases
import ObjectStore.Json.Printer
import ObjectStore.Json.Token
import ObjectStore.Proofs.Bytes
import ObjectStore.Proofs.Decimal
import ObjectStore.Proofs.Reading

/-!
Texts and integers are read from JSON as they were written, whatever follows them.
-/

namespace ObjectStore.Json

def written (characters : List Char) : Bytes :=
  characters.flatMap String.utf8EncodeChar

@[simp] theorem written_nil : written [] = [] :=
  rfl

@[simp] theorem written_append (left right : List Char) :
    written (left ++ right) = written left ++ written right :=
  List.flatMap_append

theorem written_cons (first : Char) (rest : List Char) :
    written (first :: rest) = String.utf8EncodeChar first ++ written rest :=
  rfl

theorem written_toList (text : String) : written text.toList = Bytes.ofText text :=
  (Bytes.ofText_eq_flatMap text).symm

/-! ### Texts -/

def isLiteral (byte : UInt8) : Bool :=
  byte != 0x22 && byte != 0x5C && !decide (byte < 0x20)

theorem readTextBytes_literal {piece : Bytes} (literal : ∀ byte ∈ piece, isLiteral byte = true)
    {rest content unread : Bytes} (read : readTextBytes rest = .ok (content, unread)) :
    readTextBytes (piece ++ rest) = .ok (piece ++ content, unread) := by
  induction piece with
  | nil => exact read
  | cons byte piece ih =>
      have kept := literal byte (by simp)
      simp only [isLiteral, Bool.and_eq_true, bne_iff_ne, Bool.not_eq_true', decide_eq_false_iff_not] at kept
      obtain ⟨⟨notQuote, notBackslash⟩, notControl⟩ := kept
      have later := ih fun other member => literal other (by simp [member])
      rw [List.cons_append, readTextBytes, if_neg (by simpa using notQuote), if_neg (by simpa using notBackslash),
        if_neg notControl, later]
      rfl

theorem readTextBytes_escape (escaped : Bytes) {piece rest content unread : Bytes}
    (reads : readEscape (escaped ++ rest) = .ok (piece, rest))
    (read : readTextBytes rest = .ok (content, unread)) :
    readTextBytes (0x5C :: (escaped ++ rest)) = .ok (piece ++ content, unread) := by
  rw [readTextBytes, if_neg (by decide), if_pos (by decide)]
  split
  · rename_i fault failed
    rw [reads] at failed
    cases failed
  · rename_i found tail succeeded
    rw [reads] at succeeded
    cases succeeded
    rw [read]
    rfl

theorem isLiteral_iff {byte : UInt8} : isLiteral byte = true ↔
    byte.toNat ≠ 0x22 ∧ byte.toNat ≠ 0x5C ∧ 0x20 ≤ byte.toNat := by
  simp only [isLiteral, Bool.and_eq_true, bne_iff_ne, ne_eq, Bool.not_eq_true', decide_eq_false_iff_not,
    UInt8.lt_iff_toNat_lt, ← UInt8.toNat_inj, UInt8.reduceToNat, Nat.not_lt, and_assoc]

theorem isLiteral_utf8EncodeChar {character : Char} (notQuote : character ≠ Quoted.quoteMark)
    (notBackslash : character ≠ Quoted.backslash) (printed : 0x20 ≤ character.toNat) :
    ∀ byte ∈ String.utf8EncodeChar character, isLiteral byte = true := by
  by_cases isAscii : character.toNat < 0x80
  · rw [Bytes.utf8EncodeChar_of_lt isAscii]
    have code : (UInt8.ofNat character.toNat).toNat = character.toNat := Nat.mod_eq_of_lt (by omega)
    intro byte member
    rw [List.mem_singleton.1 member, isLiteral_iff, code]
    exact ⟨fun same => notQuote (Char.toNat_inj.1 same), fun same => notBackslash (Char.toNat_inj.1 same), printed⟩
  · intro byte member
    have large := Bytes.le_of_mem_utf8EncodeChar (Nat.le_of_not_lt isAscii) member
    simp only [UInt8.le_iff_toNat_le, UInt8.reduceToNat] at large
    rw [isLiteral_iff]
    omega

theorem readEscape_control {character : Char} (isControl : character.toNat < 0x20) (rest : Bytes) :
    ∃ escaped, written (escapeChar character) = 0x5C :: escaped ∧
      readEscape (escaped ++ rest) = .ok (String.utf8EncodeChar character, rest) := by
  have same := (Char.ofNat_toNat character).symm
  generalize character.toNat = code at isControl same
  subst same
  interval_cases code <;> exact ⟨_, rfl, rfl⟩

theorem readTextBytes_escapeChar (character : Char) {rest content unread : Bytes}
    (read : readTextBytes rest = .ok (content, unread)) :
    readTextBytes (written (escapeChar character) ++ rest) =
      .ok (String.utf8EncodeChar character ++ content, unread) := by
  by_cases isControl : character.toNat < 0x20
  · obtain ⟨escaped, same, reads⟩ := readEscape_control isControl rest
    rw [same, List.cons_append, readTextBytes_escape escaped reads read]
  · have printed : 0x20 ≤ character.toNat := Nat.le_of_not_lt isControl
    by_cases isMark : character = Quoted.quoteMark ∨ character = Quoted.backslash
    · rcases isMark with rfl | rfl
      · exact readTextBytes_escape [0x22] rfl read
      · exact readTextBytes_escape [0x5C] rfl read
    · rw [not_or] at isMark
      have itself : written (escapeChar character) = String.utf8EncodeChar character := by
        simp [escapeChar, isMark, printed, written]
      rw [itself]
      exact readTextBytes_literal (isLiteral_utf8EncodeChar isMark.1 isMark.2 printed) read

theorem readTextBytes_written (characters : List Char) (rest : Bytes) :
    readTextBytes (written (characters.flatMap escapeChar) ++ 0x22 :: rest) = .ok (written characters, rest) := by
  induction characters with
  | nil => rw [List.flatMap_nil, written_nil, List.nil_append, readTextBytes, if_pos (by decide)]
  | cons character characters ih =>
      rw [List.flatMap_cons, written_append, List.append_assoc, readTextBytes_escapeChar character ih]
      rfl

theorem readTextBody_written (text : String) (rest : Bytes) :
    readTextBody (written (text.toList.flatMap escapeChar) ++ 0x22 :: rest) = .ok (text, rest) := by
  simp only [readTextBody, readTextBytes_written, bind, Except.bind, written_toList, Bytes.toText?_ofText]
  rfl

theorem written_textChars (text : String) :
    written (textChars text) = 0x22 :: (written (text.toList.flatMap escapeChar) ++ [0x22]) := by
  rw [textChars, List.cons_append, written_cons, written_append]
  rfl

/-! ### Integers -/

/-- What may follow a value: a blank, a comma or a closing bracket, if there is anything. -/
def Ends (rest : Bytes) : Prop :=
  ∀ first tail, rest = first :: tail → isBlank first = true ∨ first = 0x2C ∨ first = 0x5D ∨ first = 0x7D

theorem ends_nil : Ends [] := by
  intro first tail same
  cases same

theorem ends_cons {first : UInt8} (closing : isBlank first = true ∨ first = 0x2C ∨ first = 0x5D ∨ first = 0x7D)
    (rest : Bytes) : Ends (first :: rest) := by
  intro other tail same
  obtain ⟨rfl, rfl⟩ := List.cons.inj same
  exact closing

theorem ends_comma (rest : Bytes) : Ends (0x2C :: rest) :=
  ends_cons (Or.inr (Or.inl rfl)) rest

theorem ends_brace (rest : Bytes) : Ends (0x7D :: rest) :=
  ends_cons (Or.inr (Or.inr (Or.inr rfl))) rest

theorem isBlank_iff {byte : UInt8} :
    isBlank byte = true ↔ ((byte = 0x20 ∨ byte = 0x0A) ∨ byte = 0x09) ∨ byte = 0x0D := by
  simp only [isBlank, Bool.or_eq_true, beq_iff_eq]

theorem Ends.notNumber {first : UInt8} {rest : Bytes} (ends : Ends (first :: rest)) :
    digit? first = none ∧ (first == 0x2E) = false ∧ isExponentMark first = false := by
  rcases ends first rest rfl with blank | rfl | rfl | rfl
  · rcases isBlank_iff.1 blank with ((rfl | rfl) | rfl) | rfl <;> decide
  all_goals decide

theorem digit?_eq {byte : UInt8} (bounds : 0x30 ≤ byte.toNat ∧ byte.toNat ≤ 0x39) :
    digit? byte = some (byte.toNat - 0x30) := by
  simp [digit?, UInt8.le_iff_toNat_le, bounds]

theorem digit?_of_isDigit {character : Char} (isDigit : character.isDigit = true) :
    digit? (UInt8.ofNat character.toNat) = some (character.toNat - '0'.toNat) ∧
      String.utf8EncodeChar character = [UInt8.ofNat character.toNat] := by
  have bounds : 0x30 ≤ character.toNat ∧ character.toNat ≤ 0x39 := by
    simpa [Char.isDigit, Char.le_def, UInt32.le_iff_toNat_le] using isDigit
  have code : (UInt8.ofNat character.toNat).toNat = character.toNat := Nat.mod_eq_of_lt (by omega)
  refine ⟨?_, Bytes.utf8EncodeChar_of_lt (by omega)⟩
  rw [digit?_eq (by omega), code]
  rfl

theorem le_ofDigitChars (digits : List Char) (value : Nat) : value ≤ Nat.ofDigitChars 10 digits value := by
  induction digits generalizing value with
  | nil => simp
  | cons digit digits ih =>
      rw [Nat.ofDigitChars_cons]
      have later := ih (10 * value + (digit.toNat - '0'.toNat))
      omega

theorem readSignificand_written {digits : List Char} (areDigits : ∀ digit ∈ digits, digit.isDigit = true)
    {value : Nat} (fits : Nat.ofDigitChars 10 digits value < Width.bound 64) {rest : Bytes} (ends : Ends rest) :
    ∃ count, readSignificand value (written digits ++ rest) = (Nat.ofDigitChars 10 digits value, count, rest) := by
  induction digits generalizing value with
  | nil =>
      cases rest with
      | nil => exact ⟨0, by simp [readSignificand]⟩
      | cons first tail => exact ⟨0, by simp [readSignificand, ends.notNumber.1]⟩
  | cons digit digits ih =>
      obtain ⟨isNumber, single⟩ := digit?_of_isDigit (areDigits digit (by simp))
      rw [Nat.ofDigitChars_cons, Nat.mul_comm] at fits ⊢
      obtain ⟨count, later⟩ := ih (fun other member => areDigits other (by simp [member])) fits
      have small := Nat.lt_of_le_of_lt (le_ofDigitChars digits _) fits
      refine ⟨count + 1, ?_⟩
      rw [written_cons, single, List.singleton_append, List.cons_append, readSignificand, isNumber]
      dsimp only
      rw [if_pos small, later]

theorem toDigits_head {number : Nat} (positive : 0 < number) :
    ∃ first rest, Nat.toDigits 10 number = first :: rest ∧ first.toNat ≠ '0'.toNat := by
  induction number using Nat.strongRecOn with
  | ind number ih =>
      by_cases small : number < 10
      · refine ⟨Nat.digitChar number, [], Nat.toDigits_of_lt_base small, ?_⟩
        interval_cases number <;> decide
      · obtain ⟨first, rest, leading, notZero⟩ := ih (number / 10) (by omega) (by omega)
        rw [Nat.toDigits_of_base_le (by decide) (by omega), leading]
        exact ⟨first, rest ++ [Nat.digitChar (number % 10)], rfl, notZero⟩

theorem toDigits_positive {number : Nat} (positive : 0 < number) :
    ∃ first digits, Nat.toDigits 10 number = first :: digits ∧
      (∀ digit ∈ first :: digits, digit.isDigit = true) ∧ (first.toNat - '0'.toNat == 0) = false ∧
      Nat.ofDigitChars 10 digits (first.toNat - '0'.toNat) = number := by
  obtain ⟨first, digits, leading, notZero⟩ := toDigits_head positive
  have areDigits : ∀ digit ∈ first :: digits, digit.isDigit = true := by
    intro digit member
    rw [← leading] at member
    exact Nat.isDigit_of_mem_toDigits (by decide) (by decide) member
  have bounds : 0x30 ≤ first.toNat := by
    have isDigit := areDigits first (by simp)
    simp only [Char.isDigit, Bool.and_eq_true, decide_eq_true_eq, ge_iff_le, UInt32.le_iff_toNat_le] at isDigit
    exact isDigit.1
  refine ⟨first, digits, leading, areDigits, ?_, ?_⟩
  · have code : '0'.toNat = 0x30 := rfl
    rw [code] at notZero ⊢
    rw [beq_eq_false_iff_ne]
    omega
  · have whole := Nat.ofDigitChars_ten_toDigits (n := number)
    rwa [leading, Nat.ofDigitChars_cons, Nat.mul_zero, Nat.zero_add] at whole

theorem readAfterInteger_ends (isNegative : Bool) (significand : Nat) {rest : Bytes} (ends : Ends rest) :
    readAfterInteger isNegative significand rest = .ok (finishInteger isNegative significand, rest) := by
  cases rest with
  | nil => rfl
  | cons first tail =>
      obtain ⟨_, notPoint, notMark⟩ := ends.notNumber
      simp [readAfterInteger, notPoint, notMark]

theorem readNumber_toDigits (isNegative : Bool) {number : Nat} (fits : number < Width.bound 64) {rest : Bytes}
    (ends : Ends rest) :
    readNumber isNegative (written (Nat.toDigits 10 number) ++ rest) =
      .ok (finishInteger isNegative number, rest) := by
  by_cases zero : number = 0
  · subst zero
    have digits : written (Nat.toDigits 10 0) = [0x30] := rfl
    have isZero : digit? 0x30 = some 0 := rfl
    rw [digits, List.singleton_append, readNumber.eq_def]
    simp only [isZero, beq_self_eq_true, if_true]
    cases rest with
    | nil => rfl
    | cons first tail =>
        have notDigit : (digit? first).isSome = false := by rw [ends.notNumber.1]; rfl
        simp only [notDigit, Bool.false_eq_true, if_false]
        exact readAfterInteger_ends isNegative 0 ends
  · obtain ⟨first, digits, leading, areDigits, positive, value⟩ := toDigits_positive (Nat.pos_of_ne_zero zero)
    obtain ⟨isNumber, single⟩ := digit?_of_isDigit (areDigits first (by simp))
    obtain ⟨count, read⟩ := readSignificand_written
      (fun digit member => areDigits digit (List.mem_cons_of_mem first member)) (by rw [value]; exact fits) ends
    rw [leading, written_cons, single, List.singleton_append, List.cons_append, readNumber.eq_def]
    simp only [isNumber, positive, Bool.false_eq_true, if_false, read, value]
    cases rest with
    | nil => rfl
    | cons following tail =>
        have notDigit : (digit? following).isSome = false := by rw [ends.notNumber.1]; rfl
        simp only [notDigit, Bool.false_eq_true, if_false]
        exact readAfterInteger_ends isNegative number ends

/-! ### Integers that 64 bits do not hold -/

def NeverInteger (read : Except Fault (Number × Bytes)) : Prop :=
  ∀ value rest, read ≠ .ok (.integer value, rest)

theorem neverInteger_error (fault : Fault) : NeverInteger (.error fault) :=
  fun _ _ isOk => nomatch isOk

theorem neverInteger_finishDecimal (isNegative : Bool) (significand : Nat) (exponent : Int) (rest : Bytes) :
    NeverInteger (finishDecimal isNegative significand exponent rest) := by
  unfold finishDecimal
  split
  · exact fun _ _ isOk => nomatch isOk
  · exact neverInteger_error _

theorem neverInteger_readExponent (isNegative : Bool) (significand : Nat) (exponent : Int) (bytes : Bytes) :
    NeverInteger (readExponent isNegative significand exponent bytes) := by
  unfold readExponent
  dsimp only
  split
  · exact neverInteger_error _
  · split
    · exact neverInteger_error _
    · intro value rest isOk
      obtain ⟨_, _, finished⟩ := bind_eq_ok_iff.1 isOk
      exact neverInteger_finishDecimal _ _ _ _ value rest finished

theorem neverInteger_readExponentOrEnd (isNegative : Bool) (significand : Nat) (exponent : Int) (bytes : Bytes) :
    NeverInteger (readExponentOrEnd isNegative significand exponent bytes) := by
  unfold readExponentOrEnd
  split
  · exact neverInteger_finishDecimal _ _ _ _
  · split
    · exact neverInteger_readExponent _ _ _ _
    · exact neverInteger_finishDecimal _ _ _ _

theorem neverInteger_readFraction (isNegative : Bool) (significand : Nat) (exponent : Int) (bytes : Bytes) :
    NeverInteger (readFraction isNegative significand exponent bytes) := by
  unfold readFraction
  split
  · exact neverInteger_error _
  · split
    · exact neverInteger_error _
    · exact neverInteger_readExponentOrEnd _ _ _ _

theorem neverInteger_readLongInteger (isNegative : Bool) (significand : Nat) (bytes : Bytes) :
    NeverInteger (readLongInteger isNegative significand bytes) := by
  unfold readLongInteger
  dsimp only
  split
  · exact neverInteger_finishDecimal _ _ _ _
  · split
    · exact neverInteger_readFraction _ _ _ _
    · exact neverInteger_readExponentOrEnd _ _ _ _

theorem readSignificand_overflow {digits : List Char} (areDigits : ∀ digit ∈ digits, digit.isDigit = true)
    {value : Nat} (fits : value < Width.bound 64) (overflows : Width.bound 64 ≤ Nat.ofDigitChars 10 digits value)
    (rest : Bytes) :
    ∃ significand count first tail,
      readSignificand value (written digits ++ rest) = (significand, count, first :: tail) ∧
        (digit? first).isSome = true := by
  induction digits generalizing value with
  | nil =>
      rw [Nat.ofDigitChars_nil] at overflows
      omega
  | cons digit digits ih =>
      obtain ⟨isNumber, single⟩ := digit?_of_isDigit (areDigits digit (by simp))
      rw [Nat.ofDigitChars_cons, Nat.mul_comm] at overflows
      rw [written_cons, single, List.singleton_append, List.cons_append, readSignificand, isNumber]
      dsimp only
      split
      · rename_i small
        obtain ⟨significand, count, first, tail, later, isDigit⟩ :=
          ih (fun other member => areDigits other (by simp [member])) small overflows
        exact ⟨significand, count + 1, first, tail, by rw [later], isDigit⟩
      · exact ⟨value, 0, _, _, rfl, by rw [isNumber]; rfl⟩

theorem neverInteger_readNumber (isNegative : Bool) {number : Nat} (overflows : Width.bound 64 ≤ number)
    (rest : Bytes) : NeverInteger (readNumber isNegative (written (Nat.toDigits 10 number) ++ rest)) := by
  have wide : 10 < Width.bound 64 := by decide
  obtain ⟨first, digits, leading, areDigits, positive, value⟩ := toDigits_positive (by omega : 0 < number)
  obtain ⟨isNumber, single⟩ := digit?_of_isDigit (areDigits first (by simp))
  have small : first.toNat - '0'.toNat < Width.bound 64 := by
    have isDigit := areDigits first (by simp)
    simp only [Char.isDigit, Bool.and_eq_true, decide_eq_true_eq, ge_iff_le, UInt32.le_iff_toNat_le] at isDigit
    have upper : first.toNat ≤ 0x39 := isDigit.2
    have code : '0'.toNat = 0x30 := rfl
    omega
  have areLater : ∀ digit ∈ digits, digit.isDigit = true :=
    fun digit member => areDigits digit (List.mem_cons_of_mem first member)
  rw [← value] at overflows
  obtain ⟨significand, count, following, tail, read, isDigit⟩ :=
    readSignificand_overflow areLater small overflows rest
  rw [leading, written_cons, single, List.singleton_append, List.cons_append, readNumber.eq_def]
  simp only [isNumber, positive, Bool.false_eq_true, if_false, read, isDigit, if_true]
  exact neverInteger_readLongInteger isNegative significand _

end ObjectStore.Json
