import ObjectStore.Proofs.Decimal
import ObjectStore.Proofs.Reading
import ObjectStore.Proofs.Timestamp

/-!
The texts that times are read from are those of RFC 3339: a date, a time of day, a fraction of a second with
any number of digits, and an offset. RFC 3339 leaves to applications what stands between date and time; here
it is one byte of any kind.
-/

namespace ObjectStore.Timestamp

open Bytes (ofAscii)
open Calendar (Date)

/-! ### Texts -/

inductive IsFraction : Bytes → Nat → Prop
  | none : IsFraction [] 0
  | some {digits : List Char} {value : Nat} (spells : Decimal.Spells digits value) :
      IsFraction (0x2E :: ofAscii digits) (value * 10 ^ 9 / 10 ^ digits.length)

inductive IsZone : Bytes → Int → Prop
  | upper : IsZone [0x5A] 0
  | lower : IsZone [0x7A] 0
  | ahead {hour minute : Nat} (isHour : hour < 24) (isMinute : minute < 60) :
      IsZone (0x2B :: ofAscii (twoDigits hour ++ ':' :: twoDigits minute)) (hour * 3600 + minute * 60)
  | behind {hour minute : Nat} (isHour : hour < 24) (isMinute : minute < 60) :
      IsZone (0x2D :: ofAscii (twoDigits hour ++ ':' :: twoDigits minute)) (-(hour * 3600 + minute * 60))

namespace Fields

def IsWritten (fields : Fields) (bytes : Bytes) : Prop :=
  ∃ separator fraction zone,
    bytes = ofAscii (fourDigits fields.year ++ '-' :: twoDigits fields.month ++ '-' :: twoDigits fields.day) ++
      separator :: (ofAscii (twoDigits fields.hour ++ ':' :: twoDigits fields.minute ++ ':' ::
        twoDigits fields.second) ++ (fraction ++ zone)) ∧
    IsFraction fraction fields.nanos ∧ IsZone zone fields.offset

/-- A second behind the last of a minute is a leap second, which stands for the nanosecond before it. -/
structure Denotes (fields : Fields) (time : Timestamp) : Prop where
  year : fields.year < 10000
  date : Date.IsValid ⟨fields.year, fields.month, fields.day⟩
  hour : fields.hour < 24
  minute : fields.minute < 60
  time : fields.second < 60 ∧ time = ofParts ⟨fields.year, fields.month, fields.day⟩ fields.hour fields.minute
      fields.second fields.nanos fields.offset ∨
    fields.second = 60 ∧ time.endsMonth = true ∧ time = ofParts ⟨fields.year, fields.month, fields.day⟩ fields.hour
      fields.minute 59 999999999 fields.offset

end Fields

def IsRfc3339 (text : String) (time : Timestamp) : Prop :=
  ∃ fields : Fields, fields.IsWritten (Bytes.ofText text) ∧ fields.Denotes time

/-! ### Digits -/

theorem digit?_eq_some {byte : UInt8} {digit : Nat} (read : digit? byte = some digit) :
    digit < 10 ∧ byte = UInt8.ofNat (digitChar digit).toNat := by
  have each : ∀ number < 256, ∀ digit, digit? (UInt8.ofNat number) = some digit →
      digit < 10 ∧ number = 0x30 + digit % 10 := by
    intro number small digit isDigit
    simp only [digit?, UInt8.le_iff_toNat_le, UInt8.toNat_ofNat', Nat.mod_eq_of_lt small, Bool.and_eq_true,
      decide_eq_true_eq] at isDigit
    split at isDigit
    · rename_i bounds
      have lower : 0x30 ≤ number := bounds.1
      have upper : number ≤ 0x39 := bounds.2
      have same := Option.some.inj isDigit
      omega
    · cases isDigit
  rw [← UInt8.ofNat_toNat (x := byte)] at read
  obtain ⟨small, same⟩ := each byte.toNat byte.toNat_lt digit read
  refine ⟨small, ?_⟩
  rw [toNat_digitChar, ← same, UInt8.ofNat_toNat]

theorem digitChar_congr {left right : Nat} (same : left % 10 = right % 10) : digitChar left = digitChar right := by
  rw [digitChar, digitChar, same]

theorem readDigits_succ {component : Component} {count value number : Nat} {bytes rest : Bytes}
    (read : readDigits component (count + 1) value bytes = .ok (number, rest)) :
    ∃ digit tail, digit < 10 ∧ bytes = UInt8.ofNat (digitChar digit).toNat :: tail ∧
      readDigits component count (value * 10 + digit) tail = .ok (number, rest) := by
  cases bytes with
  | nil => cases read
  | cons byte tail =>
      rw [readDigits] at read
      split at read
      · rename_i digit isDigit
        obtain ⟨small, same⟩ := digit?_eq_some isDigit
        exact ⟨digit, tail, small, congrArg (· :: tail) same, read⟩
      · cases read

theorem readDigits_two_iff {component : Component} {value : Nat} {bytes rest : Bytes} :
    readDigits component 2 0 bytes = .ok (value, rest) ↔ value < 100 ∧ bytes = ofAscii (twoDigits value) ++ rest := by
  constructor
  · intro read
    obtain ⟨tens, _, isTens, rfl, readOnes⟩ := readDigits_succ read
    obtain ⟨ones, _, isOnes, rfl, finished⟩ := readDigits_succ readOnes
    cases finished
    refine ⟨by omega, ?_⟩
    have first : digitChar (((0 * 10 + tens) * 10 + ones) / 10) = digitChar tens := digitChar_congr (by omega)
    have second : digitChar ((0 * 10 + tens) * 10 + ones) = digitChar ones := digitChar_congr (by omega)
    rw [twoDigits, first, second]
    rfl
  · rintro ⟨small, rfl⟩
    exact readDigits_two component small rest

theorem readDigits_four_iff {component : Component} {value : Nat} {bytes rest : Bytes} :
    readDigits component 4 0 bytes = .ok (value, rest) ↔
      value < 10000 ∧ bytes = ofAscii (fourDigits value) ++ rest := by
  constructor
  · intro read
    obtain ⟨thousands, _, isThousands, rfl, readHundreds⟩ := readDigits_succ read
    obtain ⟨hundreds, _, isHundreds, rfl, readTens⟩ := readDigits_succ readHundreds
    obtain ⟨tens, _, isTens, rfl, readOnes⟩ := readDigits_succ readTens
    obtain ⟨ones, _, isOnes, rfl, finished⟩ := readDigits_succ readOnes
    cases finished
    refine ⟨by omega, ?_⟩
    generalize isValue : (((0 * 10 + thousands) * 10 + hundreds) * 10 + tens) * 10 + ones = value
    have first : digitChar (value / 100 / 10) = digitChar thousands := digitChar_congr (by omega)
    have second : digitChar (value / 100) = digitChar hundreds := digitChar_congr (by omega)
    have third : digitChar (value % 100 / 10) = digitChar tens := digitChar_congr (by omega)
    have fourth : digitChar (value % 100) = digitChar ones := digitChar_congr (by omega)
    rw [fourDigits, twoDigits, twoDigits, first, second, third, fourth]
    rfl
  · rintro ⟨small, rfl⟩
    exact readDigits_four component small rest

theorem readLiteral_iff {expected : UInt8} {bytes rest : Bytes} :
    readLiteral expected bytes = .ok rest ↔ bytes = expected :: rest := by
  cases bytes with
  | nil => simp [readLiteral]
  | cons byte tail => by_cases same : byte = expected <;> simp [readLiteral, same]

/-! ### Fractions -/

theorem digit?_of_isDigit {character : Char} (isDigit : character.isDigit = true) :
    digit? (UInt8.ofNat character.toNat) = some (character.toNat - 0x30) := by
  have bounds : 0x30 ≤ character.toNat ∧ character.toNat ≤ 0x39 := by
    simpa [Char.isDigit, UInt32.le_iff_toNat_le] using isDigit
  have small : character.toNat % 2 ^ 8 = character.toNat := by omega
  simp only [digit?, UInt8.le_iff_toNat_le, UInt8.toNat_ofNat', small, Bool.and_eq_true, decide_eq_true_eq]
  exact if_pos bounds

theorem ofDigitChars_cons_zero (character : Char) (rest : List Char) : Nat.ofDigitChars 10 (character :: rest) 0 =
    10 ^ rest.length * (character.toNat - 0x30) + Nat.ofDigitChars 10 rest 0 := by
  rw [Nat.ofDigitChars_cons, Nat.ofDigitChars_eq_ofDigitChars_zero, Nat.mul_zero, Nat.zero_add]
  rfl

theorem ofDigitChars_lt {digits : List Char} (areDigits : ∀ character ∈ digits, character.isDigit = true) :
    Nat.ofDigitChars 10 digits 0 < 10 ^ digits.length := by
  induction digits with
  | nil => exact Nat.one_pos
  | cons character rest ih =>
      obtain ⟨isDigit, others⟩ := List.forall_mem_cons.1 areDigits
      have small := (digit?_eq_some (digit?_of_isDigit isDigit)).1
      have below := ih others
      calc Nat.ofDigitChars 10 (character :: rest) 0
        _ = 10 ^ rest.length * (character.toNat - 0x30) + Nat.ofDigitChars 10 rest 0 := ofDigitChars_cons_zero ..
        _ < 10 ^ rest.length * (character.toNat - 0x30 + 1) := by
          rw [Nat.mul_succ]
          omega
        _ ≤ 10 ^ rest.length * 10 := Nat.mul_le_mul_left _ small
        _ = 10 ^ (character :: rest).length := (Nat.pow_succ ..).symm

section Fraction

variable {digits : List Char} (areDigits : ∀ character ∈ digits, character.isDigit = true) {rest : Bytes}
  (ends : ∀ byte tail, rest = byte :: tail → digit? byte = none)

include areDigits ends

theorem readFraction_zero : readFraction 0 (ofAscii digits ++ rest) = (0, rest) := by
  induction digits with
  | nil =>
      cases rest with
      | nil => rfl
      | cons byte tail =>
          change readFraction 0 (byte :: tail) = _
          rw [readFraction, ends byte tail rfl]
  | cons character others ih =>
      obtain ⟨isDigit, areOthers⟩ := List.forall_mem_cons.1 areDigits
      change readFraction 0 (UInt8.ofNat character.toNat :: (ofAscii others ++ rest)) = _
      simp only [readFraction, digit?_of_isDigit isDigit, Nat.zero_div, ih areOthers, Nat.mul_zero, Nat.add_zero]

theorem readFraction_of_digits (exponent : Nat) : readFraction (10 ^ exponent) (ofAscii digits ++ rest) =
    (Nat.ofDigitChars 10 digits 0 * 10 ^ (exponent + 1) / 10 ^ digits.length, rest) := by
  induction digits generalizing exponent with
  | nil =>
      have nothing : Nat.ofDigitChars 10 [] 0 * 10 ^ (exponent + 1) / 10 ^ 0 = 0 := by
        rw [Nat.ofDigitChars_nil, Nat.zero_mul, Nat.zero_div]
      rw [List.length_nil, nothing]
      cases rest with
      | nil => rfl
      | cons byte tail =>
          change readFraction (10 ^ exponent) (byte :: tail) = _
          rw [readFraction, ends byte tail rfl]
  | cons character others ih =>
      obtain ⟨isDigit, areOthers⟩ := List.forall_mem_cons.1 areDigits
      have value : Nat.ofDigitChars 10 (character :: others) 0 * 10 ^ (exponent + 1) /
            10 ^ (character :: others).length =
          (character.toNat - 0x30) * 10 ^ exponent +
            Nat.ofDigitChars 10 others 0 * 10 ^ exponent / 10 ^ others.length := by
        rw [ofDigitChars_cons_zero, List.length_cons, Nat.pow_succ, Nat.pow_succ, ← Nat.mul_assoc,
          Nat.mul_div_mul_right _ _ (by decide), Nat.add_mul, Nat.mul_assoc, Nat.mul_add_div (Nat.pow_pos (by decide))]
      have later : readFraction (10 ^ exponent / 10) (ofAscii others ++ rest) =
          (Nat.ofDigitChars 10 others 0 * 10 ^ exponent / 10 ^ others.length, rest) := by
        cases exponent with
        | zero =>
            have below := ofDigitChars_lt areOthers
            rw [Nat.pow_zero, Nat.mul_one, Nat.div_eq_of_lt below]
            exact readFraction_zero areOthers ends
        | succ exponent =>
            rw [Nat.pow_succ, Nat.mul_div_cancel _ (by decide), ← Nat.pow_succ]
            exact ih areOthers exponent
      change readFraction (10 ^ exponent) (UInt8.ofNat character.toNat :: (ofAscii others ++ rest)) = _
      simp only [readFraction, digit?_of_isDigit isDigit, later, value]

end Fraction

theorem exists_digits (bytes : Bytes) : ∃ digits rest, bytes = ofAscii digits ++ rest ∧
    (∀ character ∈ digits, character.isDigit = true) ∧ ∀ byte tail, rest = byte :: tail → digit? byte = none := by
  induction bytes with
  | nil => exact ⟨[], [], rfl, List.forall_mem_nil _, nofun⟩
  | cons byte behind ih =>
      cases read : digit? byte with
      | none =>
          refine ⟨[], byte :: behind, rfl, List.forall_mem_nil _, ?_⟩
          rintro _ _ ⟨⟩
          exact read
      | some digit =>
          obtain ⟨small, rfl⟩ := digit?_eq_some read
          obtain ⟨digits, rest, rfl, areDigits, ends⟩ := ih
          have isDigit : ∀ number < 10, (digitChar number).isDigit = true := by decide
          exact ⟨digitChar digit :: digits, rest, rfl, List.forall_mem_cons.2 ⟨isDigit digit small, areDigits⟩, ends⟩

theorem readSubsecond_of_isFraction {fraction rest : Bytes} {nanos : Nat} (isFraction : IsFraction fraction nanos)
    (ends : EndsFraction rest) : readSubsecond (fraction ++ rest) = .ok (nanos, rest) := by
  cases isFraction with
  | none => exact readSubsecond_end ends
  | @some digits value spells =>
      obtain ⟨notEmpty, areDigits, rfl⟩ := spells
      obtain ⟨first, others, rfl⟩ := List.exists_cons_of_ne_nil notEmpty
      have isDigit := digit?_of_isDigit (areDigits first List.mem_cons_self)
      have read := readFraction_of_digits areDigits (fun byte tail same => (ends byte tail same).1) 8
      change readSubsecond (0x2E :: UInt8.ofNat first.toNat :: (ofAscii others ++ rest)) = _
      simp only [readSubsecond, isDigit]
      exact congrArg Except.ok read

theorem isFraction_of_readSubsecond {bytes rest : Bytes} {nanos : Nat}
    (read : readSubsecond bytes = .ok (nanos, rest)) :
    ∃ fraction, bytes = fraction ++ rest ∧ IsFraction fraction nanos := by
  unfold readSubsecond at read
  split at read
  · rename_i byte behind
    split at read
    · rename_i digit isDigit
      obtain ⟨digits, others, split, areDigits, ends⟩ := exists_digits (byte :: behind)
      have notEmpty : digits ≠ [] := by
        rintro rfl
        rw [ends byte behind split.symm] at isDigit
        cases isDigit
      rw [split] at read ⊢
      have spelled := readFraction_of_digits areDigits ends 8
      cases (Except.ok.inj read).symm.trans spelled
      exact ⟨_, rfl, .some ⟨notEmpty, areDigits, rfl⟩⟩
    · cases read
  · cases read
  · cases read
    exact ⟨[], rfl, .none⟩

/-! ### Offsets -/

theorem readNumericOffset_iff {sign : Int} {bytes rest : Bytes} {offset : Int} :
    readNumericOffset sign bytes = .ok (offset, rest) ↔ ∃ hour minute : Nat, hour < 24 ∧ minute < 60 ∧
      bytes = ofAscii (twoDigits hour ++ ':' :: twoDigits minute) ++ rest ∧
      offset = sign * (hour * 3600 + minute * 60 : Int) := by
  have text (hour minute : Nat) : ofAscii (twoDigits hour ++ ':' :: twoDigits minute) ++ rest =
      ofAscii (twoDigits hour) ++ 0x3A :: (ofAscii (twoDigits minute) ++ rest) := by
    simp [ofAscii]
  simp only [readNumericOffset, bind_eq_ok_iff, guarded_eq_ok_iff, Prod.exists, readDigits_two_iff, readLiteral_iff,
    text]
  constructor
  · rintro ⟨hour, _, ⟨_, rfl⟩, isHour, _, rfl, minute, _, ⟨_, rfl⟩, isMinute, finished⟩
    cases finished
    exact ⟨hour, minute, by omega, by omega, rfl, rfl⟩
  · rintro ⟨hour, minute, isHour, isMinute, rfl, rfl⟩
    exact ⟨hour, _, ⟨by omega, rfl⟩, by omega, _, rfl, minute, _, ⟨by omega, rfl⟩, by omega, rfl⟩

theorem readOffset_iff {bytes : Bytes} {offset : Int} : readOffset bytes = .ok (offset, []) ↔ IsZone bytes offset := by
  constructor
  · intro read
    cases bytes with
    | nil => cases read
    | cons byte tail =>
        rw [readOffset] at read
        split at read
        · rename_i isZulu
          cases read
          rcases Bool.or_eq_true_iff.1 isZulu with isUpper | isLower
          · rw [beq_iff_eq.1 isUpper]
            exact .upper
          · rw [beq_iff_eq.1 isLower]
            exact .lower
        · split at read
          · rename_i isPlus
            obtain ⟨hour, minute, isHour, isMinute, rfl, rfl⟩ := readNumericOffset_iff.1 read
            rw [beq_iff_eq.1 isPlus, Int.one_mul, List.append_nil]
            exact .ahead isHour isMinute
          · split at read
            · rename_i isMinus
              obtain ⟨hour, minute, isHour, isMinute, rfl, rfl⟩ := readNumericOffset_iff.1 read
              rw [beq_iff_eq.1 isMinus, Int.neg_one_mul, List.append_nil]
              exact .behind isHour isMinute
            · cases read
  · intro isZone
    cases isZone with
    | upper => rfl
    | lower => rfl
    | @ahead hour minute isHour isMinute =>
        rw [readOffset, if_neg (by decide), if_pos (by decide), readNumericOffset_iff]
        exact ⟨hour, minute, isHour, isMinute, (List.append_nil _).symm, (Int.one_mul _).symm⟩
    | @behind hour minute isHour isMinute =>
        rw [readOffset, if_neg (by decide), if_neg (by decide), if_pos (by decide), readNumericOffset_iff]
        exact ⟨hour, minute, isHour, isMinute, (List.append_nil _).symm, (Int.neg_one_mul _).symm⟩

theorem IsZone.endsFraction {zone : Bytes} {offset : Int} (isZone : IsZone zone offset) : EndsFraction zone := by
  intro byte tail same
  cases isZone <;> cases same <;> decide

/-! ### Whole texts -/

theorem skipSeparator_iff {bytes rest : Bytes} :
    skipSeparator bytes = .ok rest ↔ ∃ separator, bytes = separator :: rest := by
  cases bytes <;> simp [skipSeparator]

theorem finished_eq_ok_iff {rest : Bytes} {read fields : Fields} :
    (if rest.isEmpty = true then pure read else throw Fault.trailing : Except Fault Fields) = .ok fields ↔
      rest = [] ∧ read = fields := by
  cases rest <;> simp [pure, Except.pure, throw, throwThe, MonadExceptOf.throw]

theorem readFields_iff {bytes : Bytes} {fields : Fields} : readFields bytes = .ok fields ↔ fields.IsWritten bytes ∧
    fields.year < 10000 ∧ 0 < fields.month ∧ fields.month < 100 ∧ fields.day < 100 ∧ fields.hour < 100 ∧
      fields.minute < 100 ∧ fields.second < 100 := by
  simp only [readFields, bind_eq_ok_iff, guarded_eq_ok_iff, finished_eq_ok_iff, Prod.exists, readDigits_two_iff,
    readDigits_four_iff, readLiteral_iff, skipSeparator_iff]
  constructor
  · rintro ⟨year, _, ⟨isYear, rfl⟩, _, rfl, month, _, ⟨isMonth, rfl⟩, notZero, _, rfl, day, _, ⟨isDay, rfl⟩, _,
      ⟨separator, rfl⟩, hour, _, ⟨isHour, rfl⟩, _, rfl, minute, _, ⟨isMinute, rfl⟩, _, rfl, second, _,
      ⟨isSecond, rfl⟩, nanos, rest, isSubsecond, offset, _, isOffset, rfl, rfl⟩
    obtain ⟨fraction, rfl, isFraction⟩ := isFraction_of_readSubsecond isSubsecond
    refine ⟨⟨separator, fraction, rest, ?_, isFraction, readOffset_iff.1 isOffset⟩, isYear, ?_, isMonth, isDay, isHour,
      isMinute, isSecond⟩
    · simp [ofAscii]
    · exact Nat.pos_of_ne_zero (by simpa using notZero)
  · rintro ⟨⟨separator, fraction, zone, rfl, isFraction, isZone⟩, isYear, positive, isMonth, isDay, isHour, isMinute,
      isSecond⟩
    have subsecond := readSubsecond_of_isFraction isFraction isZone.endsFraction
    refine ⟨fields.year, _, ⟨isYear, ?_⟩, _, rfl, fields.month, _, ⟨isMonth, rfl⟩, ?_, _, rfl, fields.day, _,
      ⟨isDay, rfl⟩, _, ⟨separator, rfl⟩, fields.hour, _, ⟨isHour, rfl⟩, _, rfl, fields.minute, _, ⟨isMinute, rfl⟩, _,
      rfl, fields.second, _, ⟨isSecond, rfl⟩, fields.nanos, zone, subsecond, fields.offset, _,
      readOffset_iff.2 isZone, rfl, rfl⟩
    · simp [ofAscii]
    · simpa using Nat.ne_of_gt positive

theorem toTimestamp_iff {fields : Fields} {time : Timestamp} (isYear : fields.year < 10000)
    (positive : 0 < fields.month) : fields.toTimestamp = .ok time ↔ fields.Denotes time := by
  have monthDay : (fields.day == 0 || decide (Calendar.monthLength fields.year fields.month < fields.day)) = true ↔
      ¬(1 ≤ fields.day ∧ fields.day ≤ Calendar.monthLength fields.year fields.month) := by
    rw [Bool.or_eq_true, beq_iff_eq, decide_eq_true_eq]
    omega
  simp only [Fields.toTimestamp, guarded_eq_ok_iff, monthDay, not_not, Nat.not_lt]
  by_cases isLeap : fields.second = 60
  · simp only [isLeap, beq_self_eq_true, if_true, Bool.true_and, Bool.not_eq_true', Bool.not_eq_false]
    constructor
    · rintro ⟨isMonth, isDay, isHour, isMinute, _, endsMonth, finished⟩
      cases finished
      exact ⟨isYear, ⟨⟨positive, isMonth⟩, isDay⟩, by omega, by omega, Or.inr ⟨isLeap, endsMonth, rfl⟩⟩
    · rintro ⟨_, ⟨⟨_, isMonth⟩, isDay⟩, isHour, isMinute, ⟨notLeap, _⟩ | ⟨_, endsMonth, rfl⟩⟩
      · omega
      · exact ⟨isMonth, isDay, by omega, by omega, Nat.le_refl _, endsMonth, rfl⟩
  · have notLeap : (fields.second == 60) = false := beq_eq_false_iff_ne.2 isLeap
    simp only [notLeap, Bool.false_eq_true, if_false, Bool.false_and, not_false_eq_true, true_and]
    constructor
    · rintro ⟨isMonth, isDay, isHour, isMinute, isSecond, finished⟩
      cases finished
      exact ⟨isYear, ⟨⟨positive, isMonth⟩, isDay⟩, by omega, by omega, Or.inl ⟨by omega, rfl⟩⟩
    · rintro ⟨_, ⟨⟨_, isMonth⟩, isDay⟩, isHour, isMinute, ⟨isSecond, rfl⟩ | ⟨isLeapSecond, _⟩⟩
      · exact ⟨isMonth, isDay, by omega, by omega, by omega, rfl⟩
      · exact absurd isLeapSecond isLeap

/-- A time is read from a text if and only if the text is one of RFC 3339 for it. -/
theorem parse_eq_ok_iff {text : String} {time : Timestamp} : parse text = .ok time ↔ IsRfc3339 text time := by
  rw [parse, bind_eq_ok_iff]
  refine exists_congr fun fields => ?_
  constructor
  · rintro ⟨read, converted⟩
    obtain ⟨isWritten, isYear, positive, _⟩ := readFields_iff.1 read
    exact ⟨isWritten, (toTimestamp_iff isYear positive).1 converted⟩
  · rintro ⟨isWritten, denotes⟩
    obtain ⟨positive, isMonth⟩ := denotes.date.month
    have isDay := denotes.date.day.2
    have shortMonth := monthLength_le fields.year fields.month
    have isHour := denotes.hour
    have isMinute := denotes.minute
    have isSecond : fields.second < 100 := by
      rcases denotes.time with ⟨isPlain, _⟩ | ⟨isLeap, _⟩ <;> omega
    dsimp only at positive isMonth isDay
    have read : readFields (Bytes.ofText text) = .ok fields :=
      readFields_iff.2 ⟨isWritten, denotes.year, positive, by omega, by omega, by omega, by omega, isSecond⟩
    exact ⟨read, (toTimestamp_iff denotes.year positive).2 denotes⟩

/-! ### Written again -/

theorem IsFraction.lt {fraction : Bytes} {nanos : Nat} (isFraction : IsFraction fraction nanos) : nanos < 10 ^ 9 := by
  cases isFraction with
  | none => decide
  | @some digits value spells =>
      obtain ⟨_, areDigits, rfl⟩ := spells
      have below := ofDigitChars_lt areDigits
      rw [Nat.div_lt_iff_lt_mul (Nat.pow_pos (by decide)), Nat.mul_comm]
      exact Nat.mul_lt_mul_of_pos_left below (by decide)

theorem IsZone.whole {zone : Bytes} {offset : Int} (isZone : IsZone zone offset) :
    offset.natAbs < 86400 ∧ offset.natAbs % 60 = 0 := by
  cases isZone with
  | upper | lower => decide
  | ahead isHour isMinute | behind isHour isMinute => omega

theorem year_ofParts {date : Date} (isValid : date.IsValid) {hour minute second nanos : Nat} (isHour : hour < 24)
    (isMinute : minute < 60) (isSecond : second < 60) (isNanos : nanos < 10 ^ 9) (offset : Int) :
    (ofParts date hour minute second nanos offset).date.year = date.year := by
  have days : (ofParts date hour minute second nanos offset).wallClock / nanosPerDay = date.toDays := by
    simp only [ofParts, nanosPerDay, nanosPerSecond]
    omega
  rw [Timestamp.date, days]
  exact Calendar.year_ofDays_toDays isValid

/-- Whatever was read has a text again: reading admits no year and no offset that writing refuses. -/
theorem IsRfc3339.isWritable {text : String} {time : Timestamp} (isTime : IsRfc3339 text time) : time.IsWritable := by
  obtain ⟨fields, ⟨_, _, _, _, isFraction, isZone⟩, isYear, isDate, isHour, isMinute, denoted⟩ := isTime
  have inYears {year : Int} (same : year = fields.year) : 0 ≤ year ∧ year ≤ 9999 := by omega
  rcases denoted with ⟨isSecond, rfl⟩ | ⟨_, _, rfl⟩
  · have year := year_ofParts isDate isHour isMinute isSecond isFraction.lt fields.offset
    exact ⟨inYears year, isZone.whole⟩
  · have year := year_ofParts isDate isHour isMinute (by decide : 59 < 60) (by decide : 999999999 < 10 ^ 9) fields.offset
    exact ⟨inYears year, isZone.whole⟩

end ObjectStore.Timestamp
