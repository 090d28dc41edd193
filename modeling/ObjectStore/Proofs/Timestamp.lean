import ObjectStore.Proofs.Bytes
import ObjectStore.Proofs.Calendar
import ObjectStore.Proofs.Reading
import ObjectStore.Timestamp

/-!
A written time reads back as the same wall clock at the same offset.
-/

namespace ObjectStore

def Bytes.ofAscii (characters : List Char) : Bytes :=
  characters.map fun character => UInt8.ofNat character.toNat

theorem Bytes.ofText_ascii {characters : List Char} (areAscii : ∀ character ∈ characters, character.toNat < 0x80) :
    ofText (String.ofList characters) = ofAscii characters := by
  rw [ofText_ofList]
  induction characters with
  | nil => rfl
  | cons first rest ih =>
      rw [List.flatMap_cons, utf8EncodeChar_of_lt (areAscii first (by simp)),
        ih fun other member => areAscii other (by simp [member])]
      rfl

namespace Timestamp

open Bytes (ofAscii)
open Calendar (Date)

/-! ### Digits -/

theorem toNat_digitChar (value : Nat) : (digitChar value).toNat = 0x30 + value % 10 := by
  have small : value % 10 < 10 := Nat.mod_lt _ (by decide)
  have isScalar : (0x30 + value % 10).isValidChar := Or.inl (by omega)
  rw [digitChar, Char.ofNat, dif_pos isScalar]
  rfl

theorem digit?_digitChar (value : Nat) : digit? (UInt8.ofNat (digitChar value).toNat) = some (value % 10) := by
  have each : ∀ digit < 10, digit? (UInt8.ofNat (0x30 + digit)) = some digit := by decide
  rw [toNat_digitChar]
  exact each _ (Nat.mod_lt _ (by decide))

theorem readDigits_cons (component : Component) (count value digit : Nat) (rest : Bytes) :
    readDigits component (count + 1) value (UInt8.ofNat (digitChar digit).toNat :: rest) =
      readDigits component count (value * 10 + digit % 10) rest := by
  rw [readDigits, digit?_digitChar]

theorem readDigits_two (component : Component) {value : Nat} (small : value < 100) (rest : Bytes) :
    readDigits component 2 0 (ofAscii (twoDigits value) ++ rest) = .ok (value, rest) := by
  have parts : (0 * 10 + value / 10 % 10) * 10 + value % 10 = value := by omega
  change readDigits component 2 0 (UInt8.ofNat (digitChar (value / 10)).toNat ::
    UInt8.ofNat (digitChar value).toNat :: rest) = _
  rw [readDigits_cons, readDigits_cons, parts, readDigits]

theorem readDigits_four (component : Component) {value : Nat} (small : value < 10000) (rest : Bytes) :
    readDigits component 4 0 (ofAscii (fourDigits value) ++ rest) = .ok (value, rest) := by
  have parts : (((0 * 10 + value / 100 / 10 % 10) * 10 + value / 100 % 10) * 10 + value % 100 / 10 % 10) * 10 +
      value % 100 % 10 = value := by omega
  change readDigits component 4 0 (UInt8.ofNat (digitChar (value / 100 / 10)).toNat ::
    UInt8.ofNat (digitChar (value / 100)).toNat :: UInt8.ofNat (digitChar (value % 100 / 10)).toNat ::
    UInt8.ofNat (digitChar (value % 100)).toNat :: rest) = _
  rw [readDigits_cons, readDigits_cons, readDigits_cons, readDigits_cons, parts, readDigits]

theorem readLiteral_cons (expected : UInt8) (rest : Bytes) : readLiteral expected (expected :: rest) = .ok rest := by
  rw [readLiteral, if_pos (beq_self_eq_true expected)]

/-! ### Fractions -/

def EndsFraction (rest : Bytes) : Prop :=
  ∀ byte tail, rest = byte :: tail → digit? byte = none ∧ byte ≠ 0x2E

theorem readFraction_end (weight : Nat) {rest : Bytes} (ends : EndsFraction rest) :
    readFraction weight rest = (0, rest) := by
  cases rest with
  | nil => rfl
  | cons byte tail => simp only [readFraction, (ends byte tail rfl).1]

theorem readFraction_digits (weight : Nat) {value : Nat} (small : value < 10 ^ (weight + 1)) {rest : Bytes}
    (ends : EndsFraction rest) :
    readFraction (10 ^ weight) (ofAscii (fractionDigits (weight + 1) value) ++ rest) = (value, rest) := by
  induction weight generalizing value with
  | zero =>
      have digit : value < 10 := small
      by_cases isZero : value = 0
      · rw [isZero]
        exact readFraction_end _ ends
      · have written : fractionDigits 1 value = [digitChar value] := by
          simp [fractionDigits, isZero, Nat.mod_one]
        have same : value % 10 = value := Nat.mod_eq_of_lt digit
        change readFraction 1 (ofAscii (fractionDigits 1 value) ++ rest) = _
        rw [written]
        change readFraction 1 (UInt8.ofNat (digitChar value).toNat :: rest) = _
        simp only [readFraction, digit?_digitChar, readFraction_end _ ends, same, Nat.mul_one, Nat.add_zero]
  | succ weight ih =>
      by_cases isZero : value = 0
      · rw [isZero]
        exact readFraction_end _ ends
      · have positive : 0 < 10 ^ (weight + 1) := Nat.pow_pos (by decide)
        have written : fractionDigits (weight + 2) value =
            digitChar (value / 10 ^ (weight + 1)) :: fractionDigits (weight + 1) (value % 10 ^ (weight + 1)) := by
          rw [fractionDigits, if_neg (by simpa using isZero)]
          rfl
        have digit : value / 10 ^ (weight + 1) % 10 = value / 10 ^ (weight + 1) := by
          apply Nat.mod_eq_of_lt
          rw [Nat.div_lt_iff_lt_mul positive, Nat.mul_comm, ← Nat.pow_succ]
          exact small
        have lower : 10 ^ (weight + 1) / 10 = 10 ^ weight := by
          rw [Nat.pow_succ, Nat.mul_div_cancel _ (by decide)]
        have later := ih (Nat.mod_lt value positive)
        rw [written]
        change readFraction (10 ^ (weight + 1)) (UInt8.ofNat (digitChar (value / 10 ^ (weight + 1))).toNat ::
          (ofAscii (fractionDigits (weight + 1) (value % 10 ^ (weight + 1))) ++ rest)) = _
        simp only [readFraction, digit?_digitChar, lower, later, digit]
        rw [Nat.mul_comm, Nat.div_add_mod]

theorem readSubsecond_end {rest : Bytes} (ends : EndsFraction rest) : readSubsecond rest = .ok (0, rest) := by
  unfold readSubsecond
  split
  · exact absurd rfl (ends _ _ rfl).2
  · exact absurd rfl (ends _ _ rfl).2
  · rfl

theorem readSubsecond_fractionText {nanos : Nat} (small : nanos < 1000000000) {rest : Bytes}
    (ends : EndsFraction rest) : readSubsecond (ofAscii (fractionText nanos) ++ rest) = .ok (nanos, rest) := by
  by_cases isZero : nanos = 0
  · rw [isZero]
    exact readSubsecond_end ends
  · have written : fractionText nanos =
        '.' :: digitChar (nanos / 10 ^ 8) :: fractionDigits 8 (nanos % 10 ^ 8) := by
      rw [fractionText, if_neg (by simpa using isZero), fractionDigits, if_neg (by simpa using isZero)]
      rfl
    have read := readFraction_digits 8 small ends
    rw [fractionDigits, if_neg (by simpa using isZero)] at read
    rw [written]
    change readSubsecond (0x2E :: UInt8.ofNat (digitChar (nanos / 10 ^ 8)).toNat ::
      (ofAscii (fractionDigits 8 (nanos % 10 ^ 8)) ++ rest)) = _
    simp only [readSubsecond, digit?_digitChar]
    exact congrArg Except.ok read

/-! ### Offsets -/

theorem endsFraction_offsetText (offset : Int) : EndsFraction (ofAscii (offsetText offset)) := by
  intro byte tail same
  unfold offsetText at same
  split at same
  · cases same
    decide
  · split at same
    · cases same
      decide
    · cases same
      decide

theorem readNumericOffset_digits (sign : Int) {hour minute : Nat} (isHour : hour < 24) (isMinute : minute < 60) :
    readNumericOffset sign (ofAscii (twoDigits hour ++ ':' :: twoDigits minute)) =
      .ok (sign * (hour * 3600 + minute * 60 : Int), []) := by
  have hours := readDigits_two .offsetHour (Nat.lt_trans isHour (by decide : 24 < 100))
  have minutes := readDigits_two .offsetMinute (Nat.lt_trans isMinute (by decide : 60 < 100)) []
  have text : ofAscii (twoDigits hour ++ ':' :: twoDigits minute) =
      ofAscii (twoDigits hour) ++ 0x3A :: ofAscii (twoDigits minute) := List.map_append
  rw [List.append_nil] at minutes
  simp only [readNumericOffset, text, hours, bind, Except.bind,
    if_neg (show ¬23 < hour by omega), readLiteral_cons, minutes, if_neg (show ¬59 < minute by omega)]
  rfl

theorem readOffset_offsetText {offset : Int} (small : offset.natAbs < 86400) (whole : offset.natAbs % 60 = 0) :
    readOffset (ofAscii (offsetText offset)) = .ok (offset, []) := by
  have isHour : offset.natAbs / 3600 < 24 := by omega
  have isMinute : offset.natAbs / 60 % 60 < 60 := Nat.mod_lt _ (by decide)
  have parts : offset.natAbs / 3600 * 3600 + offset.natAbs / 60 % 60 * 60 = offset.natAbs := by omega
  by_cases isZero : offset = 0
  · rw [isZero]
    rfl
  · by_cases negative : offset < 0
    · have written : ofAscii (offsetText offset) =
          0x2D :: ofAscii (twoDigits (offset.natAbs / 3600) ++ ':' :: twoDigits (offset.natAbs / 60 % 60)) := by
        rw [offsetText, if_neg (by simpa using isZero), if_pos negative]
        rfl
      rw [written, readOffset, if_neg (by decide), if_neg (by decide), if_pos (by decide),
        readNumericOffset_digits (-1) isHour isMinute]
      congr 2
      omega
    · have written : ofAscii (offsetText offset) =
          0x2B :: ofAscii (twoDigits (offset.natAbs / 3600) ++ ':' :: twoDigits (offset.natAbs / 60 % 60)) := by
        rw [offsetText, if_neg (by simpa using isZero), if_neg negative]
        rfl
      rw [written, readOffset, if_neg (by decide), if_pos (by decide), readNumericOffset_digits 1 isHour isMinute]
      congr 2
      omega

/-! ### Whole texts -/

structure Fields.IsPlain (fields : Fields) : Prop where
  year : fields.year < 10000
  date : Date.IsValid ⟨fields.year, fields.month, fields.day⟩
  hour : fields.hour < 24
  minute : fields.minute < 60
  second : fields.second < 60
  nanos : fields.nanos < 1000000000
  offset : fields.offset.natAbs < 86400 ∧ fields.offset.natAbs % 60 = 0

def Fields.characters (fields : Fields) : List Char :=
  fourDigits fields.year ++ '-' :: twoDigits fields.month ++ '-' :: twoDigits fields.day ++
    'T' :: twoDigits fields.hour ++ ':' :: twoDigits fields.minute ++ ':' :: twoDigits fields.second ++
    fractionText fields.nanos ++ offsetText fields.offset

theorem monthLength_le (year : Int) (month : Nat) : Calendar.monthLength year month ≤ 31 := by
  have lengths : ∀ length ∈ Calendar.monthLengths year, length ≤ 31 := by
    simp only [Calendar.monthLengths, List.mem_cons, List.not_mem_nil, or_false]
    rintro length (rfl | rfl | rfl | rfl | rfl | rfl | rfl | rfl | rfl | rfl | rfl | rfl)
    all_goals (try split) <;> omega
  rw [Calendar.monthLength, List.getD_eq_getElem?_getD]
  cases found : (Calendar.monthLengths year)[month - 1]? with
  | none => exact Nat.zero_le _
  | some length => exact lengths length (List.mem_of_getElem? found)

theorem readFields_characters {fields : Fields} (isPlain : fields.IsPlain) :
    readFields (ofAscii fields.characters) = .ok fields := by
  obtain ⟨isYear, ⟨isMonth, isDay⟩, isHour, isMinute, isSecond, isNanos, small, whole⟩ := isPlain
  dsimp only at isMonth isDay
  have shortMonth := monthLength_le fields.year fields.month
  have notZero : (fields.month == 0) = false := by simpa using Nat.ne_of_gt isMonth.1
  have month := readDigits_two .month (by omega : fields.month < 100)
  have day := readDigits_two .day (by omega : fields.day < 100)
  have hour := readDigits_two .hour (by omega : fields.hour < 100)
  have minute := readDigits_two .minute (by omega : fields.minute < 100)
  have second := readDigits_two .second (by omega : fields.second < 100)
  have ends := endsFraction_offsetText fields.offset
  have text : ofAscii fields.characters = ofAscii (fourDigits fields.year) ++ 0x2D ::
      (ofAscii (twoDigits fields.month) ++ 0x2D :: (ofAscii (twoDigits fields.day) ++ 0x54 ::
        (ofAscii (twoDigits fields.hour) ++ 0x3A :: (ofAscii (twoDigits fields.minute) ++ 0x3A ::
          (ofAscii (twoDigits fields.second) ++ (ofAscii (fractionText fields.nanos) ++
            ofAscii (offsetText fields.offset))))))) := by
    simp [ofAscii, Fields.characters]
  simp only [readFields, text, readDigits_four .year isYear, month, day, hour, minute, second, readLiteral_cons,
    notZero, Bool.false_eq_true, skipSeparator, readSubsecond_fractionText isNanos ends,
    readOffset_offsetText small whole, bind, Except.bind, pure, Except.pure, if_false, List.isEmpty_nil, if_true]

theorem toTimestamp_plain {fields : Fields} (isPlain : fields.IsPlain) :
    fields.toTimestamp = .ok (ofParts ⟨fields.year, fields.month, fields.day⟩ fields.hour fields.minute
      fields.second fields.nanos fields.offset) := by
  obtain ⟨_, ⟨isMonth, isDay⟩, isHour, isMinute, isSecond, _, _⟩ := isPlain
  dsimp only at isMonth isDay
  have notLeap : (fields.second == 60) = false := by
    rw [beq_eq_false_iff_ne]
    omega
  have day : (fields.day == 0 || decide (Calendar.monthLength fields.year fields.month < fields.day)) = false := by
    simp only [Bool.or_eq_false_iff, beq_eq_false_iff_ne, decide_eq_false_iff_not]
    omega
  simp only [Fields.toTimestamp, notLeap, Bool.false_eq_true, if_false, if_neg (show ¬12 < fields.month by omega), day,
    if_neg (show ¬23 < fields.hour by omega), if_neg (show ¬59 < fields.minute by omega),
    if_neg (show ¬59 < fields.second by omega), Bool.false_and, bind, Except.bind, pure, Except.pure]

theorem lt_of_mem_digits {character : Char} (digits : List Nat) (member : character ∈ digits.map digitChar) :
    character.toNat < 0x80 := by
  obtain ⟨value, _, rfl⟩ := List.mem_map.1 member
  have small : value % 10 < 10 := Nat.mod_lt _ (by decide)
  rw [toNat_digitChar]
  omega

theorem fractionDigits_eq_map (weight value : Nat) :
    ∃ digits, fractionDigits weight value = List.map digitChar digits := by
  induction weight generalizing value with
  | zero => exact ⟨[], by simp [fractionDigits]⟩
  | succ weight ih =>
      obtain ⟨digits, later⟩ := ih (value % 10 ^ weight)
      by_cases isZero : value = 0
      · exact ⟨[], by simp [fractionDigits, isZero]⟩
      · refine ⟨value / 10 ^ weight :: digits, ?_⟩
        rw [fractionDigits, if_neg (by simpa using isZero), List.map_cons, ← later]
        rfl

theorem isAscii_characters (fields : Fields) : ∀ character ∈ fields.characters, character.toNat < 0x80 := by
  have two (value : Nat) : ∀ character ∈ twoDigits value, character.toNat < 0x80 :=
    fun character member => lt_of_mem_digits [value / 10, value] member
  have fraction : ∀ character ∈ fractionText fields.nanos, character.toNat < 0x80 := by
    intro character member
    obtain ⟨digits, written⟩ := fractionDigits_eq_map 9 fields.nanos
    unfold fractionText at member
    split at member
    · cases member
    · rcases List.mem_cons.1 member with rfl | inDigits
      · decide
      · rw [written] at inDigits
        exact lt_of_mem_digits digits inDigits
  have offset : ∀ character ∈ offsetText fields.offset, character.toNat < 0x80 := by
    intro character member
    unfold offsetText at member
    split at member
    · rw [List.mem_singleton.1 member]
      decide
    · simp only [List.cons_append, List.mem_cons, List.mem_append] at member
      rcases member with rfl | inHour | rfl | inMinute
      · split <;> decide
      · exact two _ character inHour
      · decide
      · exact two _ character inMinute
  simp only [Fields.characters, fourDigits, List.mem_append, List.mem_cons]
  rintro character ((((((((inYear | inYear) | rfl | inMonth) | rfl | inDay) | rfl | inHour) | rfl | inMinute) | rfl |
    inSecond) | inFraction) | inOffset)
  all_goals first | decide | exact two _ character ‹_› | exact fraction character ‹_› | exact offset character ‹_›

def fields (time : Timestamp) : Fields :=
  let nanosOfDay := (time.wallClock % nanosPerDay).toNat
  let secondOfDay := nanosOfDay / 1000000000
  ⟨time.date.year.toNat, time.date.month, time.date.day, secondOfDay / 3600, secondOfDay / 60 % 60,
    secondOfDay % 60, nanosOfDay % 1000000000, time.offset⟩

theorem ofParts_fields (time : Timestamp) :
    ofParts time.date time.fields.hour time.fields.minute time.fields.second time.fields.nanos time.offset = time := by
  have days := (Calendar.ofDays_spec (time.wallClock / nanosPerDay)).2
  have ofDay := Int.emod_nonneg time.wallClock (b := nanosPerDay) (by decide)
  have inDay := Int.emod_lt_of_pos time.wallClock (b := nanosPerDay) (by decide)
  have whole := Int.mul_ediv_add_emod time.wallClock nanosPerDay
  have wallClock : (ofParts time.date time.fields.hour time.fields.minute time.fields.second time.fields.nanos
      time.offset).wallClock = time.wallClock := by
    simp only [ofParts, date, days, fields, nanosPerDay, nanosPerSecond] at *
    omega
  exact congrArg (Timestamp.mk · time.offset) wallClock

/-- There is a text only for a year of four digits, and for an offset of whole minutes below a day. -/
structure IsWritable (time : Timestamp) : Prop where
  year : 0 ≤ time.date.year ∧ time.date.year ≤ 9999
  offset : time.offset.natAbs < 86400 ∧ time.offset.natAbs % 60 = 0

theorem write_eq_ok_iff {time : Timestamp} {text : String} :
    time.write = .ok text ↔ time.IsWritable ∧ text = String.ofList time.fields.characters := by
  have isYear : (decide (time.date.year < 0) || decide (9999 < time.date.year)) = true ↔
      ¬(0 ≤ time.date.year ∧ time.date.year ≤ 9999) := by
    rw [Bool.or_eq_true, decide_eq_true_eq, decide_eq_true_eq]
    omega
  simp only [write, guarded_eq_ok_iff, isYear, not_not, Nat.not_le, bne_iff_ne]
  constructor
  · rintro ⟨year, small, whole, finished⟩
    exact ⟨⟨year, small, whole⟩, (Except.ok.inj finished).symm⟩
  · rintro ⟨⟨year, small, whole⟩, rfl⟩
    exact ⟨year, small, whole, rfl⟩

theorem format?_eq_some_iff {time : Timestamp} {text : String} :
    time.format? = some text ↔ time.write = .ok text := by
  rw [format?]
  cases time.write <;> simp [Except.toOption]

theorem isPlain_fields {time : Timestamp} (writable : time.IsWritable) : time.fields.IsPlain := by
  obtain ⟨⟨notNegative, isYear⟩, offset⟩ := writable
  have isValid := (Calendar.ofDays_spec (time.wallClock / nanosPerDay)).1
  have year : (time.date.year.toNat : Int) = time.date.year := Int.toNat_of_nonneg notNegative
  have ofDay := Int.emod_nonneg time.wallClock (b := nanosPerDay) (by decide)
  have inDay := Int.emod_lt_of_pos time.wallClock (b := nanosPerDay) (by decide)
  simp only [nanosPerDay, nanosPerSecond] at inDay
  refine ⟨?_, ?_, ?_, ?_, ?_, ?_, offset⟩
  · simp only [fields]
    omega
  · simp only [fields, year]
    exact isValid
  all_goals
    simp only [fields, nanosPerDay, nanosPerSecond]
    omega

/-- What is written reads back as the time that it was written for. -/
theorem parse_write {time : Timestamp} {text : String} (written : time.write = .ok text) : parse text = .ok time := by
  obtain ⟨writable, same⟩ := write_eq_ok_iff.1 written
  have isPlain := isPlain_fields writable
  have year : (time.date.year.toNat : Int) = time.date.year := Int.toNat_of_nonneg writable.year.1
  have date : (⟨time.fields.year, time.fields.month, time.fields.day⟩ : Date) = time.date := by
    simp only [fields, year]
  rw [parse, same, Bytes.ofText_ascii (isAscii_characters _), readFields_characters isPlain]
  change time.fields.toTimestamp = _
  rw [toTimestamp_plain isPlain, date]
  exact congrArg Except.ok (ofParts_fields time)

theorem parse_format {time : Timestamp} {text : String} (written : time.format? = some text) :
    parse text = .ok time :=
  parse_write (format?_eq_some_iff.1 written)

end Timestamp

end ObjectStore
