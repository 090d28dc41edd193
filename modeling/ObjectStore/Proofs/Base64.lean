import Mathlib.Tactic.IntervalCases
import ObjectStore.Base64
import ObjectStore.Proofs.Percent
import ObjectStore.Proofs.Reading

/-!
Base64 loses nothing: a written text decodes to the bytes it was made of, and no other text decodes at all.
-/

namespace ObjectStore.Base64

/-! ### Symbols -/

theorem value?_symbol {value : UInt8} (small : value.toNat < 64) :
    value? (symbol value) = some value ∧ symbol value ≠ padding ∧ symbol value < 0x80 := by
  have each : ∀ number < 64, value? (symbol (UInt8.ofNat number)) = some (UInt8.ofNat number) ∧
      symbol (UInt8.ofNat number) ≠ padding ∧ symbol (UInt8.ofNat number) < 0x80 := by decide
  have found := each value.toNat small
  rwa [UInt8.ofNat_toNat] at found

theorem valueAt_symbol (offset : Nat) {value : UInt8} (small : value.toNat < 64) :
    valueAt offset (symbol value) = .ok value := by
  rw [valueAt, (value?_symbol small).1]

theorem lt_of_mask {value : UInt8} (same : value &&& 0x3F = value) : value.toNat < 64 := by
  have masked := congrArg UInt8.toNat same
  rw [UInt8.toNat_and] at masked
  have bound : value.toNat &&& 0x3F ≤ 0x3F := Nat.and_le_right
  change value.toNat &&& 0x3F = value.toNat at masked
  omega

/-! ### Bits of a group -/

def firstSextet (a : UInt8) : UInt8 :=
  a >>> 2

def secondSextet (a b : UInt8) : UInt8 :=
  ((a &&& 3) <<< 4) ||| (b >>> 4)

def thirdSextet (b c : UInt8) : UInt8 :=
  ((b &&& 0xF) <<< 2) ||| (c >>> 6)

def fourthSextet (c : UInt8) : UInt8 :=
  c &&& 0x3F

section Group

variable (a b c : UInt8)

-- Compared bit by bit, so that the kernel sees eight small facts for each equation.
theorem mask_sextets : firstSextet a &&& 0x3F = firstSextet a ∧ secondSextet a b &&& 0x3F = secondSextet a b ∧
    thirdSextet b c &&& 0x3F = thirdSextet b c ∧ fourthSextet c &&& 0x3F = fourthSextet c := by
  simp only [firstSextet, secondSextet, thirdSextet, fourthSextet, ← UInt8.toBitVec_inj, UInt8.toBitVec_or,
    UInt8.toBitVec_and, UInt8.toBitVec_shiftLeft, UInt8.toBitVec_shiftRight]
  refine ⟨?_, ?_, ?_, ?_⟩ <;>
  · ext index bound
    interval_cases index <;> simp

theorem join_sextets : (firstSextet a <<< 2) ||| (secondSextet a b >>> 4) = a ∧
    (secondSextet a b <<< 4) ||| (thirdSextet b c >>> 2) = b ∧ (thirdSextet b c <<< 6) ||| fourthSextet c = c := by
  simp only [firstSextet, secondSextet, thirdSextet, fourthSextet, ← UInt8.toBitVec_inj, UInt8.toBitVec_or,
    UInt8.toBitVec_and, UInt8.toBitVec_shiftLeft, UInt8.toBitVec_shiftRight]
  refine ⟨?_, ?_, ?_⟩ <;>
  · ext index bound
    interval_cases index <;> simp

theorem unused_bits : secondSextet a 0 &&& 0xF = 0 ∧ thirdSextet b 0 &&& 3 = 0 := by
  simp only [secondSextet, thirdSextet, ← UInt8.toBitVec_inj, UInt8.toBitVec_or, UInt8.toBitVec_and,
    UInt8.toBitVec_shiftLeft, UInt8.toBitVec_shiftRight]
  refine ⟨?_, ?_⟩ <;>
  · ext index bound
    interval_cases index <;> simp

theorem sextets_lt : (firstSextet a).toNat < 64 ∧ (secondSextet a b).toNat < 64 ∧ (thirdSextet b c).toNat < 64 ∧
    (fourthSextet c).toNat < 64 := by
  obtain ⟨first, second, third, fourth⟩ := mask_sextets a b c
  exact ⟨lt_of_mask first, lt_of_mask second, lt_of_mask third, lt_of_mask fourth⟩

end Group

/-! ### Groups -/

theorem encodeBytes_one (a : UInt8) :
    encodeBytes [a] = [symbol (firstSextet a), symbol (secondSextet a 0), padding, padding] := by
  have second : secondSextet a 0 = (a &&& 3) <<< 4 := UInt8.or_zero
  rw [second]
  rfl

theorem encodeBytes_two (a b : UInt8) : encodeBytes [a, b] =
    [symbol (firstSextet a), symbol (secondSextet a b), symbol (thirdSextet b 0), padding] := by
  have third : thirdSextet b 0 = (b &&& 0xF) <<< 2 := UInt8.or_zero
  rw [third]
  rfl

theorem encodeBytes_three (a b c : UInt8) (rest : Bytes) : encodeBytes (a :: b :: c :: rest) =
    symbol (firstSextet a) :: symbol (secondSextet a b) :: symbol (thirdSextet b c) :: symbol (fourthSextet c) ::
      encodeBytes rest :=
  rfl

theorem lastGroup_symbol (offset index : Nat) {value : UInt8} (small : value.toNat < 64) (rest : Bytes) :
    lastGroup offset index none (symbol value :: rest) =
      (lastGroup offset (index + 1) none rest).map fun values => (symbol value, value) :: values := by
  have notPadding : ¬(symbol value == padding) = true := by simpa using (value?_symbol small).2.1
  rw [lastGroup, if_neg notPadding, valueAt_symbol _ small]
  cases lastGroup offset (index + 1) none rest <;> rfl

theorem decodeFrom_encodeBytes {bytes : Bytes} (notEmpty : bytes ≠ []) (offset : Nat) :
    decodeFrom offset (encodeBytes bytes) = .ok bytes := by
  induction bytes using encodeBytes.induct generalizing offset with
  | case1 => exact absurd rfl notEmpty
  | case2 a =>
      obtain ⟨first, second, _, _⟩ := sextets_lt a 0 0
      have read : lastGroup offset 2 none [padding, padding] = .ok [] := rfl
      have joined := (join_sextets a 0 0).1
      rw [encodeBytes_one]
      simp only [decodeFrom, lastGroup_symbol _ _ first, lastGroup_symbol _ _ second, read, Except.map, bind,
        Except.bind, lastBytes, (unused_bits a 0).1, joined]
      rfl
  | case3 a b =>
      obtain ⟨first, second, third, _⟩ := sextets_lt a b 0
      have read : lastGroup offset 3 none [padding] = .ok [] := rfl
      obtain ⟨joinedFirst, joinedSecond, _⟩ := join_sextets a b 0
      rw [encodeBytes_two]
      simp only [decodeFrom, lastGroup_symbol _ _ first, lastGroup_symbol _ _ second, lastGroup_symbol _ _ third, read,
        Except.map, bind, Except.bind, lastBytes, (unused_bits 0 b).2, joinedFirst, joinedSecond]
      rfl
  | case4 a b c rest ih =>
      obtain ⟨first, second, third, fourth⟩ := sextets_lt a b c
      obtain ⟨joinedFirst, joinedSecond, joinedThird⟩ := join_sextets a b c
      rw [encodeBytes_three]
      cases later : encodeBytes rest with
      | nil =>
          have isEmpty : rest = [] := by
            cases rest using encodeBytes.fun_cases with
            | case1 => rfl
            | case2 | case3 | case4 => cases later
          have read : lastGroup offset 4 none [] = .ok [] := rfl
          simp only [decodeFrom, lastGroup_symbol _ _ first, lastGroup_symbol _ _ second,
            lastGroup_symbol _ _ third, lastGroup_symbol _ _ fourth, read, Except.map, bind, Except.bind,
            lastBytes, joinedFirst, joinedSecond, joinedThird, isEmpty]
      | cons following others =>
          have restNotEmpty : rest ≠ [] := by
            rintro rfl
            cases later
          have tail := ih restNotEmpty (offset + 4)
          rw [later] at tail
          simp only [decodeFrom, valueAt_symbol _ first, valueAt_symbol _ second, valueAt_symbol _ third,
            valueAt_symbol _ fourth, tail, bind, Except.bind, joinedFirst, joinedSecond, joinedThird]
          rfl

theorem length_encodeBytes (bytes : Bytes) : (encodeBytes bytes).length % 4 = 0 := by
  induction bytes using encodeBytes.induct with
  | case1 | case2 | case3 => simp [encodeBytes]
  | case4 a b c rest ih =>
      rw [encodeBytes_three]
      simp only [List.length_cons]
      omega

theorem isAscii_encodeBytes (bytes : Bytes) : Bytes.IsAscii (encodeBytes bytes) := by
  have isAscii {value : UInt8} (small : value.toNat < 64) : symbol value < 0x80 := (value?_symbol small).2.2
  have isAsciiPadding : padding < 0x80 := by decide
  induction bytes using encodeBytes.induct with
  | case1 => simp [encodeBytes, Bytes.IsAscii]
  | case2 a =>
      obtain ⟨first, second, _, _⟩ := sextets_lt a 0 0
      rw [encodeBytes_one]
      simp [Bytes.IsAscii, isAscii first, isAscii second, isAsciiPadding]
  | case3 a b =>
      obtain ⟨first, second, third, _⟩ := sextets_lt a b 0
      rw [encodeBytes_two]
      simp [Bytes.IsAscii, isAscii first, isAscii second, isAscii third, isAsciiPadding]
  | case4 a b c rest ih =>
      obtain ⟨first, second, third, fourth⟩ := sextets_lt a b c
      rw [encodeBytes_three]
      simp only [Bytes.IsAscii, List.forall_mem_cons]
      exact ⟨isAscii first, isAscii second, isAscii third, isAscii fourth, ih⟩

theorem ofText_encode (bytes : Bytes) : Bytes.ofText (encode bytes) = encodeBytes bytes :=
  Percent.ofText_asciiText (isAscii_encodeBytes bytes)

theorem decode_encode (bytes : Bytes) : decode (encode bytes) = .ok bytes := by
  have notLone : ¬((encodeBytes bytes).length % 4 == 1) = true := by simp [length_encodeBytes]
  rw [decode, ofText_encode, decodeBytes, if_neg notLone]
  by_cases isEmpty : bytes = []
  · rw [isEmpty]
    rfl
  · exact decodeFrom_encodeBytes isEmpty 0

/-! ### Canonical texts -/

theorem symbol_of_value? {byte value : UInt8} (found : value? byte = some value) :
    byte = symbol value ∧ value &&& 0x3F = value := by
  have each : ∀ number < 256, (value? (UInt8.ofNat number)).all (fun value =>
      UInt8.ofNat number == symbol value && value &&& 0x3F == value) = true := by decide +kernel
  have read := each byte.toNat byte.toNat_lt
  rw [UInt8.ofNat_toNat, found, Option.all_some, Bool.and_eq_true, beq_iff_eq, beq_iff_eq] at read
  exact read

theorem valueAt_eq_ok {offset : Nat} {byte value : UInt8} (read : valueAt offset byte = .ok value) :
    byte = symbol value ∧ value &&& 0x3F = value := by
  unfold valueAt at read
  split at read
  · rename_i found
    cases read
    exact symbol_of_value? found
  · cases read

theorem split_bytes {a b c d : UInt8} (first : a &&& 0x3F = a) (second : b &&& 0x3F = b) (third : c &&& 0x3F = c)
    (fourth : d &&& 0x3F = d) :
    firstSextet ((a <<< 2) ||| (b >>> 4)) = a ∧
      secondSextet ((a <<< 2) ||| (b >>> 4)) ((b <<< 4) ||| (c >>> 2)) = b ∧
      thirdSextet ((b <<< 4) ||| (c >>> 2)) ((c <<< 6) ||| d) = c ∧ fourthSextet ((c <<< 6) ||| d) = d := by
  -- With the two upper bits masked, each equation is again one about single bits.
  rw [← first, ← second, ← third, ← fourth]
  simp only [firstSextet, secondSextet, thirdSextet, fourthSextet, ← UInt8.toBitVec_inj, UInt8.toBitVec_or,
    UInt8.toBitVec_and, UInt8.toBitVec_shiftLeft, UInt8.toBitVec_shiftRight]
  refine ⟨?_, ?_, ?_, ?_⟩ <;>
  · ext index bound
    interval_cases index <;> simp

theorem lastGroup_eq_ok {offset index : Nat} {bytes : Bytes} {values : List (UInt8 × UInt8)}
    (read : lastGroup offset index none bytes = .ok values) :
    ∃ padded, bytes = values.map Prod.fst ++ List.replicate padded padding ∧
      ∀ entry ∈ values, entry.1 = symbol entry.2 ∧ entry.2 &&& 0x3F = entry.2 := by
  have onlyPadding {index first : Nat} {rest : Bytes} {others : List (UInt8 × UInt8)}
      (readRest : lastGroup offset index (some first) rest = .ok others) :
      others = [] ∧ rest = List.replicate rest.length padding := by
    induction rest generalizing index first with
    | nil =>
        cases readRest
        exact ⟨rfl, rfl⟩
    | cons byte rest ih =>
        rw [lastGroup] at readRest
        split at readRest
        · rename_i isPadding
          split at readRest
          · cases readRest
          · obtain ⟨isEmpty, same⟩ := ih readRest
            refine ⟨isEmpty, ?_⟩
            rw [List.length_cons, List.replicate_succ, ← same, eq_of_beq isPadding]
        · cases readRest
  induction bytes generalizing index values with
  | nil =>
      cases read
      exact ⟨0, rfl, fun entry member => absurd member List.not_mem_nil⟩
  | cons byte rest ih =>
      rw [lastGroup] at read
      split at read
      · rename_i isPadding
        split at read
        · cases read
        · obtain ⟨rfl, same⟩ := onlyPadding read
          refine ⟨rest.length + 1, ?_, fun entry member => absurd member List.not_mem_nil⟩
          rw [List.map_nil, List.nil_append, List.replicate_succ, ← same, eq_of_beq isPadding]
      · simp only [bind_eq_ok_iff] at read
        obtain ⟨value, isValue, others, readRest, finished⟩ := read
        cases finished
        obtain ⟨padded, split, symbols⟩ := ih readRest
        refine ⟨padded, by rw [split]; rfl, ?_⟩
        intro entry member
        rcases List.mem_cons.1 member with rfl | inOthers
        · exact valueAt_eq_ok isValue
        · exact symbols entry inOthers

theorem shiftLeft_of_unused {value : UInt8} (masked : value &&& 0x3F = value) :
    (value &&& 0xF = 0 → value <<< 4 = 0) ∧ (value &&& 3 = 0 → value <<< 6 = 0) := by
  have each : ∀ number < 256, UInt8.ofNat number &&& 0x3F = UInt8.ofNat number →
      (UInt8.ofNat number &&& 0xF = 0 → UInt8.ofNat number <<< 4 = 0) ∧
        (UInt8.ofNat number &&& 3 = 0 → UInt8.ofNat number <<< 6 = 0) := by decide +kernel
  have found := each value.toNat value.toNat_lt
  rw [UInt8.ofNat_toNat] at found
  exact found masked

theorem lastBytes_eq_ok {offset padded : Nat} {values : List (UInt8 × UInt8)} {bytes : Bytes}
    (symbols : ∀ entry ∈ values, entry.1 = symbol entry.2 ∧ entry.2 &&& 0x3F = entry.2)
    (short : values.length + padded ≤ 4) (read : lastBytes offset (values.length + padded) values = .ok bytes) :
    values.map Prod.fst ++ List.replicate padded padding = encodeBytes bytes := by
  rcases values with _ | ⟨⟨first, a⟩, _ | ⟨⟨second, b⟩, _ | ⟨⟨third, c⟩, _ | ⟨⟨fourth, d⟩, rest⟩⟩⟩⟩
  · simp only [lastBytes] at read
    split at read
    · rename_i isEmpty
      cases read
      have none : padded = 0 := (by simpa using isEmpty : offset = 0 ∧ padded = 0).2
      rw [none]
      rfl
    · cases read
  · cases read
  · simp only [lastBytes] at read
    split at read
    · cases read
    · rename_i full
      split at read
      · cases read
      · rename_i unused
        cases read
        obtain ⟨isFirst, maskFirst⟩ := symbols (first, a) (by simp)
        obtain ⟨isSecond, maskSecond⟩ := symbols (second, b) (by simp)
        have size : 2 + padded = 4 := by simpa using full
        have two : padded = 2 := by omega
        have noRest : (b <<< 4) ||| ((0 : UInt8) >>> 2) = 0 := by
          rw [(shiftLeft_of_unused maskSecond).1 (by simpa using unused)]
          rfl
        obtain ⟨splitFirst, splitSecond, _⟩ := split_bytes maskFirst maskSecond (c := 0) (d := 0) rfl rfl
        rw [noRest] at splitSecond
        rw [encodeBytes_one, splitFirst, splitSecond, two, ← isFirst, ← isSecond]
        rfl
  · simp only [lastBytes] at read
    split at read
    · cases read
    · rename_i full
      split at read
      · cases read
      · rename_i unused
        cases read
        obtain ⟨isFirst, maskFirst⟩ := symbols (first, a) (by simp)
        obtain ⟨isSecond, maskSecond⟩ := symbols (second, b) (by simp)
        obtain ⟨isThird, maskThird⟩ := symbols (third, c) (by simp)
        have size : 3 + padded = 4 := by simpa using full
        have one : padded = 1 := by omega
        have noRest : (c <<< 6) ||| (0 : UInt8) = 0 := by
          rw [(shiftLeft_of_unused maskThird).2 (by simpa using unused)]
          rfl
        obtain ⟨splitFirst, splitSecond, splitThird, _⟩ :=
          split_bytes maskFirst maskSecond maskThird (d := 0) rfl
        rw [noRest] at splitThird
        rw [encodeBytes_two, splitFirst, splitSecond, splitThird, one, ← isFirst, ← isSecond, ← isThird]
        rfl
  · cases read
    simp only [List.length_cons] at short
    have noMore : rest = [] := List.length_eq_zero_iff.1 (by omega)
    have none : padded = 0 := by omega
    obtain ⟨isFirst, maskFirst⟩ := symbols (first, a) (by simp)
    obtain ⟨isSecond, maskSecond⟩ := symbols (second, b) (by simp)
    obtain ⟨isThird, maskThird⟩ := symbols (third, c) (by simp)
    obtain ⟨isFourth, maskFourth⟩ := symbols (fourth, d) (by simp)
    obtain ⟨splitFirst, splitSecond, splitThird, splitFourth⟩ :=
      split_bytes maskFirst maskSecond maskThird maskFourth
    rw [noMore, none, encodeBytes_three, splitFirst, splitSecond, splitThird, splitFourth, ← isFirst, ← isSecond,
      ← isThird, ← isFourth]
    rfl

theorem decodeFrom_eq_ok {offset : Nat} {input bytes : Bytes} (read : decodeFrom offset input = .ok bytes) :
    input = encodeBytes bytes := by
  induction offset, input using decodeFrom.induct generalizing bytes with
  | case1 offset first second third fourth following rest ih =>
      simp only [decodeFrom, bind_eq_ok_iff] at read
      obtain ⟨a, isFirst, b, isSecond, c, isThird, d, isFourth, tail, readTail, finished⟩ := read
      cases finished
      obtain ⟨rfl, maskFirst⟩ := valueAt_eq_ok isFirst
      obtain ⟨rfl, maskSecond⟩ := valueAt_eq_ok isSecond
      obtain ⟨rfl, maskThird⟩ := valueAt_eq_ok isThird
      obtain ⟨rfl, maskFourth⟩ := valueAt_eq_ok isFourth
      obtain ⟨splitFirst, splitSecond, splitThird, splitFourth⟩ :=
        split_bytes maskFirst maskSecond maskThird maskFourth
      rw [encodeBytes_three, splitFirst, splitSecond, splitThird, splitFourth, ← ih readTail]
  | case2 offset last notLonger =>
      have short : last.length ≤ 4 := by
        rcases last with _ | ⟨_, _ | ⟨_, _ | ⟨_, _ | ⟨_, _ | ⟨_, _⟩⟩⟩⟩⟩
        case cons.cons.cons.cons.cons => exact absurd rfl (notLonger _ _ _ _ _ _)
        all_goals simp
      rw [decodeFrom.eq_2 offset last notLonger, bind_eq_ok_iff] at read
      obtain ⟨values, group, readLast⟩ := read
      obtain ⟨padded, split, symbols⟩ := lastGroup_eq_ok group
      have size : last.length = values.length + padded := by
        rw [split, List.length_append, List.length_map, List.length_replicate]
      rw [size] at short readLast
      rw [split]
      exact lastBytes_eq_ok symbols short readLast

/-- A text decodes only if it is the written form of what it decodes to. -/
theorem decode_eq_ok_iff {text : String} {bytes : Bytes} : decode text = .ok bytes ↔ text = encode bytes := by
  constructor
  · intro read
    simp only [decode, decodeBytes, bind, Except.bind] at read
    have same : Bytes.ofText text = encodeBytes bytes := by
      repeat' split at read
      all_goals first | exact decodeFrom_eq_ok read | cases read
    apply Bytes.ofText_injective
    rw [same, ofText_encode]
  · rintro rfl
    exact decode_encode bytes

end ObjectStore.Base64
