import ObjectStore.Json.Tree
import ObjectStore.Proofs.Dictionary
import ObjectStore.Proofs.Json.Text

/-!
Values are read as they were written: lists and objects of anything that is, and from that whole values
whose integers fit 64 bits and whose objects are in order.
-/

namespace ObjectStore.Json

variable {α : Type}

/-- A reader takes a written value for this result, whatever follows the value. -/
def Reads (read : Read α) (value : Value) (result : α) : Prop :=
  ∀ rest, Ends rest → read (written value.chars ++ rest) = .ok (result, rest)

def Begins (value : Value) : Prop :=
  ∃ first tail, written value.chars = first :: tail ∧ isBlank first = false ∧ first ≠ 0x5D ∧
    (first = 0x6E → value = .null)

theorem skipBlank_cons {first : UInt8} (notBlank : isBlank first = false) (rest : Bytes) :
    skipBlank (first :: rest) = first :: rest := by
  rw [skipBlank, notBlank, if_neg Bool.false_ne_true]

theorem begins_string (text : String) : Begins (.string text) :=
  ⟨0x22, _, by rw [Value.chars, written_textChars], by decide, by decide, fun same => absurd same (by decide)⟩

theorem begins_array (items : List Value) : Begins (.array items) :=
  ⟨0x5B, _, by rw [Value.chars, written_cons]; rfl, by decide, by decide, fun same => absurd same (by decide)⟩

theorem begins_object (members : List (String × Value)) : Begins (.object members) :=
  ⟨0x7B, _, by rw [Value.chars, written_cons]; rfl, by decide, by decide, fun same => absurd same (by decide)⟩

/-! ### Lists -/

theorem written_itemChars_nil (isFirst : Bool) : written (itemChars isFirst []) = [0x5D] := by
  rw [itemChars]
  rfl

theorem written_itemChars_cons (isFirst : Bool) (item : Value) (items : List Value) :
    written (itemChars isFirst (item :: items)) =
      (if isFirst then [] else [0x2C]) ++ (written item.chars ++ written (itemChars false items)) := by
  rw [itemChars, written_append, written_append, List.append_assoc]
  cases isFirst <;> rfl

theorem ends_itemChars (items : List Value) (rest : Bytes) : Ends (written (itemChars false items) ++ rest) := by
  cases items with
  | nil =>
      rw [written_itemChars_nil]
      exact ends_cons (Or.inr (Or.inr (Or.inl rfl))) rest
  | cons item items =>
      rw [written_itemChars_cons]
      exact ends_comma _

theorem length_le_itemChars (isFirst : Bool) (items : List Value) :
    items.length + (if isFirst then 0 else 1) ≤ (written (itemChars isFirst items)).length := by
  induction items generalizing isFirst with
  | nil =>
      rw [written_itemChars_nil]
      cases isFirst <;> simp
  | cons item items ih =>
      have later := ih false
      rw [written_itemChars_cons]
      cases isFirst <;> simp at later ⊢ <;> omega

theorem nextItem_written (isFirst : Bool) {item : Value} (begins : Begins item) (rest : Bytes) :
    nextItem isFirst ((if isFirst then [] else [0x2C]) ++ (written item.chars ++ rest)) =
      .ok (true, written item.chars ++ rest) := by
  obtain ⟨first, tail, same, notBlank, notClosing, _⟩ := begins
  have notEnd : (first == 0x5D) = false := by simpa using notClosing
  have skipped := skipBlank_cons notBlank (tail ++ rest)
  rw [same, List.cons_append]
  cases isFirst with
  | true => simp [nextItem, skipped, notEnd]
  | false =>
      have comma : skipBlank (0x2C :: first :: (tail ++ rest)) = 0x2C :: first :: (tail ++ rest) :=
        skipBlank_cons (by decide) _
      simp [nextItem, comma, skipped, notEnd]

theorem readItems_written {read : Read α} (toValue : α → Value) {items : List α}
    (each : ∀ item ∈ items, Begins (toValue item) ∧ Reads read (toValue item) item) {rounds : Nat}
    (enough : items.length < rounds) (isFirst : Bool) (rest : Bytes) :
    readItems read rounds isFirst (written (itemChars isFirst (items.map toValue)) ++ rest) = .ok (items, rest) := by
  induction items generalizing rounds isFirst with
  | nil =>
      obtain ⟨rounds, rfl⟩ : ∃ fewer, rounds = fewer + 1 := ⟨rounds - 1, by omega⟩
      rw [List.map_nil, written_itemChars_nil]
      rfl
  | cons item items ih =>
      obtain ⟨rounds, rfl⟩ : ∃ fewer, rounds = fewer + 1 := ⟨rounds - 1, by simp at enough; omega⟩
      obtain ⟨begins, reads⟩ := each item (by simp)
      have later := ih (fun other member => each other (by simp [member])) (by simpa using enough) false
      rw [List.map_cons, written_itemChars_cons, List.append_assoc, List.append_assoc, readItems,
        nextItem_written isFirst begins]
      simp only [bind, Except.bind, reads _ (ends_itemChars _ rest), later]
      rfl

/-! ### Objects -/

theorem written_memberChars_nil (isFirst : Bool) : written (memberChars isFirst []) = [0x7D] := by
  rw [memberChars]
  rfl

theorem written_memberChars_cons (isFirst : Bool) (name : String) (value : Value)
    (members : List (String × Value)) :
    written (memberChars isFirst ((name, value) :: members)) =
      (if isFirst then [] else [0x2C]) ++ 0x22 :: (written (name.toList.flatMap escapeChar) ++ 0x22 :: 0x3A ::
        (written value.chars ++ written (memberChars false members))) := by
  rw [memberChars]
  simp only [written_append, written_cons, written_textChars]
  cases isFirst <;> simp <;> rfl

theorem ends_memberChars (members : List (String × Value)) (rest : Bytes) :
    Ends (written (memberChars false members) ++ rest) := by
  cases members with
  | nil =>
      rw [written_memberChars_nil]
      exact ends_brace rest
  | cons member members =>
      obtain ⟨name, value⟩ := member
      rw [written_memberChars_cons]
      exact ends_comma _

theorem length_le_memberChars (isFirst : Bool) (members : List (String × Value)) :
    members.length + (if isFirst then 0 else 1) ≤ (written (memberChars isFirst members)).length := by
  induction members generalizing isFirst with
  | nil =>
      rw [written_memberChars_nil]
      cases isFirst <;> simp
  | cons member members ih =>
      obtain ⟨name, value⟩ := member
      have later := ih false
      rw [written_memberChars_cons]
      cases isFirst <;> simp at later ⊢ <;> omega

theorem nextMember_written (isFirst : Bool) (rest : Bytes) :
    nextMember isFirst ((if isFirst then [] else [0x2C]) ++ 0x22 :: rest) = .ok (true, rest) := by
  cases isFirst <;> rfl

theorem readMembers_written {read : Read α} (toValue : α → Value) {members : List (String × α)}
    (each : ∀ member ∈ members, Reads read (toValue member.2) member.2) {rounds : Nat}
    (enough : members.length < rounds) (isFirst : Bool) (rest : Bytes) :
    readMembers read rounds isFirst
      (written (memberChars isFirst (members.map fun member => (member.1, toValue member.2))) ++ rest) =
        .ok (members, rest) := by
  induction members generalizing rounds isFirst with
  | nil =>
      obtain ⟨rounds, rfl⟩ : ∃ fewer, rounds = fewer + 1 := ⟨rounds - 1, by omega⟩
      rw [List.map_nil, written_memberChars_nil]
      rfl
  | cons member members ih =>
      obtain ⟨rounds, rfl⟩ : ∃ fewer, rounds = fewer + 1 := ⟨rounds - 1, by simp at enough; omega⟩
      obtain ⟨name, value⟩ := member
      have reads : Reads read (toValue value) value := each (name, value) (by simp)
      have later := ih (fun other member => each other (by simp [member])) (by simpa using enough) false
      have colon (tail : Bytes) : readColon (0x3A :: tail) = .ok tail := rfl
      rw [List.map_cons, written_memberChars_cons, List.append_assoc, List.cons_append, List.append_assoc,
        List.cons_append, List.cons_append, List.append_assoc, readMembers, nextMember_written]
      simp only [bind, Except.bind, readTextBody_written, colon, reads _ (ends_memberChars _ rest), later]
      rfl

/-! ### Whole values -/

/-- A value with so many levels of brackets at most. Its integers are ones that are read as integers, and
the names of its objects ascend. -/
inductive Value.IsCanonical : Nat → Value → Prop
  | null {depth : Nat} : IsCanonical depth .null
  | boolean {depth : Nat} (value : Bool) : IsCanonical depth (.boolean value)
  | integer {depth : Nat} (value : Int) (lower : -(Width.bound 63 : Int) ≤ value) (upper : value < Width.bound 64) :
      IsCanonical depth (.number (.integer value))
  | string {depth : Nat} (text : String) : IsCanonical depth (.string text)
  | array {depth : Nat} (items : List Value) (each : ∀ item ∈ items, IsCanonical depth item) :
      IsCanonical (depth + 1) (.array items)
  | object {depth : Nat} (members : List (String × Value)) (ascending : Entries.Ascending members)
      (each : ∀ member ∈ members, IsCanonical depth member.2) : IsCanonical (depth + 1) (.object members)

theorem written_integer (value : Int) :
    written (Value.number (.integer value)).chars =
      (if 0 ≤ value then [] else [0x2D]) ++ written (Nat.toDigits 10 value.natAbs) := by
  change written value.repr.toList = _
  rw [Int.repr_eq_if]
  split
  · rename_i positive
    rw [Nat.toList_repr, List.nil_append]
    congr 2
    omega
  · rename_i negative
    have minus : ("-" ++ (-value).toNat.repr).toList = '-' :: Nat.toDigits 10 (-value).toNat := by simp
    have same : (-value).toNat = value.natAbs := by omega
    rw [minus, written_cons, same]
    rfl

theorem written_toDigits_cons (number : Nat) :
    ∃ first tail, written (Nat.toDigits 10 number) = first :: tail ∧ (digit? first).isSome = true := by
  obtain ⟨first, rest, digits, isDigit⟩ := Decimal.toDigits_cons number
  obtain ⟨isNumber, single⟩ := digit?_of_isDigit isDigit
  exact ⟨_, written rest, by rw [digits, written_cons, single]; rfl, by rw [isNumber]; rfl⟩

theorem marks_of_digit (byte : UInt8) (isDigit : (digit? byte).isSome = true) :
    isBlank byte = false ∧ byte ≠ 0x5D ∧ (byte == 0x6E) = false ∧ (byte == 0x74) = false ∧
      (byte == 0x66) = false ∧ (byte == 0x2D) = false := by
  have bounds : 0x30 ≤ byte.toNat ∧ byte.toNat ≤ 0x39 := by
    simpa [digit?, UInt8.le_iff_toNat_le] using isDigit
  simp only [isBlank, Bool.or_eq_false_iff, beq_eq_false_iff_ne, ne_eq, ← UInt8.toNat_inj, UInt8.reduceToNat]
  omega

theorem begins_integer (value : Int) : Begins (.number (.integer value)) := by
  rw [Begins, written_integer]
  split
  · obtain ⟨first, tail, same, isDigit⟩ := written_toDigits_cons value.natAbs
    obtain ⟨notBlank, notClosing, notNull, _⟩ := marks_of_digit first isDigit
    exact ⟨first, tail, same, notBlank, notClosing, fun isNull => absurd isNull (by simpa using notNull)⟩
  · exact ⟨0x2D, _, rfl, by decide, by decide, fun isNull => absurd isNull (by decide)⟩

theorem Value.IsCanonical.begins {depth : Nat} {value : Value} (canonical : value.IsCanonical depth) :
    Begins value := by
  cases canonical with
  | null => exact ⟨0x6E, _, rfl, by decide, by decide, fun _ => rfl⟩
  | boolean value => cases value <;> exact ⟨_, _, rfl, by decide, by decide, fun isNull => absurd isNull (by decide)⟩
  | integer value => exact begins_integer value
  | string text => exact begins_string text
  | array items => exact begins_array items
  | object members => exact begins_object members

theorem readTree_integer (depth : Nat) (value : Int) (rest : Bytes) :
    readTree (depth + 1) (written (Value.number (.integer value)).chars ++ rest) =
      (readNumber (decide (value < 0)) (written (Nat.toDigits 10 value.natAbs) ++ rest)).map
        fun read => (.number read.1, read.2) := by
  rw [written_integer]
  split
  · rename_i positive
    obtain ⟨first, tail, same, isDigit⟩ := written_toDigits_cons value.natAbs
    obtain ⟨notBlank, _, notNull, notTrue, notFalse, notMinus⟩ := marks_of_digit first isDigit
    have unsigned : decide (value < 0) = false := decide_eq_false (by omega)
    rw [List.nil_append, same, List.cons_append, readTree, skipBlank_cons notBlank]
    simp only [notNull, notTrue, notFalse, notMinus, Bool.false_eq_true, if_false, isDigit, if_true, unsigned]
  · rename_i negative
    have signed : decide (value < 0) = true := decide_eq_true (by omega)
    have skipped : skipBlank (0x2D :: (written (Nat.toDigits 10 value.natAbs) ++ rest)) =
        0x2D :: (written (Nat.toDigits 10 value.natAbs) ++ rest) := skipBlank_cons (by decide) _
    change readTree (depth + 1) (0x2D :: (written (Nat.toDigits 10 value.natAbs) ++ rest)) = _
    rw [readTree, skipped, signed]
    simp only [show ((0x2D : UInt8) == 0x6E) = false from rfl, show ((0x2D : UInt8) == 0x74) = false from rfl,
      show ((0x2D : UInt8) == 0x66) = false from rfl, beq_self_eq_true, Bool.false_eq_true, if_false, if_true]

theorem finishInteger_natAbs {value : Int} (lower : -(Width.bound 63 : Int) ≤ value) :
    finishInteger (decide (value < 0)) value.natAbs = .integer value := by
  by_cases negative : value < 0
  · have notZero : (value.natAbs == 0) = false := by
      rw [beq_eq_false_iff_ne]
      omega
    have small : ¬Width.bound 63 < value.natAbs := by omega
    simp only [finishInteger, decide_eq_true negative, Bool.not_true, Bool.false_eq_true, if_false, notZero,
      Bool.false_or, decide_eq_true_eq, small]
    congr 1
    omega
  · simp only [finishInteger, decide_eq_false negative, Bool.not_false, if_true]
    congr 1
    omega

theorem reads_integer {depth : Nat} {value : Int} (lower : -(Width.bound 63 : Int) ≤ value)
    (upper : value < Width.bound 64) :
    Reads (readTree (depth + 1)) (.number (.integer value)) (.number (.integer value)) := by
  intro rest ends
  have fits : value.natAbs < Width.bound 64 := by
    have bounds : Width.bound 63 < Width.bound 64 := by decide
    omega
  rw [readTree_integer, readNumber_toDigits _ fits ends, finishInteger_natAbs lower]
  rfl

theorem readTree_beyond {depth : Nat} {integer : Int}
    (beyond : integer < -(Width.bound 63 : Int) ∨ (Width.bound 64 : Int) ≤ integer) {rest : Bytes} (ends : Ends rest)
    {value : Value} {unread : Bytes}
    (read : readTree (depth + 1) (written (Value.number (.integer integer)).chars ++ rest) = .ok (value, unread)) :
    ∃ number, value = .number number ∧ ∀ other, number ≠ .integer other := by
  have never : NeverInteger
      (readNumber (decide (integer < 0)) (written (Nat.toDigits 10 integer.natAbs) ++ rest)) := by
    by_cases fits : integer.natAbs < Width.bound 64
    · have negative : decide (integer < 0) = true := decide_eq_true (by omega)
      have large : decide (Width.bound 63 < integer.natAbs) = true := decide_eq_true (by omega)
      rw [readNumber_toDigits _ fits ends, negative]
      simp [NeverInteger, finishInteger, large]
    · exact neverInteger_readNumber _ (by omega) rest
  rw [readTree_integer] at read
  cases isNumber : readNumber (decide (integer < 0)) (written (Nat.toDigits 10 integer.natAbs) ++ rest) with
  | error fault =>
      rw [isNumber] at read
      cases read
  | ok result =>
      rw [isNumber] at read never
      cases read
      refine ⟨result.1, rfl, fun other isInteger => never other result.2 ?_⟩
      rw [← isInteger]

theorem readTree_quote (depth : Nat) (rest : Bytes) : readTree (depth + 1) (0x22 :: rest) =
    (readTextBody rest).map fun read => (.string read.1, read.2) :=
  rfl

theorem readTree_bracket (depth : Nat) (rest : Bytes) : readTree (depth + 2) (0x5B :: rest) =
    (readItems (readTree (depth + 1)) (rest.length + 1) true rest).map fun read => (.array read.1, read.2) :=
  rfl

theorem readTree_brace (depth : Nat) (rest : Bytes) : readTree (depth + 2) (0x7B :: rest) =
    (readMembers (readTree (depth + 1)) (rest.length + 1) true rest).map
      fun read => (Value.ofMembers read.1, read.2) :=
  rfl

theorem written_string (text : String) (rest : Bytes) : written (Value.string text).chars ++ rest =
    0x22 :: (written (text.toList.flatMap escapeChar) ++ 0x22 :: rest) := by
  rw [Value.chars, written_textChars]
  simp

theorem written_array (items : List Value) :
    written (Value.array items).chars = 0x5B :: written (itemChars true items) := by
  rw [Value.chars, written_cons]
  rfl

theorem written_object (members : List (String × Value)) :
    written (Value.object members).chars = 0x7B :: written (memberChars true members) := by
  rw [Value.chars, written_cons]
  rfl

theorem length_lt_rounds (items : List Value) (rest : Bytes) :
    items.length < (written (itemChars true items) ++ rest).length + 1 := by
  have shorter := length_le_itemChars true items
  rw [List.length_append]
  simp only [if_true] at shorter
  omega

theorem length_lt_memberRounds (members : List (String × Value)) (rest : Bytes) :
    members.length < (written (memberChars true members) ++ rest).length + 1 := by
  have shorter := length_le_memberChars true members
  rw [List.length_append]
  simp only [if_true] at shorter
  omega

theorem readMembers_values {read : Read Value} {members : List (String × Value)}
    (each : ∀ member ∈ members, Reads read member.2 member.2) (rest : Bytes) :
    readMembers read ((written (memberChars true members) ++ rest).length + 1) true
      (written (memberChars true members) ++ rest) = .ok (members, rest) := by
  have found := readMembers_written id each (length_lt_memberRounds members rest) true rest
  have same : members.map (fun member => (member.1, id member.2)) = members := List.map_id members
  rwa [same] at found

theorem reads_tree {depth : Nat} {value : Value} (canonical : value.IsCanonical depth) :
    Reads (readTree (depth + 1)) value value := by
  induction canonical with
  | null =>
      intro rest _
      rfl
  | boolean value =>
      intro rest _
      cases value <;> rfl
  | integer value lower upper => exact reads_integer lower upper
  | string text =>
      intro rest _
      rw [written_string, readTree_quote, readTextBody_written]
      rfl
  | array items each ih =>
      intro rest _
      have read := readItems_written id
        (fun item member => ⟨(each item member).begins, ih item member⟩) (length_lt_rounds _ rest) true rest
      rw [List.map_id] at read
      rw [written_array, List.cons_append, readTree_bracket, read]
      rfl
  | object members ascending each ih =>
      intro rest _
      rw [written_object, List.cons_append, readTree_brace, readMembers_values ih rest]
      simp only [Except.map, Value.ofMembers, Entries.foldl_insert_nil ascending]

theorem readWhole_compact {read : Read α} {value : Value} {result : α} (reads : Reads read value result) :
    readWhole read (Bytes.ofText value.compact) = .ok result := by
  have found := reads [] ends_nil
  rw [List.append_nil] at found
  rw [readWhole, Value.compact, Bytes.ofText_ofList, ← written, found]
  rfl

theorem parseObject_compact {members : List (String × Value)} (ascending : Entries.Ascending members)
    (each : ∀ member ∈ members, member.2.IsCanonical 126) :
    parseObject (Bytes.ofText (Value.object members).compact) = .ok members := by
  apply readWhole_compact
  intro rest _
  have read := readMembers_values (fun member inside => reads_tree (each member inside)) rest
  have skipped : skipBlank (0x7B :: (written (memberChars true members) ++ rest)) =
      0x7B :: (written (memberChars true members) ++ rest) := skipBlank_cons (by decide) _
  rw [written_object, List.cons_append]
  simp only [skipped, beq_self_eq_true, if_true, show startDepth - 1 = 126 + 1 from rfl, read, bind, Except.bind,
    Entries.foldl_insert_nil ascending]
  rfl

end ObjectStore.Json
