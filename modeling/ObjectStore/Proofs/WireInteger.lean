import ObjectStore.Proofs.Decoding
import ObjectStore.Proofs.Json.Document

/-!
The integers of a resource, each as a JSON number or as a text of its decimal digits. Both forms are read as the same
integer, but for one thing: a number keeps one of its 64 bits for a sign, which a size does not have.
-/

namespace ObjectStore

open Json (Document Ends Value written)

/-! ### Fields -/

inductive IntegerField where
  | size | generation | metageneration
deriving DecidableEq, Repr

namespace IntegerField

def name : IntegerField → String
  | .size => "size"
  | .generation => "generation"
  | .metageneration => "metageneration"

def set (wire : Option WireInteger) : IntegerField → Resource → Resource
  | .size, resource => { resource with size := wire }
  | .generation, resource => { resource with generation := wire }
  | .metageneration, resource => { resource with metageneration := wire }

def Holds (integer : Int) : IntegerField → Prop
  | .size => 0 ≤ integer ∧ integer < 2 ^ 64
  | .generation | .metageneration => -2 ^ 63 ≤ integer ∧ integer < 2 ^ 63

instance (integer : Int) : (field : IntegerField) → Decidable (field.Holds integer)
  | .size | .generation | .metageneration => inferInstanceAs (Decidable (_ ∧ _))

def put (integer : Int) : IntegerField → Object → Object
  | .size, object => { object with size := UInt64.ofInt integer }
  | .generation, object => { object with generation := Int64.ofInt integer }
  | .metageneration, object => { object with metageneration := Int64.ofInt integer }

def field (field : IntegerField) : Json.Field Resource :=
  .of field.name (Json.optional WireInteger.shape) fun resource wire => field.set wire resource

theorem found (field : IntegerField) :
    Resource.record.fields.find? (fun other => other.name == field.name) = some field.field := by
  cases field <;> rfl

theorem spares (field : IntegerField) (wire : Option WireInteger) :
    ∀ other ∈ Resource.record.fields, other.name ≠ field.name → other.Spares (field.set wire) := by
  intro other member different
  simp only [Resource.record, List.mem_cons, List.not_mem_nil, or_false] at member
  rcases member with rfl | rfl | rfl | rfl | rfl | rfl | rfl | rfl | rfl | rfl | rfl | rfl | rfl | rfl | rfl | rfl |
    rfl | rfl | rfl <;> cases field <;>
  first
  | exact absurd rfl different
  | apply Json.Field.spares_of
    intro state value
    rfl

end IntegerField

/-! ### Forms -/

/-- An integer as a text of its digits, or as a number if 64 bits with a sign hold it. -/
inductive WireInteger.IsForm (integer : Int) : WireInteger → Prop
  | text : IsForm integer (.text integer.repr)
  | number (value : Int64) (same : value.toInt = integer) : IsForm integer (.number value)

namespace WireInteger

variable {integer : Int} {wire : WireInteger}

theorem IsForm.isInteger_iff (isForm : IsForm integer wire) {value : Int64} :
    IsInteger (some wire) value ↔ integer = value.toInt := by
  cases isForm with
  | text =>
      rw [IsInteger, ← Decimal.integer?_eq_some_iff, Decimal.integer?_repr, Option.some.injEq]
  | number given same => rw [IsInteger, ← same, Int64.toInt_inj]

theorem IsForm.isSize_iff (isForm : IsForm integer wire) {size : UInt64} :
    IsSize (some wire) size ↔ integer = size.toNat := by
  cases isForm with
  | text =>
      constructor
      · intro isNatural
        have isInteger : Decimal.IsInteger integer.repr size.toNat := Or.inl ⟨size.toNat, isNatural, rfl⟩
        rw [← Decimal.integer?_eq_some_iff, Decimal.integer?_repr] at isInteger
        exact Option.some.inj isInteger
      · rintro rfl
        have digits : (size.toNat : Int).repr = size.toNat.repr := by
          rw [Int.repr_eq_if, if_pos (Int.natCast_nonneg _), Int.toNat_natCast]
        rw [IsSize, digits, ← Decimal.natural?_eq_some_iff, Nat.toList_repr, Decimal.natural?_toDigits]
  | number given same => rw [IsSize, same]

end WireInteger

theorem UInt64.toNat_ofInt_of_bounds {integer : Int} (lower : 0 ≤ integer) (upper : integer < 2 ^ 64) :
    ((UInt64.ofInt integer).toNat : Int) = integer := by
  have fits : (integer % 2 ^ 64).toNat < UInt64.size := by
    have wide : UInt64.size = 2 ^ 64 := rfl
    omega
  rw [UInt64.ofInt, UInt64.toNat_ofNat_of_lt' fits]
  omega

namespace IntegerField

variable {bucket : String} {rest : Resource} {other object : Object} {integer : Int} {wire : WireInteger}

theorem decodes_put (field : IntegerField) (decodes : other.Decodes bucket rest)
    (isForm : WireInteger.IsForm integer wire) (holds : field.Holds integer) :
    (field.put integer other).Decodes bucket (field.set (some wire) rest) := by
  cases field with
  | size =>
      have same := UInt64.toNat_ofInt_of_bounds holds.1 holds.2
      exact { decodes with size := isForm.isSize_iff.2 same.symm }
  | generation =>
      have same := Int64.toInt_ofInt_of_le holds.1 holds.2
      exact { decodes with generation := isForm.isInteger_iff.2 same.symm }
  | metageneration =>
      have same := Int64.toInt_ofInt_of_le holds.1 holds.2
      exact { decodes with metageneration := isForm.isInteger_iff.2 same.symm }

theorem holds_of_decodes (field : IntegerField) (isForm : WireInteger.IsForm integer wire)
    (decodes : object.Decodes bucket (field.set (some wire) rest)) : field.Holds integer := by
  cases field with
  | size =>
      have same := isForm.isSize_iff.1 decodes.size
      have bound := object.size.toNat_lt
      simp only [Holds]
      omega
  | generation =>
      rw [isForm.isInteger_iff.1 decodes.generation]
      exact ⟨object.generation.le_toInt, object.generation.toInt_lt⟩
  | metageneration =>
      rw [isForm.isInteger_iff.1 decodes.metageneration]
      exact ⟨object.metageneration.le_toInt, object.metageneration.toInt_lt⟩

theorem le_of_holds (field : IntegerField) (holds : field.Holds integer) : -2 ^ 63 ≤ integer := by
  cases field with
  | size =>
      have positive := holds.1
      omega
  | generation | metageneration => exact holds.1

theorem ofResource_set (field : IntegerField) (decodable : Object.ofResource bucket rest = .ok other)
    (isForm : WireInteger.IsForm integer wire) :
    Object.ofResource bucket (field.set (some wire) rest) = .ok object ↔
      field.Holds integer ∧ object = field.put integer other := by
  have decodes := Object.ofResource_eq_ok_iff.1 decodable
  have decoded (holds : field.Holds integer) :
      Object.ofResource bucket (field.set (some wire) rest) = .ok (field.put integer other) :=
    Object.ofResource_eq_ok_iff.2 (field.decodes_put decodes isForm holds)
  constructor
  · intro isObject
    have holds := field.holds_of_decodes isForm (Object.ofResource_eq_ok_iff.1 isObject)
    exact ⟨holds, Except.ok.inj (isObject.symm.trans (decoded holds))⟩
  · rintro ⟨holds, rfl⟩
    exact decoded holds

end IntegerField

/-! ### Texts -/

section Beyond

variable {behind : Bytes} (ends : Ends behind) {integer : Int} (beyond : integer < -2 ^ 63 ∨ 2 ^ 63 ≤ integer)

include ends beyond

/-- A number that 64 bits with a sign do not hold is of no variant, whether or not 64 bits without one hold it. -/
theorem WireInteger.ofValue?_beyond {depth : Nat} {value : Value} {rest : Bytes}
    (read : Json.readTree (depth + 1) (written (Value.number (.integer integer)).chars ++ behind) = .ok (value, rest)) :
    ofValue? value = none := by
  have size : (Width.bound 63 : Int) = 2 ^ 63 ∧ (Width.bound 64 : Int) = 2 ^ 64 := ⟨rfl, rfl⟩
  -- From 2^63 to 2^64-1 it is read as an integer of no variant, and beyond that as no integer.
  by_cases within : -(Width.bound 63 : Int) ≤ integer ∧ integer < Width.bound 64
  · rw [Json.reads_integer within.1 within.2 behind ends] at read
    cases read
    have tooWide : Width.fitsSigned 64 integer = false := by
      simp only [Width.fitsSigned, Bool.and_eq_false_iff, decide_eq_false_iff_not]
      right
      change ¬integer < (Width.bound 63 : Int)
      omega
    simp [ofValue?, tooWide]
  · obtain ⟨number, rfl, never⟩ := Json.readTree_beyond (by omega) ends read
    cases number with
    | integer other => exact absurd rfl (never other)
    | decimal => rfl

theorem WireInteger.shape_beyond (depth : Nat) :
    ∃ fault, shape (depth + 1) (written (Value.number (.integer integer)).chars ++ behind) = .error fault := by
  unfold shape Json.choice
  cases read : Json.readTree (depth + 1) (written (Value.number (.integer integer)).chars ++ behind) with
  | error fault => exact ⟨fault, rfl⟩
  | ok result =>
      simp only [bind, Except.bind, ofValue?_beyond ends beyond read]
      exact ⟨_, rfl⟩

end Beyond

namespace IntegerField

variable {gap behind : Bytes} (isGap : Json.AreBlank gap) (ends : Ends behind)

include isGap ends

theorem change_wire (field : IntegerField) (wire : WireInteger) (state : Resource) :
    field.field.change state (Json.startDepth - 1) (gap ++ (written wire.toJson.chars ++ behind)) =
      .ok (field.set (some wire) state, behind) := by
  obtain ⟨begins, notNull, reads⟩ := wire.reads_toJson 126
  have read := Json.reads_optional begins notNull reads behind ends
  simp only [IntegerField.field, Json.Field.of, Json.optional_blank isGap]
  change (Json.optional WireInteger.shape (126 + 1) (written wire.toJson.chars ++ behind)).map _ = _
  rw [read]
  rfl

theorem change_beyond (field : IntegerField) {integer : Int} (beyond : integer < -2 ^ 63 ∨ 2 ^ 63 ≤ integer)
    (state : Resource) :
    ∃ fault, field.field.change state (Json.startDepth - 1)
      (gap ++ (written (Value.number (.integer integer)).chars ++ behind)) = .error fault := by
  obtain ⟨fault, refused⟩ := WireInteger.shape_beyond ends beyond 126
  refine ⟨fault, ?_⟩
  simp only [IntegerField.field, Json.Field.of, Json.optional_blank isGap]
  change Except.map _ (Json.optional WireInteger.shape (126 + 1) _) = _
  rw [Json.optional_written (Json.begins_integer integer) (by simp), refused]
  rfl

end IntegerField

theorem Json.Value.ofText_compact (value : Value) : Bytes.ofText value.compact = written value.chars := by
  rw [Value.compact, Bytes.ofText_ofList, written]

def Object.ofBody (bucket : String) (body : Bytes) : Except Error Object :=
  (HttpResponse.ofBytes Status.ok Headers.empty body).object bucket

theorem Object.ofBody_eq_ok_iff {bucket : String} {body : Bytes} {object : Object} :
    ofBody bucket body = .ok object ↔
      ∃ resource, Resource.parse body = .ok resource ∧ ofResource bucket resource = .ok object := by
  simp only [ofBody, HttpResponse.object, HttpResponse.bytes, HttpResponse.collect_ofBytes, Except.mapError, bind,
    Except.bind]
  cases Resource.parse body with
  | error fault => simp
  | ok resource => cases decoded : ofResource bucket resource <;> simp [decoded]

section Forms

variable {field : IntegerField} {integer : Int} {bucket : String} {document : Document Resource.record field.name}
  {other object : Object} (decodable : Object.ofResource bucket document.otherwise = .ok other)

include decodable

theorem IntegerField.ofBody_wire {wire : WireInteger} (isForm : WireInteger.IsForm integer wire) :
    Object.ofBody bucket (document.text (written wire.toJson.chars)) = .ok object ↔
      field.Holds integer ∧ object = field.put integer other := by
  have parsed : Resource.parse (document.text (written wire.toJson.chars)) =
      .ok (field.set (some wire) document.otherwise) :=
    document.parse_of_ok field.found (field.spares (some wire))
      (field.change_wire document.isGap document.ends_behind wire document.reached.state)
  rw [Object.ofBody_eq_ok_iff, parsed]
  simp only [Except.ok.injEq, exists_eq_left']
  exact field.ofResource_set decodable isForm

theorem IntegerField.ofBody_number :
    Object.ofBody bucket (document.text (written (Value.number (.integer integer)).chars)) = .ok object ↔
      (field.Holds integer ∧ integer < 2 ^ 63) ∧ object = field.put integer other := by
  -- A number of 64 bits with a sign is one of the forms; with any other the body is not even a resource.
  by_cases within : -2 ^ 63 ≤ integer ∧ integer < 2 ^ 63
  · have same : (Int64.ofInt integer).toInt = integer := Int64.toInt_ofInt_of_le within.1 within.2
    have form : Value.number (.integer integer) = (WireInteger.number (Int64.ofInt integer)).toJson := by
      rw [WireInteger.toJson, same]
    rw [form, ofBody_wire decodable (.number _ same), and_iff_left within.2]
  · obtain ⟨_, refused⟩ := field.change_beyond document.isGap document.ends_behind
      (by omega : integer < -2 ^ 63 ∨ 2 ^ 63 ≤ integer) document.reached.state
    obtain ⟨fault, unread⟩ := document.parse_of_error field.found refused
    refine iff_of_false ?_ fun isObject => ?_
    · intro isObject
      obtain ⟨resource, parsed, _⟩ := Object.ofBody_eq_ok_iff.1 isObject
      rw [Resource.parse, unread] at parsed
      cases parsed
    · obtain ⟨holds, small⟩ := isObject.1
      exact within ⟨field.le_of_holds holds, small⟩

end Forms

/-- Both forms are decoded to the same object, or neither is, but for a size that needs all its 64 bits: it is decoded
from a text and refused as a number. -/
theorem integer_forms_agree_iff (field : IntegerField) (integer : Int) (bucket : String)
    (document : Document Resource.record field.name) (other : Object)
    (decodable : Object.ofResource bucket document.otherwise = .ok other) :
    let number := Object.ofBody bucket (document.text (Bytes.ofText (Value.number (.integer integer)).compact))
    let text := Object.ofBody bucket (document.text (Bytes.ofText (Value.string integer.repr).compact))
    (∀ object, text = .ok object ↔ field.Holds integer ∧ object = field.put integer other) ∧
      (∀ object, number = .ok object ↔ (field.Holds integer ∧ integer < 2 ^ 63) ∧ object = field.put integer other) ∧
      ((∀ object, number = .ok object ↔ text = .ok object) ↔
        ¬(field = .size ∧ 2 ^ 63 ≤ integer ∧ integer < 2 ^ 64)) := by
  intro number text
  have fromText (object : Object) : text = .ok object ↔ field.Holds integer ∧ object = field.put integer other := by
    have form : Value.string integer.repr = (WireInteger.text integer.repr).toJson := rfl
    simp only [text, Json.Value.ofText_compact]
    rw [form]
    exact IntegerField.ofBody_wire decodable .text
  have fromNumber (object : Object) :
      number = .ok object ↔ (field.Holds integer ∧ integer < 2 ^ 63) ∧ object = field.put integer other := by
    simp only [number, Json.Value.ofText_compact]
    exact IntegerField.ofBody_number decodable
  refine ⟨fromText, fromNumber, ?_, ?_⟩
  · rintro agree ⟨isSize, lower, upper⟩
    have held : field.Holds integer := by
      rw [isSize]
      exact ⟨by omega, upper⟩
    have isNumber := (agree _).2 ((fromText _).2 ⟨held, rfl⟩)
    have small := ((fromNumber _).1 isNumber).1.2
    omega
  · intro notLarge object
    have small (holds : field.Holds integer) : integer < 2 ^ 63 := by
      cases field with
      | size =>
          have upper := holds.2
          by_contra large
          exact notLarge ⟨rfl, by omega, upper⟩
      | generation | metageneration => exact holds.2
    rw [fromNumber, fromText, and_iff_left_of_imp small]

def Resource.sizeLeftOpen : Document Resource.record "size" where
  lead := [0x0A]
  earlier := Json.keyOf true [0x20] "crc32c" ++ (written (Value.string "AAAAAA==").chars ++ [])
  key := Json.keyOf false [] "size"
  gap := [0x20]
  later := Json.keyOf false [0x0A] "etag" ++ (Bytes.ofText "true" ++ [])
  margin := [0x0A]
  trail := []
  reached := ⟨false, ["crc32c"], { crc32c := "AAAAAA==" }⟩
  last := ⟨false, ["size", "crc32c"], { crc32c := "AAAAAA==" }⟩
  isLead := by decide
  passesEarlier :=
    .field _ (Json.isKey_keyOf true (by decide) "crc32c") rfl rfl
      (Json.Record.reads_change (Json.reads_text _ "AAAAAA==")) (.done _)
  isKey := Json.isKey_keyOf false (by decide) "size"
  unseen := rfl
  isGap := by decide
  passesLater :=
    .unknown (Json.isKey_keyOf false (by decide) "etag") rfl (fun _ _ => rfl) (.done _)
  complete := rfl
  isMargin := by decide
  isTrail := by decide

theorem integer_forms_differ_at_large_size :
    let document := Resource.sizeLeftOpen
    let number := Object.ofBody "photos" (document.text (Bytes.ofText (Value.number (.integer (2 ^ 63))).compact))
    let text := Object.ofBody "photos" (document.text (Bytes.ofText (Value.string (Int.repr (2 ^ 63))).compact))
    (∃ object, text = .ok object ∧ object.size = 9223372036854775808) ∧ ∀ object, number ≠ .ok object := by
  intro document number text
  have canDecode : ∀ field, document.otherwise.CanDecode field := Resource.canDecode_checksum 0
  obtain ⟨other, decodable⟩ := Object.exists_ofResource_iff.2 canDecode
  obtain ⟨fromText, fromNumber, -⟩ := integer_forms_agree_iff .size (2 ^ 63) "photos" document other decodable
  have held : IntegerField.size.Holds (2 ^ 63) := by decide
  refine ⟨⟨_, (fromText _).2 ⟨held, rfl⟩, rfl⟩, fun object isNumber => ?_⟩
  have small := ((fromNumber object).1 isNumber).1.2
  omega

end ObjectStore
