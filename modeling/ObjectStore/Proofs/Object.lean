import Mathlib.Tactic.IntervalCases
import ObjectStore.Proofs.Atomic.Bucket
import ObjectStore.Proofs.Base64
import ObjectStore.Proofs.Decimal
import ObjectStore.Proofs.Dictionary
import ObjectStore.Proofs.Simulation.Version
import ObjectStore.Proofs.Timestamp

/-!
A stored object comes back from its resource with every field, as long as its numbers fit the integers
that callers see.
-/

namespace ObjectStore

theorem Crc32c.ofBytes_toBytes (value : UInt32) :
    ofBytes (value >>> 24).toUInt8 (value >>> 16).toUInt8 (value >>> 8).toUInt8 value.toUInt8 = value := by
  simp only [ofBytes, ← UInt32.toBitVec_inj, UInt32.toBitVec_or, UInt32.toBitVec_shiftLeft,
    UInt32.toBitVec_shiftRight, UInt8.toBitVec_toUInt32, UInt32.toBitVec_toUInt8]
  apply BitVec.eq_of_getLsbD_eq
  intro index bound
  simp only [BitVec.getLsbD_or, BitVec.shiftLeft_eq', BitVec.getLsbD_shiftLeft, BitVec.getLsbD_setWidth,
    BitVec.ushiftRight_eq', BitVec.getLsbD_ushiftRight]
  interval_cases index <;> simp

theorem decodeChecksum_encode (value : UInt32) : decodeChecksum (Base64.encode (Crc32c.toBytes value)) = .ok value := by
  have bytes : decodeBase64 .crc32c (Base64.encode (Crc32c.toBytes value)) = .ok (Crc32c.toBytes value) := by
    rw [decodeBase64, Base64.decode_encode]
    rfl
  rw [decodeChecksum, bytes]
  exact congrArg Except.ok (Crc32c.ofBytes_toBytes value)

theorem decodeBase64_encode (field : CodedField) (bytes : Bytes) :
    decodeBase64 field (Base64.encode bytes) = .ok bytes := by
  rw [decodeBase64, Base64.decode_encode]
  rfl

theorem Timestamp.format?_ne_empty (time : Timestamp) : time.format? ≠ some "" := by
  intro written
  have read := parse_format written
  cases read

def StoredObject.shownTime (time : Timestamp) : Option Timestamp :=
  time.format?.map fun _ => time

theorem decodeTime_timeText (field : CodedField) (time : Timestamp) :
    decodeTime field (StoredObject.timeText time) = .ok (StoredObject.shownTime time) := by
  rw [StoredObject.timeText, StoredObject.shownTime]
  cases written : time.format? with
  | none => rfl
  | some text =>
      have notEmpty : text ≠ "" := by
        rintro rfl
        exact time.format?_ne_empty written
      rw [Option.getD_some, decodeTime, if_neg notEmpty, Timestamp.parse_format written]
      rfl

theorem decodeSize_repr {size : Nat} (fits : size < Width.bound 64) :
    decodeSize (some (.text size.repr)) = .ok (UInt64.ofNat size) := by
  simp only [decodeSize, Decimal.unsigned?_repr fits]

theorem decodeInteger_repr (field : CodedField) {number : Nat} (fits : number < Width.bound 63) :
    decodeInteger field (some (.text number.repr)) = .ok (Int64.ofNat number) := by
  have bound : Width.bound (64 - 1) = Width.bound 63 := rfl
  have inRange : Width.fitsSigned 64 number = true := by
    simp only [Width.fitsSigned, bound, Bool.and_eq_true, decide_eq_true_eq]
    omega
  have text : Int.repr number = number.repr := by
    rw [Int.repr_eq_if, if_pos (Int.natCast_nonneg number), Int.toNat_natCast]
  have read := Decimal.signed?_repr inRange
  rw [text] at read
  simp only [decodeInteger, read]
  rfl

namespace StoredObject

/-- The numbers of an object fit the integers that callers see. -/
structure Fits (object : StoredObject) : Prop where
  size : object.contents.length < Width.bound 64
  generation : object.generation < Width.bound 63
  metageneration : object.metageneration < Width.bound 63

def toObject (bucket name : String) (object : StoredObject) : Object :=
  { bucket, name
    contentType := object.contentType
    contentLanguage := object.contentLanguage
    contentEncoding := object.contentEncoding
    cacheControl := object.cacheControl
    metadata := object.metadata
    acl := object.acl
    owner := "user-fake"
    size := UInt64.ofNat object.contents.length
    generation := Int64.ofNat object.generation
    metageneration := Int64.ofNat object.metageneration
    storageClass := "STANDARD"
    mediaLink := mediaLink bucket name object.generation
    md5 := Md5.digest object.contents
    crc32c := Crc32c.checksum object.contents
    created := shownTime object.created
    updated := shownTime object.updated
    deleted := none }

theorem ofResource_toResource (bucket name : String) {object : StoredObject} (fits : object.Fits) :
    Object.ofResource bucket (object.toResource bucket name) = .ok (object.toObject bucket name) := by
  have size := decodeSize_repr fits.size
  have generation := decodeInteger_repr .generation fits.generation
  have metageneration := decodeInteger_repr .metageneration fits.metageneration
  have metadata : (if object.metadata.isEmpty then none else some object.metadata).getD ∅ = object.metadata := by
    split
    · rename_i isEmpty
      exact (Dictionary.eq_empty_of_isEmpty isEmpty).symm
    · rfl
  have deleted : decodeTime .timeDeleted "" = .ok none := rfl
  simp only [Object.ofResource, toResource, toString, size, generation, metageneration, decodeTime_timeText,
    decodeBase64_encode, decodeChecksum_encode, deleted, bind, Except.bind, metadata]
  rfl

theorem toInt_generation (bucket name : String) {object : StoredObject} (fits : object.Fits) :
    (object.toObject bucket name).generation.toInt = object.generation :=
  Int64.toInt_ofNat_of_lt fits.generation

end StoredObject

theorem Atomic.view_eq (bucket name : String) {object : StoredObject} (fits : object.Fits) :
    view bucket name object = .ok (object.toObject bucket name) := by
  rw [view, StoredObject.ofResource_toResource bucket name fits]
  rfl

/-! ### Objects of a run -/

theorem Width.lt_of_fitsSigned {number : Nat} (fits : fitsSigned 64 number = true) : number < bound 63 := by
  have size : bound (64 - 1) = bound 63 := rfl
  simp only [fitsSigned, size, Bool.and_eq_true, decide_eq_true_eq] at fits
  omega

namespace Simulation

variable {time : Timestamp} {happenings : List Happening}

theorem after_counted (time : Timestamp) (happenings : List Happening) :
    Counted (requestCount happenings) (after time happenings).store := by
  have counted : Counted (0 + requestCount happenings) (after time happenings).store :=
    run_counted Counted.start happenings
  rwa [Nat.zero_add] at counted

theorem fits_after (few : requestCount happenings < Width.bound 63) {bucket name : String} {object : StoredObject}
    (found : (after time happenings).store.find? bucket name = some object)
    (small : object.contents.length < Width.bound 64) : object.Fits := by
  obtain ⟨generation, metageneration⟩ := ((after_counted time happenings).fits (after_sound time happenings) few).2
    bucket name object found
  exact ⟨small, Width.lt_of_fitsSigned generation, Width.lt_of_fitsSigned metageneration⟩

theorem fits_newObject (few : requestCount happenings < Width.bound 63) (attributes : Attributes) {contents : Bytes}
    (small : contents.length < Width.bound 64) (now : Timestamp) :
    (Atomic.newObject attributes contents (after time happenings).store.nextGeneration now).Fits := by
  have next := ((after_counted time happenings).fits (after_sound time happenings) few).1
  have one : 1 < Width.bound 63 := by decide
  exact ⟨small, Width.lt_of_fitsSigned next, one⟩

end Simulation

end ObjectStore
