import ObjectStore.Proofs.Client.Request
import ObjectStore.Proofs.Client.Response
import ObjectStore.Proofs.Object
import ObjectStore.Proofs.Rfc3339

/-!
What a resource has to be for an object to be read from it. Eight of its fields are coded, each in its own
way, and an object is read if and only if all eight can be; a listing is read if and only if all its items
can be. Otherwise the first field that cannot be read is the one that the error names.
-/

namespace ObjectStore

/-! ### Coded fields -/

/-- A size is a number of 64 bits without a sign. One that is absent is zero. -/
def WireInteger.IsSize : Option WireInteger → UInt64 → Prop
  | none, size => size = 0
  | some (.number value), size => value.toInt = size.toNat
  | some (.text digits), size => Decimal.IsNatural digits size.toNat

def WireInteger.IsInteger : Option WireInteger → Int64 → Prop
  | none, integer => integer = 0
  | some (.number value), integer => value = integer
  | some (.text digits), integer => Decimal.IsInteger digits integer.toInt

def Timestamp.IsOptional (text : String) : Option Timestamp → Prop
  | none => text = ""
  | some time => IsRfc3339 text time

theorem decodeSize_eq_ok_iff {wire : Option WireInteger} {size : UInt64} :
    decodeSize wire = .ok size ↔ WireInteger.IsSize wire size := by
  rcases wire with _ | value | digits
  · simp [decodeSize, WireInteger.IsSize, eq_comm]
  · have small := value.toInt_lt
    have notNegative : 0 ≤ value ↔ 0 ≤ value.toInt := Int64.le_iff_toInt_le
    simp only [decodeSize, WireInteger.IsSize, notNegative]
    split
    · rename_i positive
      have same : (value.toInt % 2 ^ 64).toNat = value.toInt.toNat := by omega
      have fits : value.toInt.toNat < UInt64.size := by
        have wide : UInt64.size = 2 ^ 64 := rfl
        omega
      rw [Except.ok.injEq, ← UInt64.toNat_inj, UInt64.ofInt, same, UInt64.toNat_ofNat_of_lt' fits]
      omega
    · simp only [reduceCtorEq, false_iff]
      omega
  · have inRange := size.toNat_lt
    have isRead : Decimal.unsigned? 64 digits = some size.toNat ↔ Decimal.IsNatural digits size.toNat := by
      rw [Decimal.unsigned?_eq_some_iff]
      exact and_iff_left inRange
    rw [WireInteger.IsSize, ← isRead, decodeSize]
    split
    · rename_i value read
      have fits : value < UInt64.size := (Decimal.unsigned?_eq_some_iff.1 read).2
      rw [read, Option.some.injEq, Except.ok.injEq, ← UInt64.toNat_inj, UInt64.toNat_ofNat_of_lt' fits]
    · rename_i unread
      simp [unread]

theorem decodeInteger_eq_ok_iff {field : CodedField} {wire : Option WireInteger} {integer : Int64} :
    decodeInteger field wire = .ok integer ↔ WireInteger.IsInteger wire integer := by
  rcases wire with _ | value | digits
  · simp [decodeInteger, WireInteger.IsInteger, eq_comm]
  · simp [decodeInteger, WireInteger.IsInteger]
  · have bounds : -(Width.bound (64 - 1) : Int) ≤ integer.toInt ∧ integer.toInt < Width.bound (64 - 1) :=
      ⟨integer.le_toInt, integer.toInt_lt⟩
    have isRead : Decimal.signed? 64 digits = some integer.toInt ↔ Decimal.IsInteger digits integer.toInt := by
      rw [Decimal.signed?_eq_some_iff]
      exact and_iff_left bounds
    rw [WireInteger.IsInteger, ← isRead, decodeInteger]
    split
    · rename_i value read
      obtain ⟨lower, upper⟩ := (Decimal.signed?_eq_some_iff.1 read).2
      rw [read, Option.some.injEq, Except.ok.injEq, ← Int64.toInt_inj, Int64.toInt_ofInt_of_le lower upper]
    · rename_i unread
      simp [unread]

theorem decodeTime_eq_ok_iff {field : CodedField} {text : String} {time : Option Timestamp} :
    decodeTime field text = .ok time ↔ Timestamp.IsOptional text time := by
  unfold decodeTime
  split
  · rename_i isEmpty
    subst isEmpty
    have unreadable (fault : Timestamp) : ¬Timestamp.IsRfc3339 "" fault :=
      fun isTime => nomatch Timestamp.parse_eq_ok_iff.2 isTime
    cases time <;> simp [Timestamp.IsOptional, unreadable]
  · rename_i notEmpty
    split <;> rename_i read <;> cases time <;>
      simp [Timestamp.IsOptional, notEmpty, ← Timestamp.parse_eq_ok_iff, read]

theorem WireInteger.IsSize.unique {wire : Option WireInteger} {size other : UInt64} (isSize : IsSize wire size)
    (isOther : IsSize wire other) : size = other :=
  Except.ok.inj ((decodeSize_eq_ok_iff.2 isSize).symm.trans (decodeSize_eq_ok_iff.2 isOther))

theorem WireInteger.IsInteger.unique {wire : Option WireInteger} {integer other : Int64}
    (isInteger : IsInteger wire integer) (isOther : IsInteger wire other) : integer = other := by
  have decoded : decodeInteger .generation wire = .ok integer := decodeInteger_eq_ok_iff.2 isInteger
  exact Except.ok.inj (decoded.symm.trans (decodeInteger_eq_ok_iff.2 isOther))

theorem Timestamp.IsOptional.unique {text : String} {time other : Option Timestamp}
    (isTime : IsOptional text time) (isOther : IsOptional text other) : time = other := by
  have decoded : decodeTime .updated text = .ok time := decodeTime_eq_ok_iff.2 isTime
  exact Except.ok.inj (decoded.symm.trans (decodeTime_eq_ok_iff.2 isOther))

theorem decodeBase64_eq_ok_iff {field : CodedField} {text : String} {bytes : Bytes} :
    decodeBase64 field text = .ok bytes ↔ text = Base64.encode bytes := by
  rw [← Base64.decode_eq_ok_iff, decodeBase64]
  cases Base64.decode text <;> simp [Except.mapError]

theorem Crc32c.toBytes_ofBytes (first second third fourth : UInt8) :
    toBytes (ofBytes first second third fourth) = [first, second, third, fourth] := by
  simp only [toBytes, ofBytes, List.cons.injEq, and_true, ← UInt8.toBitVec_inj, UInt32.toBitVec_toUInt8,
    UInt32.toBitVec_or, UInt32.toBitVec_shiftLeft, UInt32.toBitVec_shiftRight, UInt8.toBitVec_toUInt32]
  refine ⟨?_, ?_, ?_, ?_⟩ <;>
  · apply BitVec.eq_of_getLsbD_eq
    intro index bound
    simp only [BitVec.getLsbD_or, BitVec.shiftLeft_eq', BitVec.getLsbD_shiftLeft, BitVec.getLsbD_setWidth,
      BitVec.ushiftRight_eq', BitVec.getLsbD_ushiftRight]
    interval_cases index <;> simp

theorem decodeChecksum_eq_ok_iff {text : String} {checksum : UInt32} :
    decodeChecksum text = .ok checksum ↔ text = Base64.encode (Crc32c.toBytes checksum) := by
  constructor
  · intro read
    obtain ⟨bytes, isBase64, isFour⟩ := bind_eq_ok_iff.1 read
    split at isFour
    · cases isFour
      rw [Crc32c.toBytes_ofBytes]
      exact decodeBase64_eq_ok_iff.1 isBase64
    · cases isFour
  · rintro rfl
    exact decodeChecksum_encode checksum

/-! ### Fields in their order -/

def CodedField.inOrder : List CodedField :=
  [.size, .generation, .metageneration, .timeCreated, .updated, .timeDeleted, .md5Hash, .crc32c]

theorem DecodeError.message_split (error : DecodeError) :
    ∃ opening closing, error.message = opening ++ error.field.name ++ closing := by
  cases error with
  | timestamp field fault =>
      refine ⟨"decoding ", " field: " ++ fault.message, ?_⟩
      rw [← String.append_assoc]
      rfl
  | base64 field fault =>
      refine ⟨"decoding ", " field: " ++ fault.message, ?_⟩
      rw [← String.append_assoc]
      rfl
  | checksumLength length =>
      have opening : "wrong length for decoded crc32c field: " =
          "wrong length for decoded " ++ CodedField.crc32c.name ++ " field: " := by decide
      refine ⟨"wrong length for decoded ", " field: " ++ toString length, ?_⟩
      change _ = "wrong length for decoded " ++ CodedField.crc32c.name ++ (" field: " ++ toString length)
      rw [← String.append_assoc, ← opening]
      rfl
  | integer field text =>
      refine ⟨"decoding ", " field: " ++ Quoted.ofText text ++ " is not a valid integer", ?_⟩
      rw [← String.append_assoc, ← String.append_assoc]
      rfl

theorem DecodeError.name_in_message (error : DecodeError) : error.field.name.toList <:+: error.message.toList := by
  obtain ⟨opening, closing, split⟩ := error.message_split
  rw [split, String.toList_append, String.toList_append]
  exact List.infix_append ..

namespace Resource

def CanDecode (resource : Resource) : CodedField → Prop
  | .size => ∃ size, WireInteger.IsSize resource.size size
  | .generation => ∃ generation, WireInteger.IsInteger resource.generation generation
  | .metageneration => ∃ metageneration, WireInteger.IsInteger resource.metageneration metageneration
  | .timeCreated => ∃ created, Timestamp.IsOptional resource.timeCreated created
  | .updated => ∃ updated, Timestamp.IsOptional resource.updated updated
  | .timeDeleted => ∃ deleted, Timestamp.IsOptional resource.timeDeleted deleted
  | .md5Hash => ∃ bytes, resource.md5Hash = Base64.encode bytes
  | .crc32c => ∃ bytes : Bytes, bytes.length = 4 ∧ resource.crc32c = Base64.encode bytes

theorem canDecode_checksum (checksum : UInt32) (field : CodedField) :
    ({ crc32c := Base64.encode (Crc32c.toBytes checksum) } : Resource).CanDecode field := by
  cases field
  case timeCreated | updated | timeDeleted => exact ⟨none, rfl⟩
  case md5Hash => exact ⟨[], rfl⟩
  case crc32c => exact ⟨Crc32c.toBytes checksum, rfl, rfl⟩
  all_goals exact ⟨0, rfl⟩

/-- This field cannot be decoded, and all that come before it can. -/
def FailsFirst (resource : Resource) (field : CodedField) : Prop :=
  ∃ before behind, CodedField.inOrder = before ++ field :: behind ∧
    (∀ earlier ∈ before, resource.CanDecode earlier) ∧ ¬resource.CanDecode field

def check (resource : Resource) : CodedField → Except DecodeError Unit
  | .size => (decodeSize resource.size).map fun _ => ()
  | .generation => (decodeInteger .generation resource.generation).map fun _ => ()
  | .metageneration => (decodeInteger .metageneration resource.metageneration).map fun _ => ()
  | .timeCreated => (decodeTime .timeCreated resource.timeCreated).map fun _ => ()
  | .updated => (decodeTime .updated resource.updated).map fun _ => ()
  | .timeDeleted => (decodeTime .timeDeleted resource.timeDeleted).map fun _ => ()
  | .md5Hash => (decodeBase64 .md5Hash resource.md5Hash).map fun _ => ()
  | .crc32c => (decodeChecksum resource.crc32c).map fun _ => ()

theorem check_eq_ok_iff {resource : Resource} {field : CodedField} :
    resource.check field = .ok () ↔ resource.CanDecode field := by
  have succeeds {α : Type} (decoded : Except DecodeError α) :
      (decoded.map fun _ => ()) = .ok () ↔ ∃ value, decoded = .ok value := by
    cases decoded <;> simp [Except.map]
  cases field with
  | size => simp only [check, CanDecode, succeeds, decodeSize_eq_ok_iff]
  | generation | metageneration => simp only [check, CanDecode, succeeds, decodeInteger_eq_ok_iff]
  | timeCreated | updated | timeDeleted => simp only [check, CanDecode, succeeds, decodeTime_eq_ok_iff]
  | md5Hash => simp only [check, CanDecode, succeeds, decodeBase64_eq_ok_iff]
  | crc32c =>
      simp only [check, CanDecode, succeeds, decodeChecksum_eq_ok_iff]
      constructor
      · rintro ⟨checksum, written⟩
        exact ⟨Crc32c.toBytes checksum, rfl, written⟩
      · rintro ⟨bytes, four, written⟩
        obtain ⟨first, second, third, fourth, rfl⟩ := List.length_eq_four.1 four
        exact ⟨Crc32c.ofBytes first second third fourth, by rw [Crc32c.toBytes_ofBytes, written]⟩

theorem field_of_check {resource : Resource} {field : CodedField} {error : DecodeError}
    (failed : resource.check field = .error error) : error.field = field := by
  have byBase64 {field : CodedField} {text : String} (failed : decodeBase64 field text = .error error) :
      error.field = field := by
    unfold decodeBase64 at failed
    cases read : Base64.decode text <;> rw [read] at failed <;> cases failed
    rfl
  cases field with
  | size =>
      have decoded := (map_eq_error_iff _).1 failed
      unfold decodeSize at decoded
      repeat' split at decoded
      all_goals cases decoded
      all_goals rfl
  | generation | metageneration =>
      have decoded := (map_eq_error_iff _).1 failed
      unfold decodeInteger at decoded
      repeat' split at decoded
      all_goals cases decoded
      rfl
  | timeCreated | updated | timeDeleted =>
      have decoded := (map_eq_error_iff _).1 failed
      unfold decodeTime at decoded
      repeat' split at decoded
      all_goals cases decoded
      rfl
  | md5Hash => exact byBase64 ((map_eq_error_iff _).1 failed)
  | crc32c =>
      rcases bind_eq_error_iff.1 ((map_eq_error_iff _).1 failed) with notBase64 | ⟨bytes, _, notFour⟩
      · exact byBase64 notBase64
      · split at notFour
        · cases notFour
        · cases notFour
          rfl

end Resource

/-! ### Objects -/

/-- An object holds what each field of a resource stands for, and the bucket that was asked. -/
structure Object.Decodes (object : Object) (bucket : String) (resource : Resource) : Prop where
  bucket : object.bucket = bucket
  name : object.name = resource.name
  contentType : object.contentType = resource.contentType
  contentLanguage : object.contentLanguage = resource.contentLanguage
  contentEncoding : object.contentEncoding = resource.contentEncoding
  cacheControl : object.cacheControl = resource.cacheControl
  metadata : object.metadata = resource.metadata.getD ∅
  acl : object.acl = resource.acl.getD []
  owner : object.owner = resource.owner.getD ""
  storageClass : object.storageClass = resource.storageClass
  mediaLink : object.mediaLink = resource.mediaLink
  size : WireInteger.IsSize resource.size object.size
  generation : WireInteger.IsInteger resource.generation object.generation
  metageneration : WireInteger.IsInteger resource.metageneration object.metageneration
  created : Timestamp.IsOptional resource.timeCreated object.created
  updated : Timestamp.IsOptional resource.updated object.updated
  deleted : Timestamp.IsOptional resource.timeDeleted object.deleted
  md5 : resource.md5Hash = Base64.encode object.md5
  crc32c : resource.crc32c = Base64.encode (Crc32c.toBytes object.crc32c)

/-- Each coded field of two objects is the same as soon as the one field that it was decoded from is. -/
structure Object.FollowsFields (resource other : Resource) (object otherObject : Object) : Prop where
  size : resource.size = other.size → object.size = otherObject.size
  generation : resource.generation = other.generation → object.generation = otherObject.generation
  metageneration : resource.metageneration = other.metageneration →
    object.metageneration = otherObject.metageneration
  created : resource.timeCreated = other.timeCreated → object.created = otherObject.created
  updated : resource.updated = other.updated → object.updated = otherObject.updated
  deleted : resource.timeDeleted = other.timeDeleted → object.deleted = otherObject.deleted
  md5 : resource.md5Hash = other.md5Hash → object.md5 = otherObject.md5
  crc32c : resource.crc32c = other.crc32c → object.crc32c = otherObject.crc32c

namespace Object

variable {bucket : String} {resource : Resource} {object : Object}

theorem ofResource_eq_ok_iff : ofResource bucket resource = .ok object ↔ object.Decodes bucket resource := by
  simp only [ofResource, bind_eq_ok_iff, decodeSize_eq_ok_iff, decodeInteger_eq_ok_iff, decodeTime_eq_ok_iff,
    decodeBase64_eq_ok_iff, decodeChecksum_eq_ok_iff]
  constructor
  · rintro ⟨size, isSize, generation, isGeneration, metageneration, isMetageneration, created, isCreated, updated,
      isUpdated, deleted, isDeleted, md5, isMd5, crc32c, isCrc32c, finished⟩
    cases finished
    constructor
    case size => exact isSize
    case generation => exact isGeneration
    case metageneration => exact isMetageneration
    case created => exact isCreated
    case updated => exact isUpdated
    case deleted => exact isDeleted
    case md5 => exact isMd5
    case crc32c => exact isCrc32c
    all_goals rfl
  · intro decodes
    refine ⟨_, decodes.size, _, decodes.generation, _, decodes.metageneration, _, decodes.created, _, decodes.updated,
      _, decodes.deleted, _, decodes.md5, _, decodes.crc32c, ?_⟩
    simp only [pure, Except.pure, ← decodes.bucket, ← decodes.name, ← decodes.contentType, ← decodes.contentLanguage,
      ← decodes.contentEncoding, ← decodes.cacheControl, ← decodes.metadata, ← decodes.acl, ← decodes.owner,
      ← decodes.storageClass, ← decodes.mediaLink]

theorem Decodes.followsFields {otherBucket : String} {other : Resource} {otherObject : Object}
    (decodes : object.Decodes bucket resource) (otherDecodes : otherObject.Decodes otherBucket other) :
    FollowsFields resource other object otherObject := by
  constructor
  case size => exact fun agree => decodes.size.unique (agree ▸ otherDecodes.size)
  case generation => exact fun agree => decodes.generation.unique (agree ▸ otherDecodes.generation)
  case metageneration => exact fun agree => decodes.metageneration.unique (agree ▸ otherDecodes.metageneration)
  case created => exact fun agree => decodes.created.unique (agree ▸ otherDecodes.created)
  case updated => exact fun agree => decodes.updated.unique (agree ▸ otherDecodes.updated)
  case deleted => exact fun agree => decodes.deleted.unique (agree ▸ otherDecodes.deleted)
  case md5 =>
    intro agree
    have decoded := Base64.decode_eq_ok_iff.2 decodes.md5
    rw [agree, Base64.decode_eq_ok_iff.2 otherDecodes.md5] at decoded
    exact (Except.ok.inj decoded).symm
  case crc32c =>
    intro agree
    have decoded := decodeChecksum_eq_ok_iff.2 decodes.crc32c
    rw [agree, decodeChecksum_eq_ok_iff.2 otherDecodes.crc32c] at decoded
    exact (Except.ok.inj decoded).symm

theorem ofResource_eq_mapM (bucket : String) (resource : Resource) : (ofResource bucket resource).map (fun _ => ()) =
    (CodedField.inOrder.mapM resource.check).map fun _ => () := by
  simp only [ofResource, CodedField.inOrder, List.mapM_cons, List.mapM_nil, Resource.check, bind, Except.bind, pure,
    Except.pure]
  cases decodeSize resource.size with
  | error => rfl
  | ok =>
  cases decodeInteger .generation resource.generation with
  | error => rfl
  | ok =>
  cases decodeInteger .metageneration resource.metageneration with
  | error => rfl
  | ok =>
  cases decodeTime .timeCreated resource.timeCreated with
  | error => rfl
  | ok =>
  cases decodeTime .updated resource.updated with
  | error => rfl
  | ok =>
  cases decodeTime .timeDeleted resource.timeDeleted with
  | error => rfl
  | ok =>
  cases decodeBase64 .md5Hash resource.md5Hash with
  | error => rfl
  | ok =>
  cases decodeChecksum resource.crc32c <;> rfl

theorem ofResource_eq_error_iff {error : DecodeError} : ofResource bucket resource = .error error ↔
    ∃ before behind, CodedField.inOrder = before ++ error.field :: behind ∧
      (∀ earlier ∈ before, resource.CanDecode earlier) ∧ resource.check error.field = .error error := by
  rw [← map_eq_error_iff fun _ => (), ofResource_eq_mapM, map_eq_error_iff, mapM_eq_error_iff]
  constructor
  · rintro ⟨before, field, behind, split, readable, failed⟩
    cases Resource.field_of_check failed
    refine ⟨before, behind, split, fun earlier member => ?_, failed⟩
    obtain ⟨_, isRead⟩ := readable earlier member
    exact Resource.check_eq_ok_iff.1 isRead
  · rintro ⟨before, behind, split, readable, failed⟩
    exact ⟨before, error.field, behind, split,
      fun earlier member => ⟨(), Resource.check_eq_ok_iff.2 (readable earlier member)⟩, failed⟩

theorem failsFirst_of_error {error : DecodeError} (failed : ofResource bucket resource = .error error) :
    resource.FailsFirst error.field := by
  obtain ⟨before, behind, split, readable, failing⟩ := ofResource_eq_error_iff.1 failed
  refine ⟨before, behind, split, readable, fun decodable => ?_⟩
  rw [Resource.check_eq_ok_iff.2 decodable] at failing
  cases failing

theorem exists_ofResource_iff :
    (∃ object, ofResource bucket resource = .ok object) ↔ ∀ field, resource.CanDecode field := by
  constructor
  · rintro ⟨object, decoded⟩ field
    have decodes := ofResource_eq_ok_iff.1 decoded
    cases field with
    | size => exact ⟨_, decodes.size⟩
    | generation => exact ⟨_, decodes.generation⟩
    | metageneration => exact ⟨_, decodes.metageneration⟩
    | timeCreated => exact ⟨_, decodes.created⟩
    | updated => exact ⟨_, decodes.updated⟩
    | timeDeleted => exact ⟨_, decodes.deleted⟩
    | md5Hash => exact ⟨_, decodes.md5⟩
    | crc32c => exact ⟨_, rfl, decodes.crc32c⟩
  · intro decodable
    cases decoded : ofResource bucket resource with
    | ok object => exact ⟨object, rfl⟩
    | error error =>
        obtain ⟨before, behind, _, _, notDecodable⟩ := failsFirst_of_error decoded
        exact absurd (decodable error.field) notDecodable

end Object

/-! ### Listings -/

namespace BucketConfig

variable {σ : Type}

def IsListed (config : BucketConfig) (query : Query) (transport : Transport σ) (state : σ) (listing : ResourceList)
    (after : σ) : Prop :=
  ∃ request response bytes, config.listRequest query = .ok request ∧
    transport request state = (.answer (.ok response), after) ∧ Status.isSuccess response.status = true ∧
    response.collect = .ok bytes ∧ ResourceList.parse bytes = .ok listing

theorem run_list_of_isListed {config : BucketConfig} {query : Query} {transport : Transport σ} {state after : σ}
    {listing : ResourceList} (listed : config.IsListed query transport state listing after) :
    ∃ next, (config.list query).run transport state =
      (.finished ((((listing.items.getD []).mapM (Object.ofResource config.name)).mapError Error.decode).map
        fun results => ⟨results, listing.prefixes.getD [], next⟩), after) := by
  obtain ⟨request, response, bytes, asked, answered, succeeded, collected, parsed⟩ := listed
  refine ⟨(listing.nextPageToken.filter (· ≠ "")).map fun cursor => { query with cursor }, ?_⟩
  simp only [list, asked, Operation.sending, Exchange.run, answered, Operation.accepted, Except.mapError, bind,
    Except.bind, HttpResponse.check_of_success succeeded, HttpResponse.page, HttpResponse.bytes, collected, parsed]
  cases (listing.items.getD []).mapM (Object.ofResource config.name) <;> rfl

end BucketConfig

/-- An object is decoded if and only if each of its coded fields can be, field by field, and the error names the
first one that cannot. A page is decoded if and only if each of its items can be, item by item, and its error is that
of the first one that cannot. -/
theorem decoding_is_all_or_nothing :
    (∀ bucket resource,
      ((∃ object, Object.ofResource bucket resource = .ok object) ↔ ∀ field, resource.CanDecode field) ∧
      (∀ object, Object.ofResource bucket resource = .ok object ↔ object.Decodes bucket resource) ∧
      (∀ object otherBucket other otherObject, Object.ofResource bucket resource = .ok object →
        Object.ofResource otherBucket other = .ok otherObject →
          Object.FollowsFields resource other object otherObject) ∧
      ∀ error, Object.ofResource bucket resource = .error error →
        resource.FailsFirst error.field ∧ error.field.name.toList <:+: error.message.toList) ∧
    ∀ (σ : Type) (config : BucketConfig) (query : Query) (transport : Transport σ) (state after : σ)
      (listing : ResourceList), config.IsListed query transport state listing after →
        let items := listing.items.getD []
        let run := (config.list query).run transport state
        ((∃ page, run = (.finished (.ok page), after)) ↔ ∀ item ∈ items, ∀ field, item.CanDecode field) ∧
        (∀ page, run = (.finished (.ok page), after) →
          List.Forall₂ (fun item object => Object.Decodes object config.name item) items page.results) ∧
        ∀ error, run = (.finished (.error error), after) ↔ ∃ before bad behind fault,
          items = before ++ bad :: behind ∧ (∀ item ∈ before, ∀ field, item.CanDecode field) ∧
          Object.ofResource config.name bad = .error fault ∧ error = .decode fault := by
  constructor
  · intro bucket resource
    refine ⟨Object.exists_ofResource_iff, fun _ => Object.ofResource_eq_ok_iff, ?_, fun error failed => ?_⟩
    · intro object otherBucket other otherObject decoded otherDecoded
      exact (Object.ofResource_eq_ok_iff.1 decoded).followsFields (Object.ofResource_eq_ok_iff.1 otherDecoded)
    · exact ⟨Object.failsFirst_of_error failed, error.name_in_message⟩
  · intro σ config query transport state after listing listed items run
    obtain ⟨next, ran⟩ := BucketConfig.run_list_of_isListed listed
    have result : run = (.finished (((items.mapM (Object.ofResource config.name)).mapError Error.decode).map
        fun results => ⟨results, listing.prefixes.getD [], next⟩), after) := ran
    have decodable (list : List Resource) : (∀ item ∈ list, ∀ field, item.CanDecode field) ↔
        ∃ results, list.mapM (Object.ofResource config.name) = .ok results := by
      simp only [exists_mapM_iff, Object.exists_ofResource_iff]
    have failed (error : Error) : run = (.finished (.error error), after) ↔
        ∃ fault, items.mapM (Object.ofResource config.name) = .error fault ∧ error = .decode fault := by
      rw [result]
      cases items.mapM (Object.ofResource config.name) <;> simp [Except.mapError, Except.map, eq_comm]
    refine ⟨?_, fun page finished => ?_, fun error => ?_⟩
    · rw [result, decodable]
      cases items.mapM (Object.ofResource config.name) <;> simp [Except.mapError, Except.map]
    · rw [result] at finished
      cases decoded : items.mapM (Object.ofResource config.name) with
      | error fault => simp [decoded, Except.mapError, Except.map] at finished
      | ok results =>
          simp only [decoded, Except.mapError, Except.map, Prod.mk.injEq, Ended.finished.injEq, Except.ok.injEq,
            and_true] at finished
          subst finished
          exact (mapM_eq_ok_iff.1 decoded).imp fun _ _ => Object.ofResource_eq_ok_iff.1
    · simp only [failed, mapM_eq_error_iff, Object.exists_ofResource_iff]
      constructor
      · rintro ⟨fault, ⟨before, bad, behind, split, readable, isBad⟩, isDecode⟩
        exact ⟨before, bad, behind, fault, split, readable, isBad, isDecode⟩
      · rintro ⟨before, bad, behind, fault, split, readable, isBad, isDecode⟩
        exact ⟨fault, ⟨before, bad, behind, split, readable, isBad⟩, isDecode⟩

theorem decoding_is_all_or_nothing_of_bad_item :
    let good : Resource := { crc32c := Base64.encode (Crc32c.toBytes 0) }
    let bad : Resource := {}
    let transport (items : List Resource) : Transport Unit := fun _ state =>
      (.answer (.ok (HttpResponse.ofJson Status.ok (ResourceList.toJson { items }))), state)
    let run (items : List Resource) := ((Simulation.bucketConfig "photos").list {}).run (transport items) ()
    (∃ object, Object.ofResource "photos" good = .ok object ∧ object.FollowsFields good good object) ∧
      bad.FailsFirst .crc32c ∧
      (∃ page, run [good] = (.finished (.ok page), ()) ∧ page.results.length = 1) ∧
      run [good, bad] = (.finished (.error (.decode (.checksumLength 0))), ()) := by
  intro good bad transport run
  obtain ⟨onResources, onListings⟩ := decoding_is_all_or_nothing
  have isGood : ∀ field, good.CanDecode field := Resource.canDecode_checksum 0
  have isBad : Object.ofResource "photos" bad = .error (.checksumLength 0) := by decide
  have listed (items : List Resource) : (Simulation.bucketConfig "photos").IsListed {} (transport items) ()
      { items } () :=
    ⟨_, _, _, Simulation.listRequest_eq ⟨by decide, by decide⟩ {}, rfl, rfl, HttpResponse.collect_ofBytes ..,
      ResourceList.parse_toJson _⟩
  refine ⟨?_, ?_, ?_, ?_⟩
  · obtain ⟨object, decoded⟩ := (onResources "photos" good).1.2 isGood
    exact ⟨object, decoded, (onResources "photos" good).2.2.1 object "photos" good object decoded decoded⟩
  · exact ((onResources "photos" bad).2.2.2 _ isBad).1
  · obtain ⟨succeeds, results, -⟩ := onListings Unit _ {} (transport [good]) () () _ (listed [good])
    obtain ⟨page, finished⟩ := succeeds.2 (List.forall_mem_singleton.2 isGood)
    exact ⟨page, finished, (results page finished).length_eq.symm⟩
  · exact ((onListings Unit _ {} (transport [good, bad]) () () _ (listed [good, bad])).2.2 _).2
      ⟨[good], bad, [], .checksumLength 0, rfl, List.forall_mem_singleton.2 isGood, isBad, rfl⟩

end ObjectStore
