import ObjectStore.Proofs.Atomic.Creation
import ObjectStore.Proofs.Object
import ObjectStore.Proofs.Simulation.Version

/-!
What was created is found again. Whatever happens in between, an object that no success writes keeps its
attributes, its version and its contents.
-/

namespace ObjectStore

open Url (IsPlaceName)

def Store.aim? (store : Store) (request : HttpRequest) : Option (String × String) :=
  match request.route with
  | .upload => ((request.parameters.get? "upload_id").bind store.uploads.get?).map fun upload =>
      (upload.bucket, upload.resource.name)
  | .patch bucket name => some (bucket, name)
  | .delete bucket name => some (bucket, name)
  | _ => none

namespace Simulation

variable {simulation : Simulation} {bucket name : String}

/-! ### Objects that nothing writes -/

def Writes (simulation : Simulation) (request : HttpRequest) (bucket name : String) : Prop :=
  simulation.store.aim? request = some (bucket, name) ∧
    ∃ response, (transport request simulation).1 = .answer (.ok response) ∧ Status.isSuccess response.status = true

/-- Nothing of what happens is a successful write of the object. -/
def Spares (simulation : Simulation) (happenings : List Happening) (bucket name : String) : Prop :=
  ∀ earlier request later, happenings = earlier ++ .request request :: later →
    ¬(simulation.run earlier).Writes request bucket name

theorem find?_step_of_spared {happening : Happening}
    (spared : ∀ request, happening = .request request → ¬simulation.Writes request bucket name) :
    (simulation.step happening).store.find? bucket name = simulation.store.find? bucket name := by
  rcases step_cases simulation happening with same | ⟨request, body, answer, sent, _, change, replied⟩
  · rw [same]
  · have elsewhere {otherBucket otherName : String} {response : HttpResponse}
        (aimed : simulation.store.aim? request = some (otherBucket, otherName)) (answered : answer = some response)
        (succeeded : Status.isSuccess response.status = true) : ¬(bucket = otherBucket ∧ name = otherName) := by
      rintro ⟨rfl, rfl⟩
      refine spared request sent ⟨aimed, response, ?_, succeeded⟩
      rw [replied, answered]
      rfl
    generalize (simulation.step happening).store = later at change ⊢
    cases change with
    | quiet | opened => rfl
    | refused _ _ _ _ _ taken => rw [Store.find?_congr (Store.takeUpload_objects taken).1]
    | written session upload closed contentType route named taken =>
        have aimed : simulation.store.aim? request = some (upload.bucket, upload.resource.name) := by
          simp only [Store.aim?, route, named, Option.bind_some, (Store.takeUpload_eq_some taken).1, Option.map_some]
        rw [Store.find?_write, if_neg (elsewhere aimed rfl rfl), Store.find?_congr (Store.takeUpload_objects taken).1]
    | patched otherBucket otherName stored changed changes route =>
        have aimed : simulation.store.aim? request = some (otherBucket, otherName) := by
          simp only [Store.aim?, route]
        rw [Store.find?_put, if_neg (elsewhere aimed rfl rfl)]
    | removed otherBucket otherName stored route =>
        have aimed : simulation.store.aim? request = some (otherBucket, otherName) := by
          simp only [Store.aim?, route]
        rw [Store.find?_remove, if_neg (elsewhere aimed rfl rfl)]

theorem find?_run_of_spares {happenings : List Happening} (spares : simulation.Spares happenings bucket name) :
    (simulation.run happenings).store.find? bucket name = simulation.store.find? bucket name := by
  induction happenings generalizing simulation with
  | nil => rfl
  | cons happening rest ih =>
      have first : (simulation.step happening).store.find? bucket name = simulation.store.find? bucket name := by
        refine find?_step_of_spared fun request sent => ?_
        exact spares [] request rest (by rw [sent]; rfl)
      have others : (simulation.step happening).Spares rest bucket name := by
        intro earlier request later split
        exact spares (happening :: earlier) request later (by rw [split]; rfl)
      rw [run_cons, ih others, first]

end Simulation

theorem Content.readAll_ofBytes (bytes : Bytes) : (ofBytes bytes).readAll = (bytes, none) := by
  simp only [ofBytes, readAll, List.append_nil]

/-! ### The first version -/

structure Object.IsFirst (object : Object) (bucket : String) (attributes : Attributes) (contents : Bytes) : Prop where
  bucket : object.bucket = bucket
  name : object.name = attributes.name
  contentType : object.contentType =
    if attributes.contentType = "" then "application/octet-stream" else attributes.contentType
  contentLanguage : object.contentLanguage = attributes.contentLanguage
  contentEncoding : object.contentEncoding = attributes.contentEncoding
  cacheControl : object.cacheControl = attributes.cacheControl
  metadata : object.metadata = attributes.metadata
  acl : object.acl = attributes.acl
  size : object.size.toNat = contents.length
  md5 : object.md5 = Md5.digest contents
  crc32c : object.crc32c = Crc32c.checksum contents
  metageneration : object.metageneration = 1

theorem Atomic.isFirst_newObject (bucket : String) (attributes : Attributes) {contents : Bytes}
    (fits : contents.length < Width.bound 64) (generation : Nat) (now : Timestamp) :
    ((newObject attributes contents generation now).toObject bucket attributes.name).IsFirst bucket attributes
      contents where
  bucket := rfl
  name := rfl
  contentType := rfl
  contentLanguage := rfl
  contentEncoding := rfl
  cacheControl := rfl
  metadata := rfl
  acl := rfl
  size := UInt64.toNat_ofNat_of_lt' fits
  md5 := rfl
  crc32c := rfl
  metageneration := rfl

section Found

variable {store : Store} {bucket name : String} {object : StoredObject}
  (checked : checkSegmentName name = .ok ()) (found : store.find? bucket name = some object)

include checked found

theorem Atomic.stat_found (fits : object.Fits) : stat store bucket name = .ok (object.toObject bucket name) := by
  simp only [stat, checkName, checked, found, view_eq _ _ fits, Except.mapError, bind, Except.bind]

theorem Atomic.read_found (generation : Int64) : read store bucket ⟨name, generation⟩ =
    if generation = 0 ∨ generation.toInt = object.generation then .ok (.ofBytes object.contents)
    else .error (missing bucket name) := by
  simp only [read, checkName, checked, found, Except.mapError, bind, Except.bind]

end Found

theorem checkSegmentName_of_validate {name : String} (isName : validateName name = .ok ()) :
    checkSegmentName name = .ok () := by
  cases checked : checkSegmentName name with
  | ok => rfl
  | error reason =>
      simp only [validateName, checked, bind, Except.bind] at isName
      cases isName

namespace Simulation

section Creation

theorem run_create_admitted {bucket : String} (isBucket : IsPlaceName bucket) {request : CreateRequest}
    (isValid : Atomic.checkCreate request = .ok ()) {contents : Bytes}
    (complete : request.contents.collect = .ok contents) {simulation : Simulation}
    (current : ∀ expected, request.precondition = some expected →
      expected.toInt = simulation.store.generationOf bucket request.attributes.name) :
    let stored := Atomic.newObject request.attributes contents simulation.store.nextGeneration simulation.clock.now
    ∃ created : Simulation,
      ((bucketConfig bucket).create request).run transport simulation =
        (.finished (Atomic.view bucket request.attributes.name stored), created) ∧
      created.clock = simulation.clock ∧
      created.store.objects = (simulation.store.put bucket request.attributes.name stored).objects := by
  intro stored
  obtain ⟨number, uploads, created⟩ := run_create isBucket request simulation
  simp only [Atomic.create, isValid, complete, Atomic.admits_of_current current, if_true] at created
  exact ⟨_, created, rfl, rfl⟩

variable {time : Timestamp} {happenings : List Happening}

theorem lt_nextGeneration {earlier later : List Happening} (split : happenings = earlier ++ later)
    {bucket name : String} {object : StoredObject}
    (found : (after time earlier).store.find? bucket name = some object) :
    object.generation < (after time happenings).store.nextGeneration := by
  have bounds := (after_sound time earlier).bounds bucket name object found
  have grown := (run_progress (after time earlier) later).next
  rw [split, after_append]
  omega

end Creation

/-- A creation round trip. The numbers of requests and of bytes are below the ones that the integers of
a version and of a size do not hold. -/
theorem create_round_trip {bucket : String} (isBucket : IsPlaceName bucket) (time : Timestamp)
    (happenings : List Happening) (few : requestCount happenings < Width.bound 63) (request : CreateRequest)
    (isName : validateName request.attributes.name = .ok ())
    (isHeader : Headers.isValidValue (Bytes.ofText request.attributes.contentType) = true)
    (current : ∀ expected, request.precondition = some expected →
      expected.toInt = (after time happenings).store.generationOf bucket request.attributes.name)
    {contents : Bytes} (complete : request.contents.collect = .ok contents)
    (fits : contents.length < Width.bound 64) :
    ∃ object created,
      ((bucketConfig bucket).create request).run transport (after time happenings) =
        (.finished (.ok object), created) ∧
      object.IsFirst bucket request.attributes contents ∧
      (∀ earlier later, happenings = earlier ++ later → ∀ otherBucket otherName other,
        (after time earlier).store.find? otherBucket otherName = some other →
          (other.generation : Int) < object.generation.toInt) ∧
      ∀ further, created.Spares further bucket request.attributes.name →
        ((bucketConfig bucket).stat request.attributes.name).run transport (created.run further) =
          (.finished (.ok object), created.run further) ∧
        ∀ generation, generation = 0 ∨ generation = object.generation → ∃ content,
          ((bucketConfig bucket).read ⟨request.attributes.name, generation⟩).run transport (created.run further) =
            (.finished (.ok content), created.run further) ∧
          content.readAll = (contents, none) := by
  have isValid := Atomic.checkCreate_of_valid isName isHeader
  have objectFits : (Atomic.newObject request.attributes contents (after time happenings).store.nextGeneration
      (after time happenings).clock.now).Fits := fits_newObject few _ fits _
  obtain ⟨created, ran, _, objects⟩ := run_create_admitted isBucket isValid complete current
  rw [Atomic.view_eq _ _ objectFits] at ran
  refine ⟨_, created, ran, Atomic.isFirst_newObject bucket _ fits _ _, ?_, fun further spares => ?_⟩
  · intro earlier later split otherBucket otherName other found
    have below := lt_nextGeneration split found
    rw [StoredObject.toInt_generation _ _ objectFits]
    exact Int.ofNat_lt.2 below
  · have checked := checkSegmentName_of_validate isName
    have found := find?_run_of_spares spares
    rw [Store.find?_congr objects, Store.find?_put, if_pos ⟨rfl, rfl⟩] at found
    refine ⟨?_, fun generation wanted => ⟨_, ?_, Content.readAll_ofBytes contents⟩⟩
    · rw [run_stat isBucket, Atomic.stat_found checked found objectFits]
    · have isWanted : generation = 0 ∨
          generation.toInt = ((after time happenings).store.nextGeneration : Int) := by
        refine wanted.imp_right fun same => ?_
        rw [same, StoredObject.toInt_generation _ _ objectFits]
        rfl
      rw [run_read isBucket, Atomic.read_found checked found, Atomic.newObject, if_pos isWanted]

theorem create_round_trip_beside_deletion :
    let time : Timestamp := ⟨1700000000123456789, 3600⟩
    let request : CreateRequest :=
      { attributes :=
          { name := "a/%2e ?#é", contentLanguage := "en", metadata := .ofList [("key", "")],
            acl := [⟨"allUsers", "READER"⟩] }
        contents := [.bytes [0x00, 0xFF], .bytes [], .bytes [0x0A]]
        precondition := some 0 }
    ∃ object created,
      ((bucketConfig "photos").create request).run transport (after time [.advance 1]) =
        (.finished (.ok object), created) ∧
      object.IsFirst "photos" request.attributes [0x00, 0xFF, 0x0A] ∧
      ((bucketConfig "photos").stat "a/%2e ?#é").run transport
          (created.run [.request (Sent.delete "photos" "a")]) =
        (.finished (.ok object), created.run [.request (Sent.delete "photos" "a")]) := by
  intro time request
  have isName : validateName request.attributes.name = .ok () := by decide
  have current : ∀ expected, request.precondition = some expected →
      expected.toInt = (after time [.advance 1]).store.generationOf "photos" request.attributes.name := by
    rintro expected ⟨⟩
    have unchanged : (after time [.advance 1]).store = Store.start := by
      simp only [after, run_cons, run_nil, step]
      split <;> rfl
    rw [unchanged]
    rfl
  have isBucket : IsPlaceName "photos" := ⟨by decide, by decide⟩
  have complete : request.contents.collect = .ok [0x00, 0xFF, 0x0A] := rfl
  obtain ⟨object, created, ran, isFirst, _, kept⟩ := create_round_trip isBucket time [.advance 1] (by decide) request
    isName (by decide) current complete (by decide)
  refine ⟨object, created, ran, isFirst, (kept _ ?_).1⟩
  rintro (_ | ⟨_, _ | _⟩) sent later split ⟨aimed, _⟩
  · cases split
    simp [Store.aim?, Sent.route_delete, request] at aimed
  · cases split
  · cases split

end Simulation

end ObjectStore
