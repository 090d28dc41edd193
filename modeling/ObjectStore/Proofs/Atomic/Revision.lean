import ObjectStore.Proofs.Atomic.Updates

/-!
What one update does to an object: each text and each metadata key is kept, emptied or set as the request
says, and nothing else changes but the count of revisions and their time.
-/

namespace ObjectStore

open Url (IsPlaceName)

structure StoredObject.IsRevision (new old : StoredObject) (update : UpdateRequest) (now : Timestamp) : Prop where
  kept : ∀ field, update.text field = .keep → new.text field = old.text field
  cleared : ∀ field, update.text field = .clear → new.text field = ""
  set : ∀ field value, update.text field = .set value → new.text field = value
  given : ∀ key value, update.key? key = some (some value) → new.metadata.get? key = some value
  removed : ∀ key, update.key? key = some none → new.metadata.get? key = none
  untouched : ∀ key, update.key? key = none → new.metadata.get? key = old.metadata.get? key
  metageneration : new.metageneration = old.metageneration + 1
  updated : new.updated = now
  contents : new.contents = old.contents
  acl : new.acl = old.acl
  generation : new.generation = old.generation
  created : new.created = old.created

namespace Atomic

theorem isRevision_updated (update : UpdateRequest) (object : StoredObject) (now : Timestamp) :
    (updated update object now).IsRevision object update now := by
  have text := text_updated update object now
  have key := get?_updated update object now
  constructor
  case kept =>
    intro field keeps
    rw [text, keeps]
    rfl
  case cleared =>
    intro field clears
    rw [text, clears]
    rfl
  case set =>
    intro field value sets
    rw [text, sets]
    rfl
  case given =>
    intro name value isGiven
    rw [key, isGiven, Option.getD_some]
  case removed =>
    intro name isRemoved
    rw [key, isRemoved, Option.getD_some]
  case untouched =>
    intro name unnamed
    rw [key, unnamed, Option.getD_none]
  all_goals rfl

theorem contentType_of_removes {update : UpdateRequest} (removes : update.RemovesContentType) (object : StoredObject) :
    (applyUpdate update object).contentType = "" := by
  have applied : (applyUpdate update object).contentType = applyField update.contentType object.contentType := rfl
  rcases removes with cleared | emptied
  · rw [applied, cleared]
    rfl
  · rw [applied, emptied]
    rfl

end Atomic

namespace Simulation

section Request

variable {bucket : String} (isBucket : IsPlaceName bucket) {request : UpdateRequest}
  (checked : checkSegmentName request.name = .ok ()) {simulation : Simulation}

include isBucket checked

theorem run_update_missing (missing : simulation.store.find? bucket request.name = none) :
    ((bucketConfig bucket).update request).run transport simulation =
      (.finished (.error (Atomic.missing bucket request.name)), simulation) := by
  rw [run_update isBucket]
  simp only [Atomic.update, Atomic.checkName, checked, missing, Except.mapError]

theorem run_update_refused {object : StoredObject}
    (found : simulation.store.find? bucket request.name = some object) (removes : request.RemovesContentType) :
    ((bucketConfig bucket).update request).run transport simulation =
      (.finished (.error (Atomic.refusal Status.badRequest "Required: contentType")), simulation) := by
  rw [run_update isBucket]
  simp only [Atomic.update, Atomic.checkName, checked, found, Except.mapError,
    if_pos (Atomic.contentType_of_removes removes object)]

end Request

/-- An update has one of three results. The object has a content type in every state that operations lead to, so
that only an update that removes it is refused. The numbers of requests and of bytes are below the ones that the
integers of a version and of a size do not hold. -/
theorem update_keeps_clears_or_sets {bucket : String} (isBucket : IsPlaceName bucket) (time : Timestamp)
    {history : List Happening} (operations : ∀ happening ∈ history, happening.IsOperation)
    (few : requestCount history + 1 < Width.bound 63) (request : UpdateRequest) (named : request.name ≠ "")
    (isName : IsPlaceName request.name) :
    let simulation := after time history
    let run := ((bucketConfig bucket).update request).run transport simulation
    (simulation.store.find? bucket request.name = none →
      ∃ cause, run = (.finished (.error (.notFound cause)), simulation)) ∧
    ∀ object, simulation.store.find? bucket request.name = some object →
      (request.RemovesContentType → ∃ refusal : ServiceError, refusal.code = 400 ∧
        run = (.finished (.error (.service refusal)), simulation)) ∧
      (¬request.RemovesContentType → object.contents.length < Width.bound 64 → ∃ new : StoredObject,
        new.IsRevision object request simulation.clock.now ∧
        run = (.finished (.ok (new.toObject bucket request.name)),
          { simulation with store := simulation.store.put bucket request.name new }) ∧
        ((bucketConfig bucket).stat request.name).run transport run.2 =
          (.finished (.ok (new.toObject bucket request.name)), run.2)) := by
  intro simulation run
  have checked : checkSegmentName request.name = .ok () := by
    simp [checkSegmentName, named, isName.1, isName.2]
  refine ⟨fun missing => ⟨_, run_update_missing isBucket checked missing⟩, fun object found => ⟨?_, ?_⟩⟩
  · exact fun removes => ⟨_, rfl, run_update_refused isBucket checked found removes⟩
  · intro keeps small
    have operable := (after_operated time operations).objects bucket request.name object found
    have fits : object.Fits := fits_after (by omega) found small
    have counted := (after_counted time history).metagenerations bucket request.name object found
    have room : object.HasRoom 1 := ⟨operable.contentType, fits.size, fits.generation, by omega⟩
    have ran := run_update_found isBucket checked rfl keeps found room
    have newFits : (Atomic.updated request object simulation.clock.now).Fits := by
      refine ⟨fits.size, fits.generation, ?_⟩
      change object.metageneration + 1 < Width.bound 63
      omega
    refine ⟨_, Atomic.isRevision_updated request object simulation.clock.now, ran, ?_⟩
    have now : run.2.store.find? bucket request.name =
        some (Atomic.updated request object simulation.clock.now) := by
      change (((bucketConfig bucket).update request).run transport simulation).2.store.find? _ _ = _
      rw [ran, Store.find?_put, if_pos ⟨rfl, rfl⟩]
    rw [run_stat isBucket, Atomic.stat_found checked now newFits]

theorem update_keeps_clears_or_sets_after_creation :
    let simulation := after ⟨0, 0⟩ (creation "photos" "a" 0)
    let run (request : UpdateRequest) := ((bucketConfig "photos").update request).run transport simulation
    let given : UpdateRequest :=
      { name := "a", cacheControl := .set "no-store", metadata := some (.ofList [("size", some "red")]) }
    (∃ cause, run { name := "b" } = (.finished (.error (.notFound cause)), simulation)) ∧
    (∃ refusal : ServiceError, refusal.code = 400 ∧
      run { name := "a", contentType := .clear } = (.finished (.error (.service refusal)), simulation)) ∧
    ∃ new : StoredObject, (run given).1 = .finished (.ok (new.toObject "photos" "a")) ∧
      new.text .cacheControl = "no-store" ∧ new.text .contentType ≠ "" ∧ new.metadata.get? "size" = some "red" ∧
      new.contents = [] ∧ ((bucketConfig "photos").stat "a").run transport (run given).2 =
        (.finished (.ok (new.toObject "photos" "a")), (run given).2) := by
  intro simulation run given
  have isBucket : IsPlaceName "photos" := ⟨by decide, by decide⟩
  have isName : validateName "a" = .ok () := by decide
  obtain ⟨object, isEmpty, written⟩ := objects_creation "photos" isName ⟨0, 0⟩
  have found : simulation.store.find? "photos" "a" = some object := by
    rw [Store.find?_congr written, Store.find?_put, if_pos ⟨rfl, rfl⟩]
  have absent : simulation.store.find? "photos" "b" = none := by
    rw [Store.find?_congr written, Store.find?_put, if_neg (by decide)]
    rfl
  have operations := isOperation_creation isBucket isName 0
  have operable := (after_operated ⟨0, 0⟩ operations).objects "photos" "a" object found
  have sizeChange : given.key? "size" = some (some "red") := by decide
  have few : requestCount (creation "photos" "a" 0) + 1 < Width.bound 63 := by decide
  obtain ⟨missing, _⟩ := update_keeps_clears_or_sets isBucket ⟨0, 0⟩ operations few { name := "b" }
    (by decide) ⟨by decide, by decide⟩
  obtain ⟨_, refused⟩ := update_keeps_clears_or_sets isBucket ⟨0, 0⟩ operations few
    { name := "a", contentType := .clear } (by decide) ⟨by decide, by decide⟩
  obtain ⟨_, changed⟩ := update_keeps_clears_or_sets isBucket ⟨0, 0⟩ operations few given
    (by decide) ⟨by decide, by decide⟩
  have keeps : ¬given.RemovesContentType := by
    simp [UpdateRequest.RemovesContentType, given]
  have small : object.contents.length < Width.bound 64 := by
    rw [isEmpty]
    decide
  obtain ⟨new, revision, ran, shown⟩ := (changed object found).2 keeps small
  have ended : (run given).1 = .finished (.ok (new.toObject "photos" "a")) := congrArg Prod.fst ran
  refine ⟨missing absent, (refused object found).1 (Or.inl rfl), new, ended, ?_, ?_, ?_, ?_, shown⟩
  · exact revision.set .cacheControl "no-store" rfl
  · rw [revision.kept .contentType rfl]
    exact operable.contentType
  · exact revision.given "size" "red" sizeChange
  · rw [revision.contents, isEmpty]

end Simulation

end ObjectStore
