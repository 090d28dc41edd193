import ObjectStore.Proofs.Atomic.Page
import ObjectStore.Proofs.Atomic.RoundTrip

/-!
Names identify objects. However a name is written on its way to the service, it reaches the object that
was created under it and no other one.
-/

namespace ObjectStore

open Url (IsPlaceName)

namespace Store

def HoldsOnly (store : Store) (bucket name : String) (stored : StoredObject) : Prop :=
  ∀ otherBucket otherName, store.find? otherBucket otherName =
    if bucket = otherBucket ∧ name = otherName then some stored else none

section HoldsOnly

variable {store : Store} {bucket name : String} {stored : StoredObject} (only : store.HoldsOnly bucket name stored)

include only

theorem HoldsOnly.find?_self : store.find? bucket name = some stored := by
  rw [only, if_pos ⟨rfl, rfl⟩]

theorem HoldsOnly.names_eq (otherBucket : String) :
    store.names otherBucket = if bucket = otherBucket then [name] else [] := by
  have ascending : (if bucket = otherBucket then [name] else []).Pairwise (· < ·) := by
    split
    · exact List.pairwise_singleton ..
    · exact List.Pairwise.nil
  refine (store.ascending_names otherBucket).eq_of_mem_iff ascending fun otherName => ?_
  rw [mem_names, only]
  by_cases sameBucket : bucket = otherBucket
  · by_cases sameName : name = otherName
    · simp [sameBucket, sameName]
    · simp [sameBucket, sameName, Ne.symm sameName]
  · simp [sameBucket]

theorem HoldsOnly.entries_eq {query : Query} (isItem : query.ListsItem name) (otherBucket : String) :
    store.entries otherBucket query.stem query.delimiter =
      if bucket = otherBucket then [.item name stored] else [] := by
  have few := store.length_entries_le otherBucket query.stem query.delimiter
  rw [only.names_eq] at few
  by_cases same : bucket = otherBucket
  · subst same
    rw [if_pos rfl] at few ⊢
    obtain ⟨before, behind, split, _⟩ := entries_split only.find?_self isItem
    rw [split, List.length_append, List.length_cons, List.length_singleton] at few
    have noneBefore : before = [] := List.length_eq_zero_iff.1 (by omega)
    have noneBehind : behind = [] := List.length_eq_zero_iff.1 (by omega)
    rw [split, noneBefore, noneBehind]
    rfl
  · rw [if_neg same] at few ⊢
    exact List.length_eq_zero_iff.1 (Nat.le_zero.1 few)

end HoldsOnly

end Store

namespace Atomic

section HoldsOnly

variable {store : Store} {bucket name : String} {stored : StoredObject} (only : store.HoldsOnly bucket name stored)
  (otherBucket : String)

include only

theorem stat_of_holdsOnly {otherName : String} (checked : checkSegmentName otherName = .ok ()) (fits : stored.Fits) :
    stat store otherBucket otherName =
      if bucket = otherBucket ∧ name = otherName then .ok (stored.toObject bucket name)
      else .error (missing otherBucket otherName) := by
  simp only [stat, checkName, checked, Except.mapError, bind, Except.bind]
  rw [only]
  by_cases same : bucket = otherBucket ∧ name = otherName
  · obtain ⟨rfl, rfl⟩ := same
    simp only [and_self, if_true, view_eq _ _ fits]
  · simp only [if_neg same]

theorem read_of_holdsOnly {otherName : String} (checked : checkSegmentName otherName = .ok ()) {generation : Int64}
    (wanted : generation = 0 ∨ generation.toInt = stored.generation) :
    read store otherBucket ⟨otherName, generation⟩ =
      if bucket = otherBucket ∧ name = otherName then .ok (.ofBytes stored.contents)
      else .error (missing otherBucket otherName) := by
  simp only [read, checkName, checked, Except.mapError, bind, Except.bind]
  rw [only]
  by_cases same : bucket = otherBucket ∧ name = otherName
  · simp only [if_pos same, if_pos wanted]
  · simp only [if_neg same]

theorem delete_of_holdsOnly {otherName : String} (checked : checkSegmentName otherName = .ok ()) :
    delete store otherBucket otherName =
      if bucket = otherBucket ∧ name = otherName then (.ok (), store.remove bucket name)
      else (.error (missing otherBucket otherName), store) := by
  simp only [delete, checkName, checked, Except.mapError]
  rw [only]
  by_cases same : bucket = otherBucket ∧ name = otherName
  · obtain ⟨rfl, rfl⟩ := same
    simp only [and_self, if_true]
  · simp only [if_neg same]

theorem update_of_holdsOnly {request : UpdateRequest} (checked : checkSegmentName request.name = .ok ())
    (now : Timestamp) (fits : (updated request stored now).Fits) :
    update store now otherBucket request =
      if bucket = otherBucket ∧ name = request.name then
        if applyField request.contentType stored.contentType = "" then
          (.error (refusal Status.badRequest "Required: contentType"), store)
        else (.ok ((updated request stored now).toObject bucket name),
          store.put bucket name (updated request stored now))
      else (.error (missing otherBucket request.name), store) := by
  simp only [update, checkName, checked, Except.mapError]
  rw [only]
  by_cases same : bucket = otherBucket ∧ name = request.name
  · rw [if_pos same, if_pos same, ← same.1, ← same.2, ← view_eq bucket name fits]
    rfl
  · simp only [if_neg same]

theorem list_of_holdsOnly {query : Query} (isItem : query.ListsItem name) (begins : query.cursor = "")
    (fits : stored.Fits) : list store otherBucket query =
      .finished (.ok ⟨if bucket = otherBucket then [stored.toObject bucket name] else [], [], none⟩) := by
  have entries := only.entries_eq isItem otherBucket
  have offset : query.offset = 0 := by
    rw [Query.offset, begins]
    rfl
  obtain ⟨positive, small⟩ := query.pageSize_bounds
  have inRange : query.offset + query.pageSize < Width.bound 64 := by
    have wide : Width.bound 64 = 2 ^ 64 := rfl
    omega
  have fit : ∀ other object, store.find? otherBucket other = some object → object.Fits := by
    intro other object found
    rw [only] at found
    split at found
    · cases found
      exact fits
    · cases found
  have short : (if bucket = otherBucket then [Store.Entry.item name stored] else []).length ≤ query.pageSize := by
    split
    · exact positive
    · exact Nat.zero_le _
  have shown : window store otherBucket query =
      if bucket = otherBucket then [Store.Entry.item name stored] else [] := by
    rw [window, entries, offset, List.drop_zero, List.take_of_length_le short]
  have isLast : following store otherBucket query = none := by
    rw [following, entries, offset, Nat.zero_add, if_neg (Nat.not_lt.2 short)]
  rw [list_of_fits fit inRange, shown, isLast]
  by_cases same : bucket = otherBucket
  · subst same
    simp only [if_true]
    rfl
  · simp only [if_neg same]
    rfl

end HoldsOnly

end Atomic

namespace Simulation

/-- Names identify objects. Over a service that holds what was created under one pair of names, each
operation finds it under that pair and under no other. -/
theorem names_identify_objects {bucket otherBucket : String} (isBucket : IsPlaceName bucket)
    (isOtherBucket : IsPlaceName otherBucket) (time : Timestamp) (happenings : List Happening)
    (few : requestCount happenings < Width.bound 63)
    (empty : ∀ anyBucket anyName, (after time happenings).store.find? anyBucket anyName = none)
    (request : CreateRequest) (isName : validateName request.attributes.name = .ok ())
    (isHeader : Headers.isValidValue (Bytes.ofText request.attributes.contentType) = true)
    (current : ∀ expected, request.precondition = some expected → expected = 0)
    {contents : Bytes} (complete : request.contents.collect = .ok contents)
    (small : contents.length < Width.bound 64) {otherName : String} (isOtherName : validateName otherName = .ok ()) :
    let name := request.attributes.name
    ∃ (stored : StoredObject) (created : Simulation),
      ((bucketConfig bucket).create request).run transport (after time happenings) =
        (.finished (.ok (stored.toObject bucket name)), created) ∧
      stored.contents = contents ∧
      created.store.HoldsOnly bucket name stored ∧
      ((bucketConfig otherBucket).stat otherName).run transport created =
        (.finished (if bucket = otherBucket ∧ name = otherName then .ok (stored.toObject bucket name)
          else .error (Atomic.missing otherBucket otherName)), created) ∧
      (∀ generation : Int64, generation = 0 ∨ generation.toInt = stored.generation →
        ((bucketConfig otherBucket).read ⟨otherName, generation⟩).run transport created =
          (.finished (if bucket = otherBucket ∧ name = otherName then .ok (.ofBytes contents)
            else .error (Atomic.missing otherBucket otherName)), created)) ∧
      (∃ later, ((bucketConfig otherBucket).delete otherName).run transport created =
          (.finished (if bucket = otherBucket ∧ name = otherName then .ok ()
            else .error (Atomic.missing otherBucket otherName)), later) ∧
        later.store.find? bucket name = if bucket = otherBucket ∧ name = otherName then none else some stored) ∧
      (∀ update : UpdateRequest, update.name = otherName →
        (((bucketConfig otherBucket).update update).run transport created).1 =
          .finished (if bucket = otherBucket ∧ name = otherName then
            if Atomic.applyField update.contentType stored.contentType = "" then
              .error (Atomic.refusal Status.badRequest "Required: contentType")
            else .ok ((Atomic.updated update stored created.clock.now).toObject bucket name)
          else .error (Atomic.missing otherBucket otherName))) ∧
      ∀ query : Query, query.ListsItem name → query.cursor = "" →
        ((bucketConfig otherBucket).list query).run transport created =
          (.finished (.ok ⟨if bucket = otherBucket then [stored.toObject bucket name] else [], [], none⟩), created) := by
  intro name
  have isValid := Atomic.checkCreate_of_valid isName isHeader
  have checked := checkSegmentName_of_validate isOtherName
  have isCurrent : ∀ expected, request.precondition = some expected →
      expected.toInt = (after time happenings).store.generationOf bucket request.attributes.name := by
    intro expected carried
    rw [current expected carried, Store.generationOf, empty]
    rfl
  obtain ⟨created, ran, _, objects⟩ := run_create_admitted isBucket isValid complete isCurrent
  have fits : (Atomic.newObject request.attributes contents (after time happenings).store.nextGeneration
      (after time happenings).clock.now).Fits := fits_newObject few _ small _
  rw [Atomic.view_eq _ _ fits] at ran
  have only : created.store.HoldsOnly bucket name (Atomic.newObject request.attributes contents
      (after time happenings).store.nextGeneration (after time happenings).clock.now) := by
    intro anyBucket anyName
    rw [Store.find?_congr objects, Store.find?_put, empty]
    simp only [eq_comm]
    rfl
  refine ⟨_, created, ran, rfl, only, ?_, fun generation wanted => ?_, ?_, fun update sameName => ?_,
    fun query isItem begins => ?_⟩
  · rw [run_stat isOtherBucket, Atomic.stat_of_holdsOnly only otherBucket checked fits]
  · rw [run_read isOtherBucket, Atomic.read_of_holdsOnly only otherBucket checked wanted]
    rfl
  · rw [run_delete isOtherBucket, Atomic.delete_of_holdsOnly only otherBucket checked]
    by_cases same : bucket = otherBucket ∧ name = otherName
    · simp only [if_pos same]
      exact ⟨_, rfl, by rw [Store.find?_remove, if_pos ⟨rfl, rfl⟩]⟩
    · simp only [if_neg same]
      exact ⟨_, rfl, only.find?_self⟩
  · subst sameName
    have two : 2 < Width.bound 63 := by decide
    have nextFits : (Atomic.updated update (Atomic.newObject request.attributes contents
        (after time happenings).store.nextGeneration (after time happenings).clock.now) created.clock.now).Fits :=
      ⟨small, fits.generation, two⟩
    rw [run_update isOtherBucket, Atomic.update_of_holdsOnly only otherBucket checked created.clock.now nextFits]
    dsimp only
    by_cases same : bucket = otherBucket ∧ name = update.name
    · rw [if_pos same, if_pos same]
      split <;> rfl
    · rw [if_neg same, if_neg same]
  · rw [run_list isOtherBucket, Atomic.list_of_holdsOnly only otherBucket isItem begins fits]

theorem names_identify_objects_with_escapes :
    let request : CreateRequest := ⟨{ name := "a%2Fb" }, [.bytes [0x07]], some 0⟩
    ∃ (stored : StoredObject) (created : Simulation),
      ((bucketConfig "photos").create request).run transport (after ⟨0, 0⟩ []) =
        (.finished (.ok (stored.toObject "photos" "a%2Fb")), created) ∧
      ((bucketConfig "photos").stat "a/b").run transport created =
        (.finished (.error (Atomic.missing "photos" "a/b")), created) ∧
      ((bucketConfig "photos").list {}).run transport created =
        (.finished (.ok ⟨[stored.toObject "photos" "a%2Fb"], [], none⟩), created) := by
  intro request
  have isBucket : IsPlaceName "photos" := ⟨by decide, by decide⟩
  have isName : validateName request.attributes.name = .ok () := by decide
  have isOtherName : validateName "a/b" = .ok () := by decide
  have current : ∀ expected, request.precondition = some expected → expected = 0 := by
    rintro expected ⟨⟩
    rfl
  have complete : request.contents.collect = .ok [0x07] := rfl
  obtain ⟨stored, created, ran, _, _, statted, _, _, _, listed⟩ := names_identify_objects isBucket isBucket ⟨0, 0⟩ []
    (by decide) (fun _ _ => rfl) request isName rfl current complete (by decide) isOtherName
  have differs : ¬("photos" = "photos" ∧ request.attributes.name = "a/b") := by decide
  rw [if_neg differs] at statted
  exact ⟨stored, created, ran, statted, listed {} ⟨_, rfl, Or.inl rfl⟩ rfl⟩

end Simulation

end ObjectStore
