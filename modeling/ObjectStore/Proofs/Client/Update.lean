import ObjectStore.Proofs.Atomic.Bucket
import ObjectStore.Proofs.Json.Tree

/-!
The body of an update is read as the members that it was written from, and patching an object with them
does to each field what the update says.
-/

namespace ObjectStore

open Json (Value)

/-! ### The body -/

theorem FieldUpdate.keys_entry (update : FieldUpdate) (name : String) :
    ((update.entry name).map Prod.fst).Sublist [name] := by
  cases update <;> simp [entry]

theorem FieldUpdate.isCanonical_entry (update : FieldUpdate) (name : String) (depth : Nat) :
    ∀ member ∈ update.entry name, member.2.IsCanonical depth := by
  intro member inEntry
  cases update with
  | keep => cases inEntry
  | clear =>
      rw [List.mem_singleton.1 inEntry]
      exact .null
  | set value =>
      rw [List.mem_singleton.1 inEntry]
      exact .string value

theorem isCanonical_metadataChange (changes : Dictionary (Option String)) (depth : Nat) :
    (metadataChange changes).IsCanonical (depth + 1) := by
  refine .object _ ?_ fun member inChanges => ?_
  · rw [Entries.Ascending, List.pairwise_map]
    exact changes.ascending
  · obtain ⟨change, _, rfl⟩ := List.mem_map.1 inChanges
    cases change.2 with
    | none => exact .null
    | some value => exact .string value

namespace UpdateRequest

def members (request : UpdateRequest) : List (String × Value) :=
  request.cacheControl.entry "cacheControl" ++
    (request.contentEncoding.entry "contentEncoding" ++
      (request.contentLanguage.entry "contentLanguage" ++
        (request.contentType.entry "contentType" ++
          (request.metadata.map fun changes => ("metadata", metadataChange changes)).toList)))

theorem patch_eq (request : UpdateRequest) : request.patch = .object request.members := by
  cases metadata : request.metadata <;> simp [patch, members, metadata]

theorem ascending_members (request : UpdateRequest) : Entries.Ascending request.members := by
  have names : (request.members.map Prod.fst).Sublist
      (["cacheControl"] ++ (["contentEncoding"] ++ (["contentLanguage"] ++ (["contentType"] ++ ["metadata"])))) := by
    have last : ((request.metadata.map fun changes => ("metadata", metadataChange changes)).toList.map
        Prod.fst).Sublist ["metadata"] := by
      cases request.metadata <;> simp
    simp only [members, List.map_append]
    exact (FieldUpdate.keys_entry _ _).append ((FieldUpdate.keys_entry _ _).append
      ((FieldUpdate.keys_entry _ _).append ((FieldUpdate.keys_entry _ _).append last)))
  have ordered : List.Pairwise (· < ·)
      (["cacheControl"] ++ (["contentEncoding"] ++ (["contentLanguage"] ++ (["contentType"] ++ ["metadata"])))) := by
    decide
  exact List.pairwise_map.1 (ordered.sublist names)

theorem isCanonical_members (request : UpdateRequest) :
    ∀ member ∈ request.members, member.2.IsCanonical 126 := by
  intro member inMembers
  simp only [members, List.mem_append] at inMembers
  rcases inMembers with inEntry | inEntry | inEntry | inEntry | inMetadata
  · exact FieldUpdate.isCanonical_entry _ _ _ member inEntry
  · exact FieldUpdate.isCanonical_entry _ _ _ member inEntry
  · exact FieldUpdate.isCanonical_entry _ _ _ member inEntry
  · exact FieldUpdate.isCanonical_entry _ _ _ member inEntry
  · obtain ⟨changes, _, rfl⟩ := Option.map_eq_some_iff.1 (Option.mem_toList.1 inMetadata)
    exact isCanonical_metadataChange changes 125

theorem parseObject_patch (request : UpdateRequest) :
    Json.parseObject (Bytes.ofText request.patch.compact) = .ok request.members := by
  rw [patch_eq]
  exact Json.parseObject_compact request.ascending_members request.isCanonical_members

end UpdateRequest

/-! ### Patching with it -/

namespace Store

theorem foldlM_entry (name : String) (get : StoredObject → String) (set : StoredObject → String → StoredObject)
    (changes : ∀ object value, changeField object (name, value) = (fieldValue name value).map (set object))
    (same : ∀ object, set object (get object) = object) (update : FieldUpdate) (object : StoredObject) :
    (update.entry name).foldlM changeField object = .ok (set object (Atomic.applyField update (get object))) := by
  cases update with
  | keep =>
      rw [Atomic.applyField, same]
      rfl
  | clear =>
      simp only [FieldUpdate.entry, List.foldlM_cons, List.foldlM_nil, changes]
      rfl
  | set value =>
      simp only [FieldUpdate.entry, List.foldlM_cons, List.foldlM_nil, changes]
      rfl

theorem foldlM_changeMetadata {write : String × Option String → String × Value}
    (clears : ∀ key, write (key, none) = (key, .null))
    (sets : ∀ key value, write (key, some value) = (key, .string value))
    (changes : List (String × Option String)) (metadata : Dictionary String) :
    (changes.map write).foldlM changeMetadata metadata = .ok (changes.foldl Atomic.applyChange metadata) := by
  induction changes generalizing metadata with
  | nil => rfl
  | cons change rest ih =>
      obtain ⟨key, value⟩ := change
      cases value with
      | none =>
          rw [List.map_cons, clears, List.foldlM_cons, List.foldl_cons]
          exact ih (metadata.erase key)
      | some value =>
          rw [List.map_cons, sets, List.foldlM_cons, List.foldl_cons]
          exact ih (metadata.insert key value)

theorem changeField_metadataChange (changes : Dictionary (Option String)) (object : StoredObject) :
    changeField object ("metadata", metadataChange changes) =
      .ok { object with metadata := changes.toList.foldl Atomic.applyChange object.metadata } := by
  change Except.map _ (List.foldlM changeMetadata object.metadata _) = _
  rw [foldlM_changeMetadata (fun _ => rfl) (fun _ _ => rfl)]
  rfl

theorem foldlM_members (request : UpdateRequest) (object : StoredObject) :
    request.members.foldlM changeField object = .ok (Atomic.applyUpdate request object) := by
  have cacheControl := foldlM_entry "cacheControl" (·.cacheControl)
    (fun object cacheControl => { object with cacheControl }) (fun _ _ => rfl) (fun _ => rfl)
  have contentEncoding := foldlM_entry "contentEncoding" (·.contentEncoding)
    (fun object contentEncoding => { object with contentEncoding }) (fun _ _ => rfl) (fun _ => rfl)
  have contentLanguage := foldlM_entry "contentLanguage" (·.contentLanguage)
    (fun object contentLanguage => { object with contentLanguage }) (fun _ _ => rfl) (fun _ => rfl)
  have contentType := foldlM_entry "contentType" (·.contentType)
    (fun object contentType => { object with contentType }) (fun _ _ => rfl) (fun _ => rfl)
  simp only [UpdateRequest.members, List.foldlM_append, cacheControl, contentEncoding, contentLanguage, contentType,
    bind, Except.bind]
  cases metadata : request.metadata with
  | none =>
      simp only [Atomic.applyUpdate, metadata]
      rfl
  | some changes =>
      simp only [Option.map_some, Option.toList_some, List.foldlM_cons, List.foldlM_nil, changeField_metadataChange,
        Atomic.applyUpdate, metadata]
      rfl

theorem patchObject_members (request : UpdateRequest) (object : StoredObject) (now : Timestamp) :
    patchObject object request.members now =
      if (Atomic.applyUpdate request object).contentType = "" then .error .noContentType
      else .ok { Atomic.applyUpdate request object with
        metageneration := (Atomic.applyUpdate request object).metageneration + 1, updated := now } := by
  simp only [patchObject, foldlM_members, bind, Except.bind]
  split <;> rfl

end Store

end ObjectStore
