import ObjectStore.Proofs.Atomic.Updates

/-!
What the body of an update says about the update. A text is absent, null or given, and so is a metadata key; read
by the convention of optional texts a body gives back the update that it was made for, but for a text that is set to
nothing: it is sent as an empty string, which by that convention clears it.
-/

namespace ObjectStore

open Json (Value)

/-! ### Reading a body -/

def TextField.key : TextField → String
  | .contentType => "contentType"
  | .contentEncoding => "contentEncoding"
  | .contentLanguage => "contentLanguage"
  | .cacheControl => "cacheControl"

def FieldUpdate.ofValue? : Option Value → Option FieldUpdate
  | none => some .keep
  | some .null => some .clear
  | some (.string value) => some (.ofText value)
  | some _ => none

def metadataDelta? (member : String × Value) : Option (String × Option String) :=
  match member.2 with
  | .null => some (member.1, none)
  | .string value => some (member.1, some value)
  | _ => none

def metadataDeltas? : Option Value → Option (Option (Dictionary (Option String)))
  | none => some none
  | some (.object members) => (members.mapM metadataDelta?).map fun deltas => some (.ofList deltas)
  | some _ => none

/-! ### What was written -/

namespace FieldUpdate

def value? : FieldUpdate → Option Value
  | .keep => none
  | .clear => some .null
  | .set value => some (.string value)

theorem lookup_entry (update : FieldUpdate) (name key : String) :
    (update.entry name).lookup key = if key = name then update.value? else none := by
  cases update with
  | keep => simp [entry, value?]
  | clear => exact Entries.lookup_cons key name Value.null []
  | set value => exact Entries.lookup_cons key name (Value.string value) []

theorem ofValue?_value? (update : FieldUpdate) :
    ofValue? update.value? = some (if update = .set "" then .clear else update) := by
  cases update with
  | keep | clear => rfl
  | set value =>
      by_cases isEmpty : value = ""
      · subst isEmpty
        rfl
      · simp [value?, ofValue?, ofText, ofOption, isEmpty]

theorem ofValue?_value?_eq_iff (update : FieldUpdate) : ofValue? update.value? = some update ↔ update ≠ .set "" := by
  rw [ofValue?_value?]
  by_cases isEmpty : update = .set ""
  · simp [isEmpty]
  · simp [isEmpty]

theorem value?_eq_string_iff (update : FieldUpdate) (value : String) :
    update.value? = some (.string value) ↔ update = .set value := by
  cases update <;> simp [value?]

end FieldUpdate

theorem mapM_metadataDelta? {write : String × Option String → String × Value}
    (clears : ∀ key, write (key, none) = (key, .null))
    (sets : ∀ key value, write (key, some value) = (key, .string value)) (deltas : List (String × Option String)) :
    (deltas.map write).mapM metadataDelta? = some deltas := by
  induction deltas with
  | nil => rfl
  | cons delta rest ih =>
      obtain ⟨key, value⟩ := delta
      cases value with
      | none => simp [clears, metadataDelta?, ih]
      | some value => simp [sets, metadataDelta?, ih]

theorem metadataDeltas?_metadataChange (changes : Dictionary (Option String)) :
    metadataDeltas? (some (metadataChange changes)) = some (some changes) := by
  rw [metadataChange, metadataDeltas?, mapM_metadataDelta? (fun _ => rfl) (fun _ _ => rfl), Option.map_some,
    Dictionary.ofList_toList]

namespace UpdateRequest

variable (request : UpdateRequest)

theorem lookup_text (field : TextField) : request.members.lookup field.key = (request.text field).value? := by
  have notMetadata : ((request.metadata.map fun changes => ("metadata", metadataChange changes)).toList).lookup
      field.key = none := by
    cases request.metadata with
    | none => rfl
    | some changes => cases field <;> rfl
  simp only [members, List.lookup_append, FieldUpdate.lookup_entry, notMetadata]
  cases field <;> simp [TextField.key, text]

theorem lookup_metadata : request.members.lookup "metadata" = request.metadata.map metadataChange := by
  have last : ((request.metadata.map fun changes => ("metadata", metadataChange changes)).toList).lookup "metadata" =
      request.metadata.map metadataChange := by
    cases request.metadata <;> rfl
  simp [members, List.lookup_append, FieldUpdate.lookup_entry, last]

theorem key_of_mem_members {member : String × Value} (inMembers : member ∈ request.members) :
    member.1 = "metadata" ∨ ∃ field : TextField, member.1 = field.key := by
  have named {update : FieldUpdate} {name : String} (inEntry : member ∈ update.entry name) : member.1 = name :=
    List.mem_singleton.1 ((update.keys_entry name).subset (List.mem_map_of_mem inEntry))
  simp only [members, List.mem_append] at inMembers
  rcases inMembers with inEntry | inEntry | inEntry | inEntry | inMetadata
  · exact Or.inr ⟨.cacheControl, named inEntry⟩
  · exact Or.inr ⟨.contentEncoding, named inEntry⟩
  · exact Or.inr ⟨.contentLanguage, named inEntry⟩
  · exact Or.inr ⟨.contentType, named inEntry⟩
  · obtain ⟨changes, _, rfl⟩ := Option.map_eq_some_iff.1 (Option.mem_toList.1 inMetadata)
    exact Or.inl rfl

theorem nodup_keys : (request.members.map Prod.fst).Nodup := by
  refine List.Pairwise.imp ?_ (List.pairwise_map.2 request.ascending_members)
  intro left right below same
  subst same
  exact String.lt_irrefl _ below

/-- The metadata is read back from every body, and a text unless it is set to nothing. Such a text, and no other, is
sent as an empty string. -/
theorem patch_tells_update_iff :
    ∃ members, request.patch = .object members ∧
      Json.parseObject (Bytes.ofText request.patch.compact) = .ok members ∧
      (members.map Prod.fst).Nodup ∧
      (∀ member ∈ members, member.1 = "metadata" ∨ ∃ field : TextField, member.1 = field.key) ∧
      metadataDeltas? (members.lookup "metadata") = some request.metadata ∧
      ∀ field : TextField,
        (FieldUpdate.ofValue? (members.lookup field.key) = some (request.text field) ↔ request.text field ≠ .set "") ∧
        (members.lookup field.key = some (.string "") ↔ request.text field = .set "") := by
  refine ⟨request.members, request.patch_eq, request.parseObject_patch, request.nodup_keys,
    fun member => request.key_of_mem_members, ?metadata, ?texts⟩
  case metadata =>
    rw [lookup_metadata]
    cases request.metadata with
    | none => rfl
    | some changes => exact metadataDeltas?_metadataChange changes
  case texts =>
    intro field
    rw [lookup_text]
    exact ⟨FieldUpdate.ofValue?_value?_eq_iff _, FieldUpdate.value?_eq_string_iff _ ""⟩

end UpdateRequest

end ObjectStore
