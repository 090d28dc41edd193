import ObjectStore.CommandLine.Metadata
import ObjectStore.Proofs.Atomic.Updates
import ObjectStore.Proofs.Reading

/-!
Metadata arguments are edits: each sets or removes one key, the last edit of a key decides, and of bad arguments the
first is told of.
-/

namespace ObjectStore

/-! ### Arguments -/

namespace CommandLine

def Edits (argument key value : String) : Prop :=
  '=' ∉ key.toList ∧ argument = key ++ "=" ++ value

def IsMalformed (argument : String) : Prop :=
  '=' ∉ argument.toList ∨ argument.toList.head? = some '='

def malformed (argument : String) : Failure :=
  if '=' ∈ argument.toList then .metadataWithoutKey argument else .metadataWithoutValue argument

def editedValue (value : String) : Option String :=
  if value = "" then none else some value

theorem metadataEntry_of_edits {argument key value : String} (edits : Edits argument key value) :
    metadataEntry argument =
      if key = "" then .error (.metadataWithoutKey argument) else .ok (key, editedValue value) := by
  obtain ⟨noSign, rfl⟩ := edits
  have before : ∀ character ∈ key.toList, (character != '=') = true := by
    intro character member
    simp only [bne_iff_ne]
    rintro rfl
    exact noSign member
  have characters : (key ++ "=" ++ value).toList = key.toList ++ '=' :: value.toList := by simp
  have behind : (key.toList ++ '=' :: value.toList).dropWhile (· != '=') = '=' :: value.toList := by
    rw [List.dropWhile_append_of_pos before]
    rfl
  have inFront : (key.toList ++ '=' :: value.toList).takeWhile (· != '=') = key.toList := by
    rw [List.takeWhile_append_of_pos before]
    exact List.append_nil _
  simp only [metadataEntry, characters, behind, inFront, List.isEmpty_iff, String.toList_eq_nil_iff,
    String.ofList_toList, editedValue]

theorem metadataEntry_of_absent {argument : String} (absent : '=' ∉ argument.toList) :
    metadataEntry argument = .error (.metadataWithoutValue argument) := by
  have exhausted : argument.toList.dropWhile (· != '=') = [] := by
    apply List.dropWhile_eq_nil_iff.2
    intro character member
    simp only [bne_iff_ne]
    rintro rfl
    exact absent member
  simp only [metadataEntry, exhausted]

theorem exists_edits {argument : String} (present : '=' ∈ argument.toList) : ∃ key value, Edits argument key value := by
  obtain ⟨key, value, split, noSign⟩ := List.eq_append_cons_of_mem present
  refine ⟨String.ofList key, String.ofList value, by simpa using noSign, ?_⟩
  apply String.toList_inj.1
  simp [split]

theorem isMalformed_iff_of_edits {argument key value : String} (edits : Edits argument key value) :
    IsMalformed argument ↔ key = "" := by
  obtain ⟨noSign, rfl⟩ := edits
  rw [← String.toList_eq_nil_iff]
  cases characters : key.toList with
  | nil => simp [IsMalformed, characters]
  | cons first rest =>
      have differs : first ≠ '=' := by
        rintro rfl
        simp [characters] at noSign
      simp [IsMalformed, characters, differs]

theorem metadataEntry_of_malformed {argument : String} (bad : IsMalformed argument) :
    metadataEntry argument = .error (malformed argument) := by
  by_cases present : '=' ∈ argument.toList
  · obtain ⟨key, value, edits⟩ := exists_edits present
    rw [metadataEntry_of_edits edits, if_pos ((isMalformed_iff_of_edits edits).1 bad), malformed, if_pos present]
  · rw [metadataEntry_of_absent present, malformed, if_neg present]

theorem metadataEntry_of_wellFormed {argument : String} (good : ¬IsMalformed argument) :
    ∃ key value, Edits argument key value ∧ metadataEntry argument = .ok (key, editedValue value) := by
  have present : '=' ∈ argument.toList := by
    by_contra absent
    exact good (Or.inl absent)
  obtain ⟨key, value, edits⟩ := exists_edits present
  refine ⟨key, value, edits, ?_⟩
  rw [metadataEntry_of_edits edits, if_neg fun isEmpty => good ((isMalformed_iff_of_edits edits).2 isEmpty)]

theorem exists_metadataEntry_iff {argument : String} :
    (∃ entry, metadataEntry argument = .ok entry) ↔ ¬IsMalformed argument := by
  constructor
  · rintro ⟨entry, read⟩ bad
    rw [metadataEntry_of_malformed bad] at read
    cases read
  · intro good
    obtain ⟨key, value, _, read⟩ := metadataEntry_of_wellFormed good
    exact ⟨_, read⟩

/-! ### Lists of arguments -/

variable {arguments : List String}

theorem metadataChanges_eq_error_iff {failure : Failure} :
    metadataChanges arguments = .error failure ↔ ∃ before bad behind, arguments = before ++ bad :: behind ∧
      (∀ argument ∈ before, ¬IsMalformed argument) ∧ IsMalformed bad ∧ failure = malformed bad := by
  have reported : metadataChanges arguments = .error failure ↔ arguments.mapM metadataEntry = .error failure := by
    cases arguments with
    | nil => simp [metadataChanges, pure, Except.pure]
    | cons first rest => exact map_eq_error_iff _
  rw [reported, mapM_eq_error_iff]
  simp only [exists_metadataEntry_iff]
  constructor
  · rintro ⟨before, bad, behind, split, good, failed⟩
    have isBad : IsMalformed bad := by
      by_contra isGood
      obtain ⟨entry, read⟩ := exists_metadataEntry_iff.2 isGood
      rw [failed] at read
      cases read
    rw [metadataEntry_of_malformed isBad] at failed
    cases failed
    exact ⟨before, bad, behind, split, good, isBad, rfl⟩
  · rintro ⟨before, bad, behind, split, good, isBad, rfl⟩
    exact ⟨before, bad, behind, split, good, metadataEntry_of_malformed isBad⟩

theorem metadataChanges_eq_ok_iff (notEmpty : arguments ≠ []) {changes : Option (Dictionary (Option String))} :
    metadataChanges arguments = .ok changes ↔
      ∃ entries, arguments.mapM metadataEntry = .ok entries ∧ changes = some (.ofList entries) := by
  have isEmpty : arguments.isEmpty = false := by
    simpa using notEmpty
  cases read : arguments.mapM metadataEntry with
  | error failure => simp [metadataChanges, isEmpty, read, Except.map]
  | ok entries => simp [metadataChanges, isEmpty, read, Except.map, eq_comm]

theorem exists_failure_iff :
    (∃ failure, metadataChanges arguments = .error failure) ↔ ∃ argument ∈ arguments, IsMalformed argument := by
  constructor
  · rintro ⟨failure, failed⟩
    obtain ⟨before, bad, behind, rfl, _, isBad, _⟩ := metadataChanges_eq_error_iff.1 failed
    exact ⟨bad, by simp, isBad⟩
  · rintro ⟨bad, member, isBad⟩
    cases read : metadataChanges arguments with
    | error failure => exact ⟨failure, rfl⟩
    | ok changes =>
        obtain ⟨entries, areRead, _⟩ := (metadataChanges_eq_ok_iff (List.ne_nil_of_mem member)).1 read
        exact absurd isBad (exists_metadataEntry_iff.1 (exists_mapM_iff.1 ⟨entries, areRead⟩ bad member))

/-! ### What edits do to metadata -/

/-- The last edit of a key decides, and a key without one stays. -/
structure EditedBy (arguments : List String) (old new : Dictionary String) : Prop where
  last : ∀ before argument behind key value, arguments = before ++ argument :: behind → Edits argument key value →
    (∀ later ∈ behind, ∀ other, ¬Edits later key other) → new.get? key = editedValue value
  untouched : ∀ key, (∀ argument ∈ arguments, ∀ value, ¬Edits argument key value) → new.get? key = old.get? key

end CommandLine

namespace Atomic

theorem get?_foldl_applyChange_lookup (changes : List (String × Option String)) (metadata : Dictionary String)
    (key : String) :
    (changes.foldl applyChange metadata).get? key = (changes.reverse.lookup key).getD (metadata.get? key) := by
  induction changes using List.reverseRecOn with
  | nil => rfl
  | append_singleton before change ih =>
      rw [List.foldl_append, List.foldl_cons, List.foldl_nil, get?_applyChange, ih, List.reverse_append,
        List.reverse_singleton, List.singleton_append, Entries.lookup_cons]
      split <;> rfl

/-- Nothing is lost where a later change of a key takes the place of an earlier one. -/
theorem foldl_applyChange_ofList (changes : List (String × Option String)) (metadata : Dictionary String) :
    (Dictionary.ofList changes).toList.foldl applyChange metadata = changes.foldl applyChange metadata := by
  apply Dictionary.ext_get?
  intro key
  have ascending : Entries.Ascending (Dictionary.ofList changes).toList := (Dictionary.ofList changes).ascending
  have found : (Dictionary.ofList changes).toList.lookup key = changes.reverse.lookup key :=
    Dictionary.get?_ofList changes key
  rw [get?_foldl_applyChange ascending, found, get?_foldl_applyChange_lookup]

end Atomic

namespace CommandLine

theorem editedBy_foldl {arguments : List String} {entries : List (String × Option String)}
    (read : arguments.mapM metadataEntry = .ok entries) (old : Dictionary String) :
    EditedBy arguments old (entries.foldl Atomic.applyChange old) := by
  replace read := mapM_eq_ok_iff.1 read
  induction read generalizing old with
  | nil => exact ⟨fun before argument behind key value split => by simp at split, fun key _ => rfl⟩
  | @cons first entry rest others isFirst _ ih =>
      obtain ⟨changed, change⟩ := entry
      have rests := ih (Atomic.applyChange old (changed, change))
      have means {key value : String} (edits : Edits first key value) : changed = key ∧ change = editedValue value := by
        rw [metadataEntry_of_edits edits] at isFirst
        split at isFirst
        · cases isFirst
        · cases isFirst
          exact ⟨rfl, rfl⟩
      constructor
      case last =>
        intro before argument behind key value split edits isLast
        cases before with
        | nil =>
            cases split
            obtain ⟨rfl, rfl⟩ := means edits
            rw [List.foldl_cons, rests.untouched changed isLast, Atomic.get?_applyChange, if_pos rfl]
        | cons other before =>
            cases split
            exact rests.last before argument behind key value rfl edits isLast
      case untouched =>
        intro key unnamed
        obtain ⟨byFirst, byRest⟩ := List.forall_mem_cons.1 unnamed
        have differs : key ≠ changed := by
          rintro rfl
          have good := exists_metadataEntry_iff.1 ⟨_, isFirst⟩
          obtain ⟨name, value, edits, _⟩ := metadataEntry_of_wellFormed good
          rw [← (means edits).1] at edits
          exact byFirst value edits
        rw [List.foldl_cons, rests.untouched key byRest, Atomic.get?_applyChange, if_neg differs]

end CommandLine

end ObjectStore
