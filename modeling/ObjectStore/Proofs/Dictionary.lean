import Mathlib.Data.List.Induction
import Mathlib.Data.List.Sort
import ObjectStore.Dictionary

/-!
Entries that come in ascending order stay as they came, so that what is found under each key is all there is to
know of a dictionary.
-/

namespace ObjectStore

namespace Entries

variable {α : Type}

theorem insert_last {key : String} {entries : List (String × α)} (below : ∀ entry ∈ entries, entry.1 < key)
    (value : α) : insert key value entries = entries ++ [(key, value)] := by
  induction entries with
  | nil => rfl
  | cons first rest ih =>
      obtain ⟨firstKey, old⟩ := first
      have lower : firstKey < key := below (firstKey, old) (by simp)
      have notBelow : ¬key < firstKey := fun upper => String.lt_irrefl _ (String.lt_trans lower upper)
      have differs : key ≠ firstKey := by
        rintro rfl
        exact String.lt_irrefl _ lower
      rw [insert, if_neg notBelow, if_neg differs, ih fun entry member => below entry (by simp [member])]
      rfl

theorem foldl_insert {before entries : List (String × α)} (ascending : Ascending (before ++ entries)) :
    entries.foldl (fun found entry => insert entry.1 entry.2 found) before = before ++ entries := by
  induction entries generalizing before with
  | nil => simp
  | cons entry rest ih =>
      have below : ∀ other ∈ before, other.1 < entry.1 := by
        intro other member
        exact (List.pairwise_append.1 ascending).2.2 other member entry (by simp)
      rw [List.foldl_cons, insert_last below, ih (by simpa using ascending)]
      simp

theorem foldl_insert_nil {entries : List (String × α)} (ascending : Ascending entries) :
    entries.foldl (fun found entry => insert entry.1 entry.2 found) [] = entries := by
  have fromNone : Ascending ([] ++ entries) := ascending
  exact foldl_insert fromNone

theorem lookup_split {key : String} {value : α} {entries : List (String × α)}
    (found : entries.lookup key = some value) (ascending : Ascending entries) :
    ∃ before behind, entries = before ++ (key, value) :: behind ∧
      (∀ entry ∈ before, entry.1 < key) ∧ ∀ entry ∈ behind, key < entry.1 := by
  induction entries with
  | nil => cases found
  | cons first rest ih =>
      obtain ⟨firstKey, old⟩ := first
      obtain ⟨firstBelow, restAscending⟩ := List.pairwise_cons.1 ascending
      rw [lookup_cons] at found
      split at found
      · rename_i same
        cases found
        subst same
        exact ⟨[], rest, rfl, fun _ member => absurd member List.not_mem_nil, firstBelow⟩
      · obtain ⟨before, behind, split, below, above⟩ := ih found restAscending
        refine ⟨(firstKey, old) :: before, behind, by rw [split]; rfl, fun entry member => ?_, above⟩
        rcases List.mem_cons.1 member with rfl | inBefore
        · exact firstBelow (key, value) (by simp [split])
        · exact below entry inBefore

end Entries

namespace Dictionary

variable {α : Type}

theorem ext_entries {left right : Dictionary α} (same : left.entries = right.entries) : left = right := by
  cases left
  cases right
  cases same
  rfl

theorem eq_empty_of_isEmpty {dictionary : Dictionary α} (isEmpty : dictionary.isEmpty = true) : dictionary = ∅ :=
  ext_entries (List.isEmpty_iff.1 isEmpty)

theorem entries_foldl_insert (entries : List (String × α)) (dictionary : Dictionary α) :
    (entries.foldl (fun found entry => found.insert entry.1 entry.2) dictionary).entries =
      entries.foldl (fun found entry => Entries.insert entry.1 entry.2 found) dictionary.entries := by
  induction entries generalizing dictionary with
  | nil => rfl
  | cons entry rest ih => exact ih (dictionary.insert entry.1 entry.2)

@[simp] theorem ofList_toList (dictionary : Dictionary α) : ofList dictionary.toList = dictionary := by
  apply ext_entries
  rw [ofList, entries_foldl_insert]
  exact Entries.foldl_insert_nil dictionary.ascending

theorem get?_ofList (entries : List (String × α)) (key : String) :
    (ofList entries).get? key = entries.reverse.lookup key := by
  induction entries using List.reverseRecOn with
  | nil => rfl
  | append_singleton before entry ih =>
      rw [ofList] at ih ⊢
      rw [List.foldl_append, List.foldl_cons, List.foldl_nil, get?_insert, ih, List.reverse_append,
        List.reverse_singleton, List.singleton_append, Entries.lookup_cons]

theorem mem_toList_iff {dictionary : Dictionary α} {key : String} {value : α} :
    (key, value) ∈ dictionary.toList ↔ dictionary.get? key = some value := by
  constructor
  · intro member
    have ascending := dictionary.ascending
    rw [toList] at member
    rw [get?]
    generalize dictionary.entries = entries at member ascending
    induction entries with
    | nil => cases member
    | cons first rest ih =>
        obtain ⟨firstKey, old⟩ := first
        obtain ⟨firstBelow, restAscending⟩ := List.pairwise_cons.1 ascending
        rw [Entries.lookup_cons]
        rcases List.mem_cons.1 member with same | inRest
        · cases same
          rw [if_pos rfl]
        · have below : firstKey < key := firstBelow (key, value) inRest
          have differs : key ≠ firstKey := by
            rintro rfl
            exact String.lt_irrefl _ below
          rw [if_neg differs, ih inRest restAscending]
  · intro found
    obtain ⟨before, behind, split, _⟩ := Entries.lookup_split found dictionary.ascending
    rw [toList, split]
    simp

theorem ext_get? {left right : Dictionary α} (same : ∀ key, left.get? key = right.get? key) : left = right := by
  let below : String × α → String × α → Prop := fun one other => one.1 < other.1
  have irreflexive : Std.Irrefl below := ⟨fun entry => String.lt_irrefl entry.1⟩
  have antisymmetric : Std.Antisymm below :=
    ⟨fun one other lower upper => absurd (String.lt_trans lower upper) (String.lt_irrefl one.1)⟩
  apply ext_entries
  refine List.Pairwise.eq_of_mem_iff left.ascending right.ascending fun entry => ?_
  have member : entry ∈ left.toList ↔ entry ∈ right.toList := by
    rw [mem_toList_iff, mem_toList_iff, same]
  exact member

end Dictionary

end ObjectStore
