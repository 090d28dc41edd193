/-!
Finite maps from text, kept in ascending order of their keys. Two dictionaries with the same entries
are equal, and listing one needs no sorting.
-/

namespace ObjectStore

namespace Entries

variable {α : Type}

def insert (key : String) (value : α) : List (String × α) → List (String × α)
  | [] => [(key, value)]
  | (first, old) :: rest =>
      if key < first then (key, value) :: (first, old) :: rest
      else if key = first then (key, value) :: rest
      else (first, old) :: insert key value rest

def Ascending (entries : List (String × α)) : Prop :=
  entries.Pairwise fun left right => left.1 < right.1

theorem mem_insert {key : String} {value : α} {entries : List (String × α)} {entry : String × α}
    (member : entry ∈ insert key value entries) : entry = (key, value) ∨ entry ∈ entries := by
  induction entries with
  | nil => simpa [insert] using member
  | cons first rest ih =>
      obtain ⟨firstKey, old⟩ := first
      unfold insert at member
      split at member
      · simpa using member
      · split at member
        · rcases List.mem_cons.1 member with same | inRest
          · exact Or.inl same
          · exact Or.inr (List.mem_cons_of_mem _ inRest)
        · rcases List.mem_cons.1 member with same | inRest
          · exact Or.inr (by simp [same])
          · rcases ih inRest with same | inRest
            · exact Or.inl same
            · exact Or.inr (List.mem_cons_of_mem _ inRest)

theorem lt_of_not_lt_of_ne {left right : String} (notBelow : ¬left < right) (differs : left ≠ right) :
    right < left := by
  apply String.not_le.1
  intro below
  exact differs (String.le_antisymm below (by
    apply Classical.byContradiction
    intro above
    exact notBelow (String.not_le.1 above)))

theorem Ascending.insert {entries : List (String × α)} (ascending : Ascending entries)
    (key : String) (value : α) : Ascending (Entries.insert key value entries) := by
  induction entries with
  | nil => simp [Entries.insert, Ascending]
  | cons first rest ih =>
      obtain ⟨firstKey, old⟩ := first
      obtain ⟨firstBelow, restAscending⟩ := List.pairwise_cons.1 ascending
      unfold Entries.insert
      split
      · rename_i keyBelow
        refine List.pairwise_cons.2 ⟨fun entry member => ?_, ascending⟩
        rcases List.mem_cons.1 member with same | inRest
        · simpa [same] using keyBelow
        · exact String.lt_trans keyBelow (firstBelow entry inRest)
      · split
        · rename_i same
          subst same
          exact List.pairwise_cons.2 ⟨firstBelow, restAscending⟩
        · rename_i notBelow differs
          refine List.pairwise_cons.2 ⟨fun entry member => ?_, ih restAscending⟩
          rcases mem_insert member with same | inRest
          · simpa [same] using lt_of_not_lt_of_ne notBelow differs
          · exact firstBelow entry inRest

theorem lookup_cons (query key : String) (value : α) (rest : List (String × α)) :
    ((key, value) :: rest).lookup query = if query = key then some value else rest.lookup query := by
  by_cases same : query = key
  · simp [same]
  · simp [List.lookup_cons, beq_false_of_ne same, same]

theorem lookup_insert (key query : String) (value : α) (entries : List (String × α)) :
    (insert key value entries).lookup query = if query = key then some value else entries.lookup query := by
  induction entries with
  | nil => exact lookup_cons query key value []
  | cons first rest ih =>
      obtain ⟨firstKey, old⟩ := first
      unfold insert
      split
      · rw [lookup_cons]
      · split
        · rename_i same
          subst same
          simp only [lookup_cons]
          split <;> rfl
        · rename_i differs
          simp only [lookup_cons, ih]
          split
          · rename_i found
            rw [if_neg fun same => differs (same.symm.trans found)]
          · rfl

theorem lookup_filter_ne (key query : String) (entries : List (String × α)) :
    (entries.filter fun entry => entry.1 != key).lookup query =
      if query = key then none else entries.lookup query := by
  induction entries with
  | nil => simp
  | cons first rest ih =>
      obtain ⟨firstKey, old⟩ := first
      by_cases same : firstKey = key
      · subst same
        simp only [List.filter_cons, bne_self_eq_false, Bool.false_eq_true, if_false, ih, lookup_cons]
        split <;> rfl
      · simp only [List.filter_cons, bne_iff_ne.mpr same, if_true, lookup_cons, ih]
        split
        · rename_i found
          rw [if_neg fun equal => same (found.symm.trans equal)]
        · rfl

end Entries

structure Dictionary (α : Type) where
  entries : List (String × α)
  ascending : Entries.Ascending entries

namespace Dictionary

variable {α β : Type}

instance [DecidableEq α] : DecidableEq (Dictionary α) := fun left right =>
  if same : left.entries = right.entries then isTrue (by cases left; cases right; simp_all)
  else isFalse fun equal => same (by rw [equal])

instance [Repr α] : Repr (Dictionary α) := ⟨fun dictionary => reprPrec dictionary.entries⟩

def empty : Dictionary α :=
  ⟨[], List.Pairwise.nil⟩

instance : EmptyCollection (Dictionary α) := ⟨empty⟩

instance : Inhabited (Dictionary α) := ⟨empty⟩

def isEmpty (dictionary : Dictionary α) : Bool :=
  dictionary.entries.isEmpty

def get? (dictionary : Dictionary α) (key : String) : Option α :=
  dictionary.entries.lookup key

def insert (dictionary : Dictionary α) (key : String) (value : α) : Dictionary α :=
  ⟨Entries.insert key value dictionary.entries, dictionary.ascending.insert key value⟩

def erase (dictionary : Dictionary α) (key : String) : Dictionary α :=
  ⟨dictionary.entries.filter fun entry => entry.1 != key, dictionary.ascending.filter _⟩

def ofList (entries : List (String × α)) : Dictionary α :=
  entries.foldl (fun dictionary entry => dictionary.insert entry.1 entry.2) empty

def toList (dictionary : Dictionary α) : List (String × α) :=
  dictionary.entries

def map (dictionary : Dictionary α) (change : α → β) : Dictionary β :=
  ⟨dictionary.entries.map fun entry => (entry.1, change entry.2), by
    simpa [Entries.Ascending, List.pairwise_map] using dictionary.ascending⟩

@[simp] theorem get?_insert (dictionary : Dictionary α) (key query : String) (value : α) :
    (dictionary.insert key value).get? query = if query = key then some value else dictionary.get? query :=
  Entries.lookup_insert key query value dictionary.entries

@[simp] theorem get?_erase (dictionary : Dictionary α) (key query : String) :
    (dictionary.erase key).get? query = if query = key then none else dictionary.get? query :=
  Entries.lookup_filter_ne key query dictionary.entries

end Dictionary

end ObjectStore
