import Mathlib.Data.List.Sort
import ObjectStore.Client.Request
import ObjectStore.Proofs.Dictionary
import ObjectStore.Proofs.Simulation.Version

/-!
Listings of a bucket. A name that is listed as it is has one place among the entries, and that place
depends on nothing but the names before it.
-/

namespace ObjectStore

/-! ### Queries -/

/-- The name begins as the query asks, and the delimiter does not occur in what follows. -/
def Query.ListsItem (query : Query) (name : String) : Prop :=
  ∃ rest, name.toList = query.stem.toList ++ rest ∧
    (query.delimiter = "" ∨ ¬query.delimiter.toList <:+: rest)

namespace Store

theorem dropStem?_eq_some {stem text rest : List Char} : dropStem? stem text = some rest ↔ text = stem ++ rest := by
  induction stem generalizing text with
  | nil => simp [dropStem?, eq_comm]
  | cons expected stem ih =>
      cases text with
      | nil => simp [dropStem?]
      | cons character text =>
          by_cases same : expected = character
          · simp [dropStem?, same, ih]
          · simp [dropStem?, same, Ne.symm same]

theorem isSome_dropStem? {stem text : List Char} : (dropStem? stem text).isSome = true ↔ stem <+: text := by
  rw [Option.isSome_iff_exists]
  constructor
  · rintro ⟨rest, dropped⟩
    exact ⟨rest, (dropStem?_eq_some.1 dropped).symm⟩
  · rintro ⟨rest, joined⟩
    exact ⟨rest, dropStem?_eq_some.2 joined.symm⟩

theorem throughDelimiter?_eq_none {delimiter text : List Char} :
    throughDelimiter? delimiter text = none ↔ ¬delimiter <:+: text := by
  induction text with
  | nil => simp [throughDelimiter?]
  | cons character rest ih =>
      rw [throughDelimiter?, List.infix_cons_iff, not_or, ← isSome_dropStem?, ← ih]
      by_cases here : (dropStem? delimiter (character :: rest)).isSome = true
      · simp [here]
      · simp [here]

def entryOf? (query : Query) (named : String × StoredObject) : Option Entry :=
  entry? query.stem query.delimiter named.1 named.2

theorem entryOf?_of_listsItem {query : Query} {name : String} (listed : query.ListsItem name) (object : StoredObject) :
    entryOf? query (name, object) = some (.item name object) := by
  obtain ⟨rest, joined, apart⟩ := listed
  simp only [entryOf?, entry?, dropStem?_eq_some.2 joined]
  by_cases isEmpty : query.delimiter = ""
  · rw [if_pos isEmpty]
  · rw [if_neg isEmpty, throughDelimiter?_eq_none.2 (apart.resolve_left isEmpty)]

/-! ### Entries in a row -/

def Entry.name? : Entry → Option String
  | .item name _ => some name
  | .group _ => none

theorem name?_of_entryOf? {query : Query} {named : String × StoredObject} {entry : Entry} {listed : String}
    (found : entryOf? query named = some entry) (isName : entry.name? = some listed) : listed = named.1 := by
  unfold entryOf? entry? at found
  split at found
  · cases found
  · split at found
    · cases found
      exact (Option.some.inj isName).symm
    · split at found
      · cases found
        cases isName
      · cases found
        exact (Option.some.inj isName).symm

theorem names_withoutRepeats (last : Option String) (all : List Entry) :
    (withoutRepeats last all).filterMap Entry.name? = all.filterMap Entry.name? := by
  induction all generalizing last with
  | nil => rfl
  | cons entry rest ih =>
      cases entry with
      | item name object => simp [withoutRepeats, Entry.name?, ih]
      | group stem =>
          have unnamed : (Entry.group stem).name? = none := rfl
          rw [List.filterMap_cons_none unnamed, withoutRepeats]
          split
          · exact ih last
          · rw [List.filterMap_cons_none unnamed, ih]

theorem withoutRepeats_item (last : Option String) (before behind : List Entry) (name : String)
    (object : StoredObject) : ∃ later, withoutRepeats last (before ++ .item name object :: behind) =
      withoutRepeats last before ++ .item name object :: withoutRepeats later behind := by
  induction before generalizing last with
  | nil => exact ⟨last, rfl⟩
  | cons entry rest ih =>
      cases entry with
      | item other stored =>
          obtain ⟨later, split⟩ := ih last
          exact ⟨later, by simp [withoutRepeats, split]⟩
      | group stem =>
          obtain ⟨later, split⟩ := ih (some stem)
          refine ⟨later, ?_⟩
          by_cases repeated : last = some stem
          · simpa [withoutRepeats, repeated] using split
          · simp [withoutRepeats, repeated, split]

def mark? (stem delimiter name : String) : Option (Option String) :=
  (dropStem? stem.toList name.toList).map fun rest =>
    if delimiter = "" then none
    else (throughDelimiter? delimiter.toList rest).map fun through => stem ++ String.ofList through

theorem map_group?_entryOf? (query : Query) (named : String × StoredObject) :
    (entryOf? query named).map Entry.group? = mark? query.stem query.delimiter named.1 := by
  unfold entryOf? entry? mark?
  cases dropStem? query.stem.toList named.1.toList with
  | none => rfl
  | some rest =>
      by_cases isEmpty : query.delimiter = ""
      · simp [isEmpty, Entry.group?]
      · cases through : throughDelimiter? query.delimiter.toList rest <;> simp [isEmpty, Entry.group?, through]

def stretches : Option String → List (Option String) → Nat
  | _, [] => 0
  | last, none :: rest => stretches last rest + 1
  | last, some stem :: rest => if last = some stem then stretches last rest else stretches (some stem) rest + 1

theorem length_withoutRepeats (last : Option String) (all : List Entry) :
    (withoutRepeats last all).length = stretches last (all.map Entry.group?) := by
  induction all generalizing last with
  | nil => rfl
  | cons entry rest ih =>
      cases entry with
      | item name object => simp [withoutRepeats, stretches, Entry.group?, ih]
      | group stem =>
          by_cases repeated : last = some stem
          · simp [withoutRepeats, stretches, Entry.group?, repeated, ih]
          · simp [withoutRepeats, stretches, Entry.group?, repeated, ih]

theorem stretches_le_length (last : Option String) (marks : List (Option String)) :
    stretches last marks ≤ marks.length := by
  induction marks generalizing last with
  | nil => exact Nat.le_refl _
  | cons mark rest ih =>
      cases mark with
      | none => exact Nat.succ_le_succ (ih last)
      | some stem =>
          simp only [stretches, List.length_cons]
          split
          · exact Nat.le_succ_of_le (ih last)
          · exact Nat.succ_le_succ (ih _)

theorem stretches_le_succ (last other : Option String) (marks : List (Option String)) :
    stretches last marks ≤ stretches other marks + 1 := by
  induction marks generalizing last other with
  | nil => exact Nat.zero_le _
  | cons mark rest ih =>
      cases mark with
      | none => exact Nat.succ_le_succ (ih last other)
      | some stem =>
          have fromOther := ih (some stem) other
          simp only [stretches]
          by_cases joins : last = some stem <;> by_cases otherJoins : other = some stem
          · rw [if_pos joins, if_pos otherJoins, joins, otherJoins]
            omega
          · rw [if_pos joins, if_neg otherJoins, joins]
            omega
          · rw [if_neg joins, if_pos otherJoins, otherJoins]
          · rw [if_neg joins, if_neg otherJoins]
            omega

theorem stretches_le_of_sublist {short long : List (Option String)} (within : short.Sublist long)
    (last : Option String) : stretches last short ≤ stretches last long := by
  induction within generalizing last with
  | slnil => exact Nat.le_refl _
  | cons mark within ih =>
      -- Without the mark the rest stands behind another group, which is worth one entry at most: that of the mark.
      refine Nat.le_trans (ih last) ?_
      cases mark with
      | none => exact Nat.le_succ _
      | some stem =>
          simp only [stretches]
          split
          · exact Nat.le_refl _
          · exact stretches_le_succ _ _ _
  | cons_cons mark within ih =>
      cases mark with
      | none => exact Nat.succ_le_succ (ih last)
      | some stem =>
          simp only [stretches]
          split
          · exact ih last
          · exact Nat.succ_le_succ (ih _)

/-! ### Places -/

def names (store : Store) (bucket : String) : List String :=
  (store.bucket bucket).toList.map Prod.fst

theorem mem_names {store : Store} {bucket name : String} :
    name ∈ store.names bucket ↔ (store.find? bucket name).isSome = true := by
  rw [names, List.mem_map, Option.isSome_iff_exists]
  constructor
  · rintro ⟨⟨_, object⟩, member, rfl⟩
    exact ⟨object, Dictionary.mem_toList_iff.1 member⟩
  · rintro ⟨object, found⟩
    exact ⟨(name, object), Dictionary.mem_toList_iff.2 found, rfl⟩

theorem ascending_names (store : Store) (bucket : String) : (store.names bucket).Pairwise (· < ·) := by
  rw [names, List.pairwise_map]
  exact (store.bucket bucket).ascending

def namesBefore (store : Store) (bucket : String) (query : Query) (name : String) : List String :=
  (store.names bucket).filter fun other => other < name && (dropStem? query.stem.toList other.toList).isSome

def place (store : Store) (bucket : String) (query : Query) (name : String) : Nat :=
  stretches none ((store.namesBefore bucket query name).filterMap (mark? query.stem query.delimiter))

theorem mem_namesBefore {store : Store} {bucket name other : String} {query : Query} :
    other ∈ store.namesBefore bucket query name ↔
      (store.find? bucket other).isSome = true ∧ other < name ∧ query.stem.toList <+: other.toList := by
  simp only [namesBefore, List.mem_filter, mem_names, Bool.and_eq_true, decide_eq_true_eq, isSome_dropStem?]

/-- Of the names before one that take part in a listing, the later store still holds what the earlier held. -/
def KeepsBefore (bucket : String) (query : Query) (name : String) (earlier later : Store) : Prop :=
  ∀ other, other < name → query.stem.toList <+: other.toList →
    (earlier.find? bucket other).isSome = true → (later.find? bucket other).isSome = true

theorem place_le_of_keepsBefore {earlier later : Store} {bucket name : String} {query : Query}
    (kept : KeepsBefore bucket query name earlier later) :
    earlier.place bucket query name ≤ later.place bucket query name := by
  have ascending (store : Store) : (store.namesBefore bucket query name).Pairwise (· < ·) :=
    (store.ascending_names bucket).filter _
  have subset : earlier.namesBefore bucket query name ⊆ later.namesBefore bucket query name := by
    intro other member
    obtain ⟨present, below, begins⟩ := mem_namesBefore.1 member
    exact mem_namesBefore.2 ⟨kept other below begins present, below, begins⟩
  have within := List.sublist_of_subperm_of_pairwise (List.subperm_of_subset (ascending earlier).nodup subset)
    (ascending earlier) (ascending later)
  exact stretches_le_of_sublist (within.filterMap _) none

theorem length_entries_le (store : Store) (bucket stem delimiter : String) :
    (store.entries bucket stem delimiter).length ≤ (store.names bucket).length := by
  rw [entries, length_withoutRepeats, names, List.length_map]
  refine Nat.le_trans (stretches_le_length _ _) ?_
  rw [List.length_map]
  exact List.length_filterMap_le ..

theorem Sound.length_names_le {store : Store} (sound : Sound store) (bucket : String) :
    (store.names bucket).length ≤ store.nextGeneration := by
  have generated : ((store.bucket bucket).toList.map fun named => named.2.generation).Nodup := by
    rw [List.Nodup, List.pairwise_map]
    refine (store.bucket bucket).ascending.imp_of_mem fun {left right} inLeft inRight below same => ?_
    have found := Dictionary.mem_toList_iff.1 inLeft
    have otherFound := Dictionary.mem_toList_iff.1 inRight
    have sameName := (sound.distinct bucket left.1 left.2 bucket right.1 right.2 found otherFound same).2
    rw [sameName] at below
    exact String.lt_irrefl _ below
  have bounded : ((store.bucket bucket).toList.map fun named => named.2.generation) ⊆
      List.range store.nextGeneration := by
    intro generation member
    obtain ⟨named, inBucket, rfl⟩ := List.mem_map.1 member
    have bounds := sound.bounds bucket named.1 named.2 (Dictionary.mem_toList_iff.1 inBucket)
    exact List.mem_range.2 bounds.2.1
  have short := (List.subperm_of_subset generated bounded).length_le
  rwa [List.length_map, List.length_range, ← List.length_map Prod.fst] at short

theorem marks_entryOf? (query : Query) (part : List (String × StoredObject)) :
    (part.filterMap (entryOf? query)).map Entry.group? =
      ((part.map Prod.fst).filter fun other => (dropStem? query.stem.toList other.toList).isSome).filterMap
        (mark? query.stem query.delimiter) := by
  induction part with
  | nil => rfl
  | cons named rest ih =>
      have mark := map_group?_entryOf? query named
      rw [List.map_cons, List.filter_cons]
      cases dropped : dropStem? query.stem.toList named.1.toList with
      | none =>
          have unlisted : entryOf? query named = none := by
            simp only [entryOf?, entry?, dropped]
          rw [List.filterMap_cons_none unlisted, ih]
          rfl
      | some behind =>
          rw [mark?, dropped, Option.map_some] at mark
          obtain ⟨entry, isEntry, isMark⟩ := Option.map_eq_some_iff.1 mark
          have marked : mark? query.stem query.delimiter named.1 = some entry.group? := by
            rw [mark?, dropped, Option.map_some, isMark]
          rw [List.filterMap_cons_some isEntry, Option.isSome_some, if_pos rfl,
            List.filterMap_cons_some marked, List.map_cons, ih]

/-- A name that is listed as it is stands at its place, and nowhere else. -/
theorem entries_split {store : Store} {bucket name : String} {object : StoredObject} {query : Query}
    (found : store.find? bucket name = some object) (listed : query.ListsItem name) :
    ∃ before behind, store.entries bucket query.stem query.delimiter = before ++ .item name object :: behind ∧
      before.length = store.place bucket query name ∧
      name ∉ before.filterMap Entry.name? ∧ name ∉ behind.filterMap Entry.name? := by
  obtain ⟨front, back, split, below, above⟩ := Entries.lookup_split found (store.bucket bucket).ascending
  have unnamed {part : List (String × StoredObject)} (differs : ∀ named ∈ part, named.1 ≠ name)
      (last : Option String) : name ∉ (withoutRepeats last (part.filterMap (entryOf? query))).filterMap Entry.name? := by
    rw [names_withoutRepeats, List.filterMap_filterMap, List.mem_filterMap]
    rintro ⟨named, member, isName⟩
    obtain ⟨entry, isEntry, entryName⟩ := Option.bind_eq_some_iff.1 isName
    exact differs named member (name?_of_entryOf? isEntry entryName).symm
  obtain ⟨later, parts⟩ := withoutRepeats_item none (front.filterMap (entryOf? query))
    (back.filterMap (entryOf? query)) name object
  -- The names are in order, so that the ones before this one are exactly those in front of it.
  refine ⟨_, _, ?_, ?_, unnamed (fun named member => String.ne_of_lt (below named member)) none,
    unnamed (fun named member => (String.ne_of_lt (above named member)).symm) later⟩
  · have isItem : entryOf? query (name, object) = some (.item name object) := entryOf?_of_listsItem listed object
    change withoutRepeats none ((store.bucket bucket).entries.filterMap (entryOf? query)) = _
    rw [← parts, split, List.filterMap_append, List.filterMap_cons_some isItem]
  · have frontNames : (front.map Prod.fst).filter (fun other => decide (other < name) &&
        (dropStem? query.stem.toList other.toList).isSome) =
        (front.map Prod.fst).filter fun other => (dropStem? query.stem.toList other.toList).isSome := by
      refine List.filter_congr fun other member => ?_
      obtain ⟨named, inFront, rfl⟩ := List.mem_map.1 member
      rw [decide_eq_true (below named inFront), Bool.true_and]
    have backNames : (name :: back.map Prod.fst).filter (fun other => decide (other < name) &&
        (dropStem? query.stem.toList other.toList).isSome) = [] := by
      refine List.filter_eq_nil_iff.2 fun other member => ?_
      have notBelow : ¬other < name := by
        rcases List.mem_cons.1 member with rfl | inBack
        · exact String.lt_irrefl _
        · obtain ⟨named, inRow, rfl⟩ := List.mem_map.1 inBack
          exact fun reverse => String.lt_irrefl _ (String.lt_trans reverse (above named inRow))
      rw [decide_eq_false notBelow, Bool.false_and]
      exact Bool.false_ne_true
    rw [length_withoutRepeats, marks_entryOf?, place, namesBefore, names, Dictionary.toList, split, List.map_append,
      List.map_cons, List.filter_append, frontNames, backNames, List.append_nil]

/-- The first entry that is a name, counted from zero. -/
def position (store : Store) (bucket : String) (query : Query) (name : String) : Nat :=
  (store.entries bucket query.stem query.delimiter).findIdx fun entry => entry.name? == some name

theorem position_of_split {store : Store} {bucket name : String} {object : StoredObject} {query : Query}
    {before behind : List Entry}
    (split : store.entries bucket query.stem query.delimiter = before ++ .item name object :: behind)
    (notBefore : name ∉ before.filterMap Entry.name?) : store.position bucket query name = before.length := by
  have different : before.findIdx (fun entry => entry.name? == some name) = before.length := by
    refine List.findIdx_eq_length_of_false fun entry member => ?_
    rw [beq_eq_false_iff_ne]
    exact fun named => notBefore (List.mem_filterMap.2 ⟨entry, member, named⟩)
  rw [position, split, List.findIdx_append, different, if_neg (Nat.lt_irrefl _), List.findIdx_cons]
  simp [Entry.name?]

theorem position_eq_place {store : Store} {bucket name : String} {object : StoredObject} {query : Query}
    (found : store.find? bucket name = some object) (listed : query.ListsItem name) :
    store.position bucket query name = store.place bucket query name := by
  obtain ⟨before, behind, split, isPlace, notBefore, _⟩ := entries_split found listed
  rw [position_of_split split notBefore, isPlace]

theorem find?_of_mem_entries {store : Store} {bucket name : String} {object : StoredObject} {query : Query}
    (member : .item name object ∈ store.entries bucket query.stem query.delimiter) :
    store.find? bucket name = some object := by
  have kept (last : Option String) (all : List Entry) (inRow : Entry.item name object ∈ withoutRepeats last all) :
      Entry.item name object ∈ all := by
    induction all generalizing last with
    | nil => exact inRow
    | cons entry rest ih =>
        cases entry with
        | item other stored =>
            rcases List.mem_cons.1 inRow with same | inRest
            · exact same ▸ List.mem_cons_self
            · exact List.mem_cons_of_mem _ (ih last inRest)
        | group stem =>
            rw [withoutRepeats] at inRow
            split at inRow
            · exact List.mem_cons_of_mem _ (ih last inRow)
            · exact List.mem_cons_of_mem _ (ih _ ((List.mem_cons.1 inRow).resolve_left Entry.noConfusion))
  obtain ⟨named, inBucket, isEntry⟩ := List.mem_filterMap.1 (kept none _ member)
  change entryOf? query named = _ at isEntry
  unfold entryOf? entry? at isEntry
  split at isEntry
  · cases isEntry
  · split at isEntry
    · cases isEntry
      exact Dictionary.mem_toList_iff.1 inBucket
    · split at isEntry
      · cases isEntry
      · cases isEntry
        exact Dictionary.mem_toList_iff.1 inBucket

/-! ### Windows -/

theorem count_window {name : String} {object : StoredObject} {before behind : List Entry}
    (notBefore : name ∉ before.filterMap Entry.name?) (notBehind : name ∉ behind.filterMap Entry.name?)
    (offset size : Nat) :
    ((((before ++ .item name object :: behind).drop offset).take size).filterMap Entry.name?).count name =
      if offset ≤ before.length ∧ before.length < offset + size then 1 else 0 := by
  have none_of {part all : List Entry} (within : part.Sublist all) (absent : name ∉ all.filterMap Entry.name?) :
      (part.filterMap Entry.name?).count name = 0 :=
    List.count_eq_zero.2 fun member => absent ((within.filterMap _).subset member)
  rw [List.drop_append]
  by_cases reached : offset ≤ before.length
  · have here : offset - before.length = 0 := by omega
    rw [here, List.drop_zero, List.take_append, List.filterMap_append, List.count_append, List.length_drop,
      none_of ((List.take_sublist ..).trans (List.drop_sublist ..)) notBefore, Nat.zero_add]
    by_cases shown : before.length < offset + size
    · obtain ⟨more, left⟩ : ∃ more, size - (before.length - offset) = more + 1 :=
        ⟨size - (before.length - offset) - 1, by omega⟩
      have named : (Entry.item name object).name? = some name := rfl
      rw [left, List.take_succ_cons, List.filterMap_cons_some named, List.count_cons_self,
        none_of (List.take_sublist ..) notBehind, if_pos ⟨reached, shown⟩]
    · have left : size - (before.length - offset) = 0 := by omega
      rw [left, List.take_zero, if_neg fun both => shown both.2]
      rfl
  · obtain ⟨more, passed⟩ : ∃ more, offset - before.length = more + 1 := ⟨offset - before.length - 1, by omega⟩
    have empty : before.drop offset = [] := List.drop_eq_nil_of_le (by omega)
    rw [passed, empty, List.nil_append, List.drop_succ_cons,
      none_of ((List.take_sublist ..).trans (List.drop_sublist ..)) notBehind, if_neg fun both => reached both.1]

end Store

end ObjectStore
