import ObjectStore.Proofs.Atomic.Cursor

/-!
Grouping by a stem and a delimiter. Repeated groups are left out by looking at the group before, which is
enough because groups come in the order of the names: names that share a group are neighbours, and two
names with the same text before a delimiter agree on where it first occurs, even if it overlaps itself.
-/

namespace ObjectStore

open Url (IsPlaceName)

/-! ### First occurrences -/

/-- The delimiter occurs right behind this text, and not earlier. -/
def OccursFirst (delimiter before text : List Char) : Prop :=
  before ++ delimiter <+: text ∧ ∀ shorter, shorter ++ delimiter <+: text → before.length ≤ shorter.length

theorem OccursFirst.unique {delimiter before text other otherText : List Char}
    (first : OccursFirst delimiter before text) (otherFirst : OccursFirst delimiter other otherText)
    (shared : other ++ delimiter <+: text) : before = other := by
  have notLonger := first.2 other shared
  have nested : before ++ delimiter <+: other ++ delimiter := by
    apply List.prefix_of_prefix_length_le first.1 shared
    simp only [List.length_append]
    omega
  have notShorter := otherFirst.2 before (nested.trans otherFirst.1)
  have sameLength : before.length = other.length := by omega
  have together : before ++ delimiter = other ++ delimiter :=
    nested.eq_of_length (by simp only [List.length_append, sameLength])
  exact List.append_cancel_right together

namespace Store

theorem throughDelimiter?_eq_some_iff {delimiter text through : List Char} :
    throughDelimiter? delimiter text = some through ↔
      ∃ before, OccursFirst delimiter before text ∧ through = before ++ delimiter := by
  induction text generalizing through with
  | nil =>
      cases delimiter with
      | nil => simp [throughDelimiter?, OccursFirst, eq_comm]
      | cons character rest => simp [throughDelimiter?, OccursFirst]
  | cons character rest ih =>
      rw [throughDelimiter?]
      by_cases here : delimiter <+: character :: rest
      · rw [if_pos (isSome_dropStem?.2 here), Option.some.injEq]
        constructor
        · rintro rfl
          exact ⟨[], ⟨here, fun _ _ => Nat.zero_le _⟩, rfl⟩
        · rintro ⟨before, first, rfl⟩
          have atOnce : before.length ≤ 0 := first.2 [] here
          rw [List.eq_nil_of_length_eq_zero (Nat.le_zero.1 atOnce), List.nil_append]
      · rw [if_neg (fun found => here (isSome_dropStem?.1 found)), Option.map_eq_some_iff]
        constructor
        · rintro ⟨_, found, rfl⟩
          obtain ⟨before, ⟨within, least⟩, rfl⟩ := ih.1 found
          refine ⟨character :: before, ⟨List.cons_prefix_cons.2 ⟨rfl, within⟩, ?_⟩, rfl⟩
          rintro (_ | ⟨other, shorter⟩) occurs
          · exact absurd occurs here
          · exact Nat.succ_le_succ (least shorter (List.cons_prefix_cons.1 occurs).2)
        · rintro ⟨_ | ⟨other, before⟩, ⟨within, least⟩, rfl⟩
          · exact absurd within here
          · obtain ⟨rfl, behind⟩ := List.cons_prefix_cons.1 within
            refine ⟨before ++ delimiter, ih.2 ⟨before, ⟨behind, fun shorter occurs => ?_⟩, rfl⟩, rfl⟩
            have longer := least (other :: shorter) (List.cons_prefix_cons.2 ⟨rfl, occurs⟩)
            exact Nat.le_of_succ_le_succ longer

end Store

/-! ### Names in groups -/

/-- The name begins as the query asks, and in what follows the delimiter first occurs right behind this text. -/
def Query.Collapses (query : Query) (name before : String) : Prop :=
  query.delimiter ≠ "" ∧ ∃ rest, name.toList = query.stem.toList ++ rest ∧
    OccursFirst query.delimiter.toList before.toList rest

namespace Store

theorem entryOf?_eq_item_iff {query : Query} {named : String × StoredObject} {name : String} {object : StoredObject} :
    entryOf? query named = some (.item name object) ↔ named = (name, object) ∧ query.ListsItem name := by
  constructor
  · intro isItem
    have names : name = named.1 := name?_of_entryOf? isItem rfl
    unfold entryOf? entry? at isItem
    split at isItem
    · cases isItem
    · rename_i rest dropped
      have joined := dropStem?_eq_some.1 dropped
      split at isItem
      · rename_i isEmpty
        cases isItem
        exact ⟨rfl, rest, joined, Or.inl isEmpty⟩
      · split at isItem
        · cases isItem
        · rename_i notFound
          cases isItem
          exact ⟨rfl, rest, joined, Or.inr (throughDelimiter?_eq_none.1 notFound)⟩
  · rintro ⟨rfl, listed⟩
    exact entryOf?_of_listsItem listed object

theorem entryOf?_eq_group_iff {query : Query} {named : String × StoredObject} {group : String} :
    entryOf? query named = some (.group group) ↔
      ∃ before, query.Collapses named.1 before ∧ group = query.stem ++ before ++ query.delimiter := by
  constructor
  · intro isGroup
    unfold entryOf? entry? at isGroup
    split at isGroup
    · cases isGroup
    · rename_i rest dropped
      split at isGroup
      · cases isGroup
      · rename_i notEmpty
        split at isGroup
        · rename_i through found
          cases isGroup
          obtain ⟨before, first, rfl⟩ := throughDelimiter?_eq_some_iff.1 found
          refine ⟨String.ofList before, ⟨notEmpty, rest, dropStem?_eq_some.1 dropped, ?_⟩, ?_⟩
          · rwa [String.toList_ofList]
          · rw [String.ofList_append, String.ofList_toList, String.append_assoc]
        · cases isGroup
  · rintro ⟨before, ⟨notEmpty, rest, joined, first⟩, rfl⟩
    have found := throughDelimiter?_eq_some_iff.2 ⟨_, first, rfl⟩
    simp only [entryOf?, entry?, dropStem?_eq_some.2 joined, if_neg notEmpty, found]
    rw [String.ofList_append, String.ofList_toList, String.ofList_toList, String.append_assoc]

end Store

/-! ### Order -/

theorem lt_of_lt_of_begins {short long left right : List Char} (less : short < long) (apart : ¬short <+: long)
    (begins : short <+: left) (otherBegins : long <+: right) : left < right := by
  induction short generalizing long left right with
  | nil => exact absurd List.nil_prefix apart
  | cons character rest ih =>
      obtain ⟨behind, rfl⟩ := begins
      cases long with
      | nil => exact absurd less (List.not_lt_nil _)
      | cons other further =>
          obtain ⟨otherBehind, rfl⟩ := otherBegins
          rw [List.cons_append, List.cons_append, List.cons_lt_cons_iff]
          rcases List.cons_lt_cons_iff.1 less with below | ⟨rfl, later⟩
          · exact Or.inl below
          · have apartLater : ¬rest <+: further := fun nested => apart (List.cons_prefix_cons.2 ⟨rfl, nested⟩)
            exact Or.inr ⟨rfl, ih later apartLater (List.prefix_append _ _) (List.prefix_append _ _)⟩

namespace Query

variable {query : Query} {name before : String}

theorem listsItem_or_collapses (query : Query) {name : String} (begins : query.stem.toList <+: name.toList) :
    query.ListsItem name ∨ ∃ before, query.Collapses name before := by
  obtain ⟨rest, joined⟩ := begins
  by_cases isEmpty : query.delimiter = ""
  · exact Or.inl ⟨rest, joined.symm, Or.inl isEmpty⟩
  · cases found : Store.throughDelimiter? query.delimiter.toList rest with
    | none => exact Or.inl ⟨rest, joined.symm, Or.inr (Store.throughDelimiter?_eq_none.1 found)⟩
    | some through =>
        obtain ⟨before, first, _⟩ := Store.throughDelimiter?_eq_some_iff.1 found
        refine Or.inr ⟨String.ofList before, isEmpty, rest, joined.symm, ?_⟩
        rwa [String.toList_ofList]

namespace Collapses

theorem prefix_name (collapses : query.Collapses name before) :
    (query.stem ++ before ++ query.delimiter).toList <+: name.toList := by
  obtain ⟨_, rest, joined, first⟩ := collapses
  rw [joined, String.toList_append, String.toList_append, List.append_assoc]
  exact (List.prefix_append_right_inj _).2 first.1

theorem eq_of_begins (collapses : query.Collapses name before) {other otherBefore : String}
    (otherCollapses : query.Collapses other otherBefore)
    (shared : (query.stem ++ otherBefore ++ query.delimiter).toList <+: name.toList) : before = otherBefore := by
  obtain ⟨_, rest, joined, first⟩ := collapses
  obtain ⟨_, _, _, otherFirst⟩ := otherCollapses
  rw [joined, String.toList_append, String.toList_append, List.append_assoc] at shared
  exact String.toList_injective (first.unique otherFirst ((List.prefix_append_right_inj _).1 shared))

theorem group_le (collapses : query.Collapses name before) {other otherBefore : String}
    (otherCollapses : query.Collapses other otherBefore) (below : name < other) :
    query.stem ++ before ++ query.delimiter ≤ query.stem ++ otherBefore ++ query.delimiter := by
  refine not_lt.1 fun less => ?_
  have characters := String.lt_iff_toList_lt.1 less
  -- If the one group begins like the other, the first name has the delimiter where the second has it.
  by_cases nested : (query.stem ++ otherBefore ++ query.delimiter).toList <+:
      (query.stem ++ before ++ query.delimiter).toList
  · have same := collapses.eq_of_begins otherCollapses (nested.trans collapses.prefix_name)
    rw [same] at less
    exact lt_irrefl _ less
  · have above := lt_of_lt_of_begins characters nested otherCollapses.prefix_name collapses.prefix_name
    exact lt_asymm below (String.lt_iff_toList_lt.2 above)

end Collapses

theorem ListsItem.not_begins (listed : query.ListsItem name) {other : String}
    (collapses : query.Collapses other before) :
    ¬(query.stem ++ before ++ query.delimiter).toList <+: name.toList := by
  intro shared
  obtain ⟨rest, joined, apart⟩ := listed
  rw [joined, String.toList_append, String.toList_append, List.append_assoc] at shared
  have occurs : query.delimiter.toList <:+: rest :=
    (List.suffix_append _ _).isInfix.trans ((List.prefix_append_right_inj _).1 shared).isInfix
  exact apart.resolve_left collapses.1 occurs

end Query

namespace Store

theorem mem_item_withoutRepeats {last : Option String} {all : List Entry} {name : String} {object : StoredObject} :
    .item name object ∈ withoutRepeats last all ↔ .item name object ∈ all := by
  induction all generalizing last with
  | nil => rfl
  | cons entry rest ih =>
      cases entry with
      | item other stored => simp only [withoutRepeats, List.mem_cons, ih]
      | group stem =>
          rw [withoutRepeats]
          split <;> simp only [List.mem_cons, reduceCtorEq, false_or, ih]

theorem mem_group_withoutRepeats (last : Option String) (all : List Entry) (group : String) :
    .group group ∈ withoutRepeats last all ∨ last = some group ↔ .group group ∈ all ∨ last = some group := by
  induction all generalizing last with
  | nil => rfl
  | cons entry rest ih =>
      cases entry with
      | item other stored => simp only [withoutRepeats, List.mem_cons, reduceCtorEq, false_or, ih]
      | group stem =>
          rw [withoutRepeats]
          split
          · rename_i repeated
            rw [ih, repeated, List.mem_cons, Entry.group.injEq, Option.some.injEq]
            tauto
          · have behind := ih (some stem)
            rw [Option.some.injEq] at behind
            rw [List.mem_cons, List.mem_cons, Entry.group.injEq]
            tauto

theorem ascending_withoutRepeats (last : Option String) {all : List Entry}
    (ascending : (all.filterMap Entry.group?).Pairwise (· ≤ ·))
    (above : ∀ stem, last = some stem → ∀ group ∈ all.filterMap Entry.group?, stem ≤ group) :
    ((withoutRepeats last all).filterMap Entry.group?).Pairwise (· < ·) ∧
      ∀ stem, last = some stem → ∀ group ∈ (withoutRepeats last all).filterMap Entry.group?, stem < group := by
  induction all generalizing last with
  | nil => exact ⟨.nil, fun _ _ group member => absurd member List.not_mem_nil⟩
  | cons entry rest ih =>
      cases entry with
      | item name object =>
          -- An item between two groups is no reason to forget the first of them.
          have unmarked : (Entry.item name object).group? = none := rfl
          rw [List.filterMap_cons_none unmarked] at ascending above
          rw [withoutRepeats, List.filterMap_cons_none unmarked]
          exact ih last ascending above
      | group first =>
          have marked : (Entry.group first).group? = some first := rfl
          rw [List.filterMap_cons_some marked] at ascending above
          obtain ⟨least, behind⟩ := List.pairwise_cons.1 ascending
          rw [withoutRepeats]
          split
          · exact ih last behind fun stem isLast group member => above stem isLast group (List.mem_cons_of_mem _ member)
          · rename_i notRepeated
            obtain ⟨strict, beyond⟩ := ih (some first) behind
              (fun stem isFirst group member => Option.some.inj isFirst ▸ least group member)
            rw [List.filterMap_cons_some marked]
            refine ⟨List.pairwise_cons.2 ⟨beyond first rfl, strict⟩, fun stem isLast => ?_⟩
            have below : stem < first := by
              apply lt_of_le_of_ne (above stem isLast first List.mem_cons_self)
              rintro rfl
              exact notRepeated isLast
            rintro group (_ | ⟨_, member⟩)
            · exact below
            · exact below.trans (beyond first rfl group member)

/-! ### Whole listings -/

theorem Entry.mem_names {all : List Entry} {name : String} :
    name ∈ all.filterMap name? ↔ ∃ object, .item name object ∈ all := by
  rw [List.mem_filterMap]
  constructor
  · rintro ⟨_ | _, member, isName⟩
    · cases isName
      exact ⟨_, member⟩
    · cases isName
  · rintro ⟨object, member⟩
    exact ⟨_, member, rfl⟩

theorem Entry.mem_groups {all : List Entry} {group : String} : group ∈ all.filterMap group? ↔ .group group ∈ all := by
  rw [List.mem_filterMap]
  constructor
  · rintro ⟨_ | _, member, isGroup⟩
    · cases isGroup
    · cases isGroup
      exact member
  · exact fun member => ⟨_, member, rfl⟩

/-- These entries are the names that are listed as they are and the groups of all others, in the order of their
bytes, so that every name that begins as the query asks is covered once. -/
structure IsListing (store : Store) (bucket : String) (query : Query) (all : List Entry) : Prop where
  items : ∀ name object, .item name object ∈ all ↔ store.find? bucket name = some object ∧ query.ListsItem name
  ascendingItems : (all.filterMap Entry.name?).Pairwise fun left right => Bytes.ofText left < Bytes.ofText right
  groups : ∀ group, .group group ∈ all ↔ ∃ name before, (store.find? bucket name).isSome = true ∧
    query.Collapses name before ∧ group = query.stem ++ before ++ query.delimiter
  ascendingGroups : (all.filterMap Entry.group?).Pairwise fun left right => Bytes.ofText left < Bytes.ofText right
  covered : ∀ name, (store.find? bucket name).isSome = true → query.stem.toList <+: name.toList →
    (all.filterMap Entry.name?).count name +
      (all.filterMap Entry.group?).countP (fun group => group.toList.isPrefixOf name.toList) = 1

section Listing

variable (store : Store) (bucket : String) (query : Query)

theorem item_mem_entries (name : String) (object : StoredObject) :
    .item name object ∈ store.entries bucket query.stem query.delimiter ↔
      store.find? bucket name = some object ∧ query.ListsItem name := by
  rw [entries, mem_item_withoutRepeats, List.mem_filterMap]
  constructor
  · rintro ⟨named, member, isItem⟩
    obtain ⟨rfl, listed⟩ := entryOf?_eq_item_iff.1 isItem
    exact ⟨Dictionary.mem_toList_iff.1 member, listed⟩
  · rintro ⟨found, listed⟩
    exact ⟨(name, object), Dictionary.mem_toList_iff.2 found, entryOf?_eq_item_iff.2 ⟨rfl, listed⟩⟩

theorem group_mem_entries (group : String) :
    .group group ∈ store.entries bucket query.stem query.delimiter ↔
      ∃ name before, (store.find? bucket name).isSome = true ∧
        query.Collapses name before ∧ group = query.stem ++ before ++ query.delimiter := by
  have unrepeated := mem_group_withoutRepeats none ((store.bucket bucket).toList.filterMap (entryOf? query)) group
  simp only [reduceCtorEq, or_false] at unrepeated
  refine unrepeated.trans (List.mem_filterMap.trans ?_)
  constructor
  · rintro ⟨⟨name, object⟩, member, isGroup⟩
    obtain ⟨before, collapses, written⟩ := entryOf?_eq_group_iff.1 isGroup
    exact ⟨name, before, Option.isSome_iff_exists.2 ⟨object, Dictionary.mem_toList_iff.1 member⟩, collapses, written⟩
  · rintro ⟨name, before, present, collapses, written⟩
    obtain ⟨object, found⟩ := Option.isSome_iff_exists.1 present
    exact ⟨(name, object), Dictionary.mem_toList_iff.2 found, entryOf?_eq_group_iff.2 ⟨before, collapses, written⟩⟩

theorem ascending_items :
    ((store.entries bucket query.stem query.delimiter).filterMap Entry.name?).Pairwise (· < ·) := by
  rw [entries, names_withoutRepeats, List.filterMap_filterMap]
  refine (store.bucket bucket).ascending.filterMap _ fun left right below name isName other isOther => ?_
  obtain ⟨entry, isEntry, entryName⟩ := Option.bind_eq_some_iff.1 isName
  obtain ⟨otherEntry, isOtherEntry, otherName⟩ := Option.bind_eq_some_iff.1 isOther
  rw [name?_of_entryOf? isEntry entryName, name?_of_entryOf? isOtherEntry otherName]
  exact below

theorem ascending_groups :
    ((store.entries bucket query.stem query.delimiter).filterMap Entry.group?).Pairwise (· < ·) := by
  refine (ascending_withoutRepeats none ?_ nofun).1
  rw [List.filterMap_filterMap]
  refine (store.bucket bucket).ascending.filterMap _ fun left right below group isGroup other isOther => ?_
  have collapses {named : String × StoredObject} {found : String}
      (isFound : (entryOf? query named).bind Entry.group? = some found) :
      ∃ before, query.Collapses named.1 before ∧ found = query.stem ++ before ++ query.delimiter := by
    obtain ⟨entry, isEntry, entryGroup⟩ := Option.bind_eq_some_iff.1 isFound
    cases entry <;> cases entryGroup
    exact entryOf?_eq_group_iff.1 isEntry
  obtain ⟨before, isCollapsed, rfl⟩ := collapses isGroup
  obtain ⟨otherBefore, otherCollapsed, rfl⟩ := collapses isOther
  exact isCollapsed.group_le otherCollapsed below

theorem covered_entries {name : String} (present : (store.find? bucket name).isSome = true)
    (begins : query.stem.toList <+: name.toList) :
    let all := store.entries bucket query.stem query.delimiter
    (all.filterMap Entry.name?).count name +
      (all.filterMap Entry.group?).countP (fun group => group.toList.isPrefixOf name.toList) = 1 := by
  intro all
  obtain ⟨object, found⟩ := Option.isSome_iff_exists.1 present
  have oneName : (all.filterMap Entry.name?).Nodup := (store.ascending_items bucket query).imp ne_of_lt
  have oneGroup : (all.filterMap Entry.group?).Nodup := (store.ascending_groups bucket query).imp ne_of_lt
  rcases query.listsItem_or_collapses begins with listed | ⟨before, collapses⟩
  · have isItem : name ∈ all.filterMap Entry.name? :=
      Entry.mem_names.2 ⟨object, (store.item_mem_entries bucket query name object).2 ⟨found, listed⟩⟩
    have noGroup : (all.filterMap Entry.group?).countP (fun group => group.toList.isPrefixOf name.toList) = 0 := by
      refine List.countP_eq_zero.2 fun group member shared => ?_
      obtain ⟨_, _, _, otherCollapses, rfl⟩ :=
        (store.group_mem_entries bucket query group).1 (Entry.mem_groups.1 member)
      exact listed.not_begins otherCollapses (List.isPrefixOf_iff_prefix.1 shared)
    rw [List.count_eq_one_of_mem oneName isItem, noGroup]
  · have isGroup : query.stem ++ before ++ query.delimiter ∈ all.filterMap Entry.group? :=
      Entry.mem_groups.2 ((store.group_mem_entries bucket query _).2 ⟨name, before, present, collapses, rfl⟩)
    have noItem : name ∉ all.filterMap Entry.name? := by
      intro member
      obtain ⟨_, isItem⟩ := Entry.mem_names.1 member
      exact ((store.item_mem_entries bucket query _ _).1 isItem).2.not_begins collapses collapses.prefix_name
    have ownGroup : ∀ group ∈ all.filterMap Entry.group?, group.toList.isPrefixOf name.toList = true ↔
        (group == query.stem ++ before ++ query.delimiter) = true := by
      intro group member
      rw [List.isPrefixOf_iff_prefix, beq_iff_eq]
      obtain ⟨_, _, _, otherCollapses, rfl⟩ :=
        (store.group_mem_entries bucket query group).1 (Entry.mem_groups.1 member)
      constructor
      · exact fun shared => by rw [collapses.eq_of_begins otherCollapses shared]
      · exact fun same => same ▸ collapses.prefix_name
    rw [List.count_eq_zero_of_not_mem noItem, List.countP_congr ownGroup, Nat.zero_add]
    exact List.count_eq_one_of_mem oneGroup isGroup

theorem isListing_entries : IsListing store bucket query (store.entries bucket query.stem query.delimiter) where
  items := store.item_mem_entries bucket query
  ascendingItems := (store.ascending_items bucket query).imp Bytes.ofText_lt
  groups := store.group_mem_entries bucket query
  ascendingGroups := (store.ascending_groups bucket query).imp Bytes.ofText_lt
  covered _ present begins := store.covered_entries bucket query present begins

end Listing

end Store

namespace Simulation

/-- The entries of a bucket are a full listing of it, and a page from the beginning that is wide enough shows them
all. -/
theorem grouping_is_exact (simulation : Simulation) (bucket : String) (query : Query) :
    let all := simulation.store.entries bucket query.stem query.delimiter
    simulation.store.IsListing bucket query all ∧
    (IsPlaceName bucket → query.cursor = "" → all.length ≤ query.pageSize →
      ∃ request, ∃ listing : ResourceList, (bucketConfig bucket).listRequest query = .ok request ∧
        transport request simulation = (.answer (.ok (.ofJson Status.ok listing.toJson)), simulation) ∧
        listing.items = some (all.filterMap (Store.Entry.item? bucket)) ∧
        listing.prefixes = some (all.filterMap Store.Entry.group?) ∧ listing.nextPageToken = none) := by
  intro all
  refine ⟨simulation.store.isListing_entries bucket query, fun isBucket fromStart wide => ?_⟩
  have offset : query.offset = 0 := by
    rw [Query.offset, fromStart]
    rfl
  have inRange : query.offset + query.pageSize < Width.bound 64 := by
    have narrow := query.pageSize_bounds.2
    have size : Width.bound 64 = 2 ^ 64 := rfl
    omega
  obtain ⟨listing, answered, shows⟩ := transport_list_of_lt bucket simulation inRange
  have window : (all.drop query.offset).take query.pageSize = all := by
    rw [offset, List.drop_zero, List.take_of_length_le wide]
  have items := shows.items
  have prefixes := shows.prefixes
  rw [window] at items prefixes
  refine ⟨_, listing, listRequest_eq isBucket query, answered, items, prefixes, ?_⟩
  refine Option.eq_none_iff_forall_ne_some.2 fun text handedOut => ?_
  have goesOn : query.offset + query.pageSize < all.length := ((shows.token text).1 handedOut).1
  omega

theorem grouping_is_exact_of_overlapping_delimiter :
    let simulation := after ⟨0, 0⟩ (creation "photos" "aXXXb" 0)
    let query : Query := { delimiter := "XX" }
    query.Collapses "aXXXb" "a" ∧ simulation.store.IsListing "photos" query [.group "aXX"] ∧
    ∃ request, ∃ listing : ResourceList, (bucketConfig "photos").listRequest query = .ok request ∧
      transport request simulation = (.answer (.ok (.ofJson Status.ok listing.toJson)), simulation) ∧
      listing.items = some [] ∧ listing.prefixes = some ["aXX"] ∧ listing.nextPageToken = none := by
  intro simulation query
  obtain ⟨object, _, written⟩ := objects_creation "photos" (by decide : validateName "aXXXb" = .ok ()) ⟨0, 0⟩
  have stored : simulation.store.objects = _ := written
  have collapses : query.Collapses "aXXXb" "a" := by
    refine ⟨by decide, "aXXXb".toList, by decide, by decide, ?_⟩
    rintro (_ | ⟨character, shorter⟩) occurs
    · exact absurd occurs (by decide)
    · exact Nat.succ_le_succ (Nat.zero_le _)
  have entry : Store.entryOf? query ("aXXXb", object) = some (.group "aXX") :=
    Store.entryOf?_eq_group_iff.2 ⟨"a", collapses, by decide⟩
  have all : simulation.store.entries "photos" query.stem query.delimiter = [.group "aXX"] := by
    rw [Store.entries, Store.bucket, stored]
    change Store.withoutRepeats none ([("aXXXb", object)].filterMap (Store.entryOf? query)) = _
    rw [List.filterMap_cons_some entry]
    rfl
  obtain ⟨isListing, answered⟩ := grouping_is_exact simulation "photos" query
  rw [all] at isListing answered
  exact ⟨collapses, isListing, answered ⟨by decide, by decide⟩ rfl (by decide)⟩

end Simulation

end ObjectStore
