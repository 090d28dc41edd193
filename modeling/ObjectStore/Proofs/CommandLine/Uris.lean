import ObjectStore.Proofs.Atomic.Grouping
import ObjectStore.Proofs.Atomic.Identity
import ObjectStore.Proofs.Atomic.Pages
import ObjectStore.Proofs.Atomic.Updates
import ObjectStore.Proofs.CommandLine.Console
import ObjectStore.Proofs.Printing

/-!
Places as a user writes them. Each is written in one way, but for a bucket without an object, and those that a listing
prints lead back: to the object that was listed, or to all objects behind a group.
-/

namespace ObjectStore

open Url (IsPlaceName)

/-! ### Places -/

namespace ObjectUri

theorem split_iff {rest bucket object : List Char} :
    rest.takeWhile (· != '/') = bucket ∧ (rest.dropWhile (· != '/')).drop 1 = object ↔
      '/' ∉ bucket ∧ (rest = bucket ++ '/' :: object ∨ object = [] ∧ rest = bucket) := by
  constructor
  · rintro ⟨rfl, rfl⟩
    have joined := List.takeWhile_append_dropWhile (p := (· != '/')) (l := rest)
    refine ⟨fun slash => by simpa using List.mem_takeWhile_imp slash, ?_⟩
    cases behind : rest.dropWhile (· != '/') with
    | nil =>
        rw [behind, List.append_nil] at joined
        exact Or.inr ⟨rfl, joined.symm⟩
    | cons character object =>
        have isSlash : character = '/' := by
          have stopped := List.head_dropWhile_not (p := (· != '/')) (l := rest) (by simp [behind])
          simpa [behind] using stopped
        rw [behind, isSlash] at joined
        exact Or.inl joined.symm
  · rintro ⟨noSlash, parts⟩
    have inside : ∀ character ∈ bucket, (character != '/') = true := by
      intro character member
      exact bne_iff_ne.2 fun same => noSlash (same ▸ member)
    rcases parts with rfl | ⟨rfl, rfl⟩
    · rw [List.takeWhile_append_of_pos inside, List.dropWhile_append_of_pos inside]
      simp
    · rw [List.takeWhile_eq_self_iff.2 inside, List.dropWhile_eq_nil_iff.2 inside]
      exact ⟨rfl, rfl⟩

theorem parse_of_scheme {uri : String} {rest : List Char} (begins : uri.toList = scheme ++ rest) :
    parse uri =
      if (rest.takeWhile (· != '/')).isEmpty then .error (.uriBucket uri)
      else .ok ⟨.ofList (rest.takeWhile (· != '/')), .ofList ((rest.dropWhile (· != '/')).drop 1)⟩ := by
  rw [parse, begins]
  rfl

theorem exists_scheme_of_parse {uri : String} {target : ObjectUri} (parsed : parse uri = .ok target) :
    ∃ rest, uri.toList = scheme ++ rest := by
  unfold parse at parsed
  split at parsed
  · rename_i rest begins
    exact ⟨rest, begins⟩
  · cases parsed

theorem toList_bucket (bucket : String) : ("gs://" ++ bucket).toList = scheme ++ bucket.toList :=
  String.toList_append

theorem toList_object (bucket object : String) :
    ("gs://" ++ bucket ++ "/" ++ object).toList = scheme ++ (bucket.toList ++ '/' :: object.toList) := by
  rw [String.toList_append, String.toList_append, toList_bucket, List.append_assoc, List.append_assoc]
  rfl

theorem eq_iff_toList {uri : String} {rest : List Char} (begins : uri.toList = scheme ++ rest)
    (bucket object : String) :
    (uri = "gs://" ++ bucket ++ "/" ++ object ↔ rest = bucket.toList ++ '/' :: object.toList) ∧
      (uri = "gs://" ++ bucket ↔ rest = bucket.toList) := by
  constructor
  · rw [← String.toList_inj, begins, toList_object, List.append_cancel_left_eq]
  · rw [← String.toList_inj, begins, toList_bucket, List.append_cancel_left_eq]

theorem parse_eq_ok_iff {uri bucket object : String} :
    parse uri = .ok ⟨bucket, object⟩ ↔ bucket ≠ "" ∧ '/' ∉ bucket.toList ∧
      (uri = "gs://" ++ bucket ++ "/" ++ object ∨ object = "" ∧ uri = "gs://" ++ bucket) := by
  by_cases hasScheme : ∃ rest, uri.toList = scheme ++ rest
  · obtain ⟨rest, begins⟩ := hasScheme
    obtain ⟨named, unnamed⟩ := eq_iff_toList begins bucket object
    rw [parse_of_scheme begins, named, unnamed, ← String.toList_eq_nil_iff (b := object), ← split_iff]
    split
    · rename_i isEmpty
      rw [List.isEmpty_iff] at isEmpty
      simp only [reduceCtorEq, false_iff, isEmpty]
      rintro ⟨notEmpty, same, _⟩
      exact notEmpty (String.toList_eq_nil_iff.1 same.symm)
    · rename_i notEmpty
      rw [List.isEmpty_iff] at notEmpty
      simp only [Except.ok.injEq, mk.injEq, String.ofList_eq]
      constructor
      · rintro ⟨isBucket, isObject⟩
        exact ⟨fun none => notEmpty (isBucket.trans (String.toList_eq_nil_iff.2 none)), isBucket, isObject⟩
      · rintro ⟨_, same⟩
        exact same
  · constructor
    · intro parsed
      exact absurd (exists_scheme_of_parse parsed) hasScheme
    · rintro ⟨_, _, rfl | ⟨_, rfl⟩⟩
      · exact absurd ⟨_, toList_object bucket object⟩ hasScheme
      · exact absurd ⟨_, toList_bucket bucket⟩ hasScheme

theorem parse_text {bucket : String} (notEmpty : bucket ≠ "") (noSlash : '/' ∉ bucket.toList) (object : String) :
    parse (text bucket object) = .ok ⟨bucket, object⟩ :=
  parse_eq_ok_iff.2 ⟨notEmpty, noSlash, Or.inl rfl⟩

end ObjectUri

/-! ### Groups -/

theorem OccursFirst.of_begins {delimiter before text other : List Char} (first : OccursFirst delimiter before text)
    (begins : before ++ delimiter <+: other) : OccursFirst delimiter before other := by
  refine ⟨begins, fun shorter occurs => ?_⟩
  by_contra isShorter
  -- What occurs earlier lies within the part that both texts have.
  have within : shorter ++ delimiter <+: before ++ delimiter := by
    apply List.prefix_of_prefix_length_le occurs begins
    simp only [List.length_append]
    omega
  exact isShorter (first.2 shorter (within.trans first.1))

/-- The name is listed only as part of this group. -/
def Query.Hides (query : Query) (group name : String) : Prop :=
  ∃ before, query.Collapses name before ∧ group = query.stem ++ before ++ query.delimiter

theorem Query.hides_iff_begins {query : Query} {group other : String} (hidden : query.Hides group other)
    (name : String) : query.Hides group name ↔ group.toList <+: name.toList := by
  constructor
  · rintro ⟨before, collapses, rfl⟩
    exact collapses.prefix_name
  · obtain ⟨before, ⟨notEmpty, _, _, first⟩, rfl⟩ := hidden
    rintro ⟨behind, joined⟩
    refine ⟨before, ⟨notEmpty, before.toList ++ query.delimiter.toList ++ behind, ?_, ?_⟩, rfl⟩
    · rw [← joined, String.toList_append, String.toList_append, List.append_assoc, List.append_assoc,
        List.append_assoc]
    · exact first.of_begins (List.prefix_append _ _)

theorem Query.listsItem_iff_begins {query : Query} (ungrouped : query.delimiter = "") (name : String) :
    query.ListsItem name ↔ query.stem.toList <+: name.toList := by
  constructor
  · rintro ⟨rest, joined, _⟩
    exact ⟨rest, joined.symm⟩
  · rintro ⟨rest, joined⟩
    exact ⟨rest, joined.symm, Or.inl ungrouped⟩

namespace Store

variable {store : Store} {bucket : String} {query : Query}

theorem Entry.mem_objects {all : List Entry} {object : Object} :
    object ∈ all.filterMap (object? bucket) ↔
      ∃ name stored, .item name stored ∈ all ∧ object = stored.toObject bucket name := by
  rw [List.mem_filterMap]
  constructor
  · rintro ⟨_ | _, member, isObject⟩
    · cases isObject
      exact ⟨_, _, member, rfl⟩
    · cases isObject
  · rintro ⟨name, stored, member, rfl⟩
    exact ⟨_, member, rfl⟩

theorem Entry.names_objects (bucket : String) (all : List Entry) :
    (all.filterMap (object? bucket)).map Object.name = all.filterMap name? := by
  rw [List.map_filterMap]
  congr 1
  funext entry
  cases entry <;> rfl

theorem groups_of_ungrouped (ungrouped : query.delimiter = "") :
    (store.entries bucket query.stem query.delimiter).filterMap Entry.group? = [] := by
  refine List.eq_nil_iff_forall_not_mem.2 fun group member => ?_
  obtain ⟨_, _, _, collapses, _⟩ := (store.group_mem_entries bucket query group).1 (Entry.mem_groups.1 member)
  exact collapses.1 ungrouped

theorem HoldsOnly.entries_eq_group {name before : String} {stored : StoredObject}
    (only : store.HoldsOnly bucket name stored) (collapses : query.Collapses name before) :
    store.entries bucket query.stem query.delimiter = [.group (query.stem ++ before ++ query.delimiter)] := by
  have few := store.length_entries_le bucket query.stem query.delimiter
  rw [only.names_eq, if_pos rfl, List.length_singleton] at few
  have present : (store.find? bucket name).isSome = true := by
    rw [only.find?_self]
    rfl
  have shown := (store.group_mem_entries bucket query _).2 ⟨name, before, present, collapses, rfl⟩
  obtain ⟨entry, single⟩ := List.length_eq_one_iff.1 (Nat.le_antisymm few (List.length_pos_of_mem shown))
  rw [single] at shown ⊢
  rw [List.mem_singleton.1 shown]

end Store

/-! ### What a listing prints -/

namespace CommandLine.Console

inductive Pages (console : Console) (bucket uri : String) (maxResults : Option UInt32) (simulation : Simulation) :
    Option String → List Page → Prop
  | last {token : Option String} {page : Page}
      (ran : console.run (.ls uri none maxResults token) simulation = (.finished (.ofPage bucket page), simulation))
      (ended : page.next = none) : Pages console bucket uri maxResults simulation token [page]
  | turn {token : Option String} {page : Page} {next : Query} {rest : List Page}
      (ran : console.run (.ls uri none maxResults token) simulation = (.finished (.ofPage bucket page), simulation))
      (goesOn : page.next = some next)
      (others : Pages console bucket uri maxResults simulation (some next.cursor) rest) :
      Pages console bucket uri maxResults simulation token (page :: rest)

/-- All objects that a query shows only as this group, each once and in order, and nothing else. -/
structure Unfolds (pages : List Page) (query : Query) (bucket group : String) (store : Store) : Prop where
  objects : ∀ object, object ∈ pages.flatMap Page.results ↔ ∃ name stored,
    store.find? bucket name = some stored ∧ query.Hides group name ∧ object = stored.toObject bucket name
  ascending : ((pages.flatMap Page.results).map Object.name).Pairwise (· < ·)
  groups : pages.flatMap Page.prefixes = []

/-- The page that a query asks for, with all that is printed of it to be given back to the command line. -/
structure LeadsBack (console : Console) (bucket : String) (query : Query) (page : Page) (simulation : Simulation) :
    Prop where
  listed : ((Simulation.bucketConfig bucket).list query).run Simulation.transport simulation =
    (.finished (.ok page), simulation)
  objects : ∀ object ∈ page.results, ∃ name stored, simulation.store.find? bucket name = some stored ∧
    object = stored.toObject bucket name ∧ ObjectUri.parse (ObjectUri.text bucket object.name) = .ok ⟨bucket, name⟩ ∧
    console.run (.stat (ObjectUri.text bucket object.name)) simulation = (.finished (.ofObject object), simulation) ∧
    (Outcome.ofObject object).failure = none
  groups : ∀ group ∈ page.prefixes, ∀ maxResults, ∃ pages,
    console.Pages bucket (ObjectUri.text bucket group) maxResults simulation none pages ∧
    Unfolds pages query bucket group simulation.store

section Aimed

variable {console : Console} {bucket : String} (isBucket : IsPlaceName bucket) (aimed : console.IsAimed bucket)
  {handle : Handle} (opened : Handle.forBucket console.settings bucket = .ok handle) {simulation : Simulation}
  (bounded : simulation.store.Bounded bucket)

include isBucket aimed opened bounded

theorem run_ls_turned {uri stem : String} (parsed : ObjectUri.parse uri = .ok ⟨bucket, stem⟩)
    {maxResults : Option UInt32} {query : Query} (isQuery : query = listQuery stem none maxResults none) {index : Nat}
    (within : index < pageCount (Atomic.entryCount simulation.store bucket query) query.pageSize)
    {token : Option String} (isToken : token.getD "" = (query.turnTo index).cursor) :
    console.run (.ls uri none maxResults token) simulation =
      (.finished (.ofPage bucket (Atomic.pageAt simulation.store bucket query index)), simulation) := by
  have asked : listQuery stem none maxResults token = query.turnTo index := by
    rw [isQuery] at isToken ⊢
    rw [Query.turnTo, listQuery, isToken]
    rfl
  rw [run_ls isBucket aimed opened parsed, asked, Atomic.list_turnTo bounded within]
  rfl

theorem pages_drop {uri stem : String} (parsed : ObjectUri.parse uri = .ok ⟨bucket, stem⟩)
    {maxResults : Option UInt32} {query : Query} (isQuery : query = listQuery stem none maxResults none)
    {remaining index : Nat}
    (total : pageCount (Atomic.entryCount simulation.store bucket query) query.pageSize = index + 1 + remaining)
    {token : Option String} (isToken : token.getD "" = (query.turnTo index).cursor) :
    console.Pages bucket uri maxResults simulation token
      ((Atomic.pages simulation.store bucket query).drop index) := by
  induction remaining generalizing index token with
  | zero =>
      have ran := run_ls_turned isBucket aimed opened bounded parsed isQuery (by omega) isToken
      have ended := Atomic.next_pageAt simulation.store bucket query index
      rw [if_neg (by omega)] at ended
      have last : (Atomic.pages simulation.store bucket query).drop (index + 1) = [] := by
        apply List.drop_eq_nil_of_le
        rw [Atomic.length_pages]
        omega
      rw [Atomic.drop_pages (by omega), last]
      exact .last ran ended
  | succ remaining ih =>
      have ran := run_ls_turned isBucket aimed opened bounded parsed isQuery (by omega) isToken
      have goesOn := Atomic.next_pageAt simulation.store bucket query index
      rw [if_pos (by omega)] at goesOn
      rw [Atomic.drop_pages (by omega)]
      exact .turn ran goesOn (ih (by omega) rfl)

theorem exists_pages_of_group {query : Query} {group : String}
    (shown : .group group ∈ simulation.store.entries bucket query.stem query.delimiter)
    (parsed : ObjectUri.parse (ObjectUri.text bucket group) = .ok ⟨bucket, group⟩) (maxResults : Option UInt32) :
    ∃ pages, console.Pages bucket (ObjectUri.text bucket group) maxResults simulation none pages ∧
      Unfolds pages query bucket group simulation.store := by
  let inside : Query := listQuery group none maxResults none
  have ungrouped : inside.delimiter = "" := rfl
  have first : 0 < pageCount (Atomic.entryCount simulation.store bucket inside) inside.pageSize :=
    Nat.lt_of_lt_of_le Nat.zero_lt_one (Nat.le_max_left ..)
  obtain ⟨remaining, total⟩ := Nat.exists_eq_add_of_lt first
  rw [Nat.zero_add, Nat.add_comm, ← Nat.zero_add 1] at total
  have begins : (none : Option String).getD "" = (inside.turnTo 0).cursor := rfl
  refine ⟨Atomic.pages simulation.store bucket inside, ?_, ?_, ?_, ?_⟩
  · exact pages_drop isBucket aimed opened bounded parsed rfl total begins
  · obtain ⟨other, before, _, collapses, same⟩ := (simulation.store.group_mem_entries bucket query group).1 shown
    have hidden : query.Hides group other := ⟨before, collapses, same⟩
    intro object
    rw [Atomic.flatMap_results_pages, Atomic.unpaged, Store.Entry.mem_objects]
    simp only [simulation.store.item_mem_entries bucket inside, Query.listsItem_iff_begins ungrouped, and_assoc,
      Query.hides_iff_begins hidden]
    rfl
  · rw [Atomic.flatMap_results_pages, Atomic.unpaged, Store.Entry.names_objects]
    exact simulation.store.ascending_items bucket inside
  · rw [Atomic.flatMap_prefixes_pages, Atomic.unpaged]
    exact Store.groups_of_ungrouped ungrouped

theorem run_stat_text (operated : simulation.store.Operated) {name : String} {stored : StoredObject}
    (found : simulation.store.find? bucket name = some stored)
    (parsed : ObjectUri.parse (ObjectUri.text bucket name) = .ok ⟨bucket, name⟩) :
    let object := stored.toObject bucket name
    console.run (.stat (ObjectUri.text bucket name)) simulation = (.finished (.ofObject object), simulation) ∧
      (Outcome.ofObject object).failure = none := by
  have checked := checkSegmentName_of_validate (operated.objects bucket name stored found).name
  have fits := bounded.fits name stored found
  have named : name ≠ "" := by
    rintro rfl
    cases checked
  obtain ⟨members, prints⟩ :=
    (Object.ofResource_eq_ok_iff.1 (stored.ofResource_toResource bucket name fits)).isPrintable
  constructor
  · rw [run_stat isBucket aimed opened parsed named, Atomic.stat_found checked found fits]
    rfl
  · rw [Outcome.ofObject_of_prints prints]
    rfl

theorem leadsBack_of_ls (operated : simulation.store.Operated) {uri stem : String}
    (parsed : ObjectUri.parse uri = .ok ⟨bucket, stem⟩) {delimiter : Option String} {maxResults : Option UInt32}
    {pageToken : Option String} {left : Simulation} {outcome : Outcome}
    (ran : console.run (.ls uri delimiter maxResults pageToken) simulation = (.finished outcome, left)) :
    left = simulation ∧ ∃ page, outcome = .ofPage bucket page ∧
      console.LeadsBack bucket (listQuery stem delimiter maxResults pageToken) page simulation := by
  let query := listQuery stem delimiter maxResults pageToken
  obtain ⟨notEmpty, noSlash, _⟩ := ObjectUri.parse_eq_ok_iff.1 parsed
  have parses (object : String) := ObjectUri.parse_text notEmpty noSlash object
  rw [run_ls isBucket aimed opened parsed] at ran
  by_cases inRange : query.offset + query.pageSize < Width.bound 64
  · have listed := Simulation.run_list isBucket simulation query
    rw [Atomic.list_of_fits bounded.fits inRange] at ran listed
    cases ran
    refine ⟨rfl, _, rfl, listed, ?_, ?_⟩
    · intro object member
      obtain ⟨name, stored, inWindow, rfl⟩ := Store.Entry.mem_objects.1 member
      have shown := List.mem_of_mem_drop (List.mem_of_mem_take inWindow)
      have found := ((simulation.store.item_mem_entries bucket query name stored).1 shown).1
      exact ⟨name, stored, found, rfl, parses name,
        run_stat_text isBucket aimed opened bounded operated found (parses name)⟩
    · intro group member maxResults
      have shown := List.mem_of_mem_drop (List.mem_of_mem_take (Store.Entry.mem_groups.1 member))
      exact exists_pages_of_group isBucket aimed opened bounded shown (parses group) maxResults
  · rw [Atomic.list_eq, if_pos (Nat.not_lt.1 inRange)] at ran
    cases ran

end Aimed

end CommandLine.Console

namespace Simulation

open CommandLine (Console Outcome listQuery)

/-- A URI is read as a bucket and an object in one way, whatever signs the object has. What a listing prints, from any
prefix, delimiter and token on, can be given back: the URI of an object to look at this object, and that of a group to
list all objects behind it. -/
theorem printed_uris_lead_back :
    (∀ uri bucket object, ObjectUri.parse uri = .ok ⟨bucket, object⟩ ↔ bucket ≠ "" ∧ '/' ∉ bucket.toList ∧
      (uri = "gs://" ++ bucket ++ "/" ++ object ∨ object = "" ∧ uri = "gs://" ++ bucket)) ∧
    ∀ (time : Timestamp) (history : List Happening), (∀ happening ∈ history, happening.IsOperation) →
      requestCount history < Width.bound 63 →
      ∀ bucket, IsPlaceName bucket →
      (∀ name object, (after time history).store.find? bucket name = some object →
        object.contents.length < Width.bound 64) →
      ∀ console : Console, console.IsAimed bucket →
      ∀ uri stem, ObjectUri.parse uri = .ok ⟨bucket, stem⟩ →
      ∀ delimiter maxResults pageToken outcome left,
        console.run (.ls uri delimiter maxResults pageToken) (after time history) = (.finished outcome, left) →
        outcome.failure = none →
        left = after time history ∧ ∃ page, outcome = .ofPage bucket page ∧
          console.LeadsBack bucket (listQuery stem delimiter maxResults pageToken) page (after time history) := by
  refine ⟨fun _ _ _ => ObjectUri.parse_eq_ok_iff, ?_⟩
  intro time history operations few bucket isBucket small console aimed uri stem parsed delimiter maxResults pageToken
    outcome left ran succeeded
  obtain ⟨handle, opened⟩ := Console.exists_handle_of_ls parsed ran succeeded
  exact Console.leadsBack_of_ls isBucket aimed opened (bounded_after few small) (after_operated time operations)
    parsed ran

theorem holdsOnly_creation (bucket : String) {name : String} (isName : validateName name = .ok ())
    (time : Timestamp) : ∃ stored : StoredObject, stored.contents = [] ∧
      (after time (creation bucket name 0)).store.HoldsOnly bucket name stored := by
  obtain ⟨stored, isEmpty, written⟩ := objects_creation bucket isName time
  refine ⟨stored, isEmpty, fun otherBucket otherName => ?_⟩
  rw [Store.find?_congr written, Store.find?_put]
  simp only [eq_comm]
  rfl

theorem printed_uris_lead_back_from_folder :
    let simulation := after ⟨0, 0⟩ (creation "photos" "a/b" 0)
    let console : Console :=
      ⟨⟨"fake-project", none, none, none, some "https://api.fake.test/storage/v1"⟩, .ok [], Network.connect transport⟩
    console.run (.ls "gs://photos" (some "/") none none) simulation =
        (.finished (.printed "gs://photos/a/\n"), simulation) ∧
      ∃ pages, console.Pages "photos" "gs://photos/a/" none simulation none pages ∧
        ∃ object ∈ pages.flatMap Page.results, object.name = "a/b" := by
  intro simulation console
  obtain ⟨parses, leadBack⟩ := printed_uris_lead_back
  let query := listQuery "" (some "/") none none
  have isBucket : IsPlaceName "photos" := ⟨by decide, by decide⟩
  have isName : validateName "a/b" = .ok () := by decide
  have parsed : ObjectUri.parse "gs://photos" = .ok ⟨"photos", ""⟩ :=
    (parses _ _ _).2 ⟨by decide, by decide, Or.inr ⟨rfl, by decide⟩⟩
  have aimed : console.IsAimed "photos" := ⟨Or.inr rfl, by decide⟩
  have opened : CommandLine.Handle.forBucket console.settings "photos" =
      .ok ⟨console.settings.bucketConfig "photos", none⟩ := rfl
  obtain ⟨stored, isEmpty, only⟩ := holdsOnly_creation "photos" isName ⟨0, 0⟩
  have small : ∀ name object, simulation.store.find? "photos" name = some object →
      object.contents.length < Width.bound 64 := by
    intro name object found
    rw [only] at found
    split at found
    · cases found
      rw [isEmpty]
      decide
    · cases found
  have collapses : query.Collapses "a/b" "a" := by
    refine ⟨by decide, "a/b".toList, by decide, by decide, ?_⟩
    rintro (_ | ⟨character, shorter⟩) occurs
    · exact absurd occurs (by decide)
    · exact Nat.succ_le_succ (Nat.zero_le _)
  have listed : Atomic.list simulation.store "photos" query = .finished (.ok ⟨[], ["a/"], none⟩) := by
    rw [Atomic.list_of_fits (bounded_after (by decide) small).fits (by decide), Atomic.window, Atomic.following,
      only.entries_eq_group collapses]
    rfl
  have ran := Console.run_ls isBucket aimed opened parsed (some "/") none none simulation
  rw [listed] at ran
  obtain ⟨_, page, _, isPage, _, groups⟩ := leadBack ⟨0, 0⟩ (creation "photos" "a/b" 0)
    (isOperation_creation isBucket isName 0) (by decide) "photos" isBucket small console aimed "gs://photos" "" parsed
    (some "/") none none _ _ ran rfl
  rw [run_list isBucket, listed] at isPage
  cases isPage
  obtain ⟨pages, turned, unfolds⟩ := groups "a/" List.mem_cons_self none
  have hidden : query.Hides "a/" "a/b" := ⟨"a", collapses, by decide⟩
  exact ⟨ran, pages, turned, _, (unfolds.objects _).2 ⟨"a/b", stored, only.find?_self, hidden, rfl⟩, rfl⟩

end Simulation

end ObjectStore
