import ObjectStore.Proofs.Atomic.Pages
import ObjectStore.Proofs.Atomic.RoundTrip

/-!
The views of an object agree. Its resource, its place in the listing of its bucket and its contents come on
different ways from the service, and all of them tell of one stored object, or all of them tell of none.
-/

namespace ObjectStore

open Url (IsPlaceName)

/-! ### One name in a listing -/

namespace Store

theorem Entry.filter_objects_of_unnamed (bucket : String) {name : String} {entries : List Entry}
    (unnamed : name ∉ entries.filterMap name?) :
    (entries.filterMap (object? bucket)).filter (fun object => object.name = name) = [] := by
  rw [List.filter_eq_nil_iff]
  intro object shown isNamed
  obtain ⟨entry, member, isObject⟩ := List.mem_filterMap.1 shown
  cases entry with
  | group stem => cases isObject
  | item other stored =>
      cases isObject
      have same : other = name := of_decide_eq_true isNamed
      exact unnamed (List.mem_filterMap.2 ⟨.item other stored, member, congrArg some same⟩)

theorem filter_objects_of_found {store : Store} {bucket name : String} {stored : StoredObject}
    (found : store.find? bucket name = some stored) {query : Query} (listed : query.ListsItem name) :
    ((store.entries bucket query.stem query.delimiter).filterMap (Entry.object? bucket)).filter
      (fun object => object.name = name) = [stored.toObject bucket name] := by
  obtain ⟨before, behind, split, _, notBefore, notBehind⟩ := entries_split found listed
  have shown : Entry.object? bucket (.item name stored) = some (stored.toObject bucket name) := rfl
  have named : decide ((stored.toObject bucket name).name = name) = true := decide_eq_true rfl
  rw [split, List.filterMap_append, List.filterMap_cons_some shown, List.filter_append,
    Entry.filter_objects_of_unnamed bucket notBefore, List.filter_cons, if_pos named,
    Entry.filter_objects_of_unnamed bucket notBehind, List.nil_append]

end Store

namespace Atomic

variable {store : Store} {bucket name : String}

theorem unlisted_of_absent (absent : store.find? bucket name = none) {query : Query} {page : Page}
    (listed : list store bucket query = .finished (.ok page)) : name ∉ page.results.map Object.name := by
  intro shown
  obtain ⟨_, names, _⟩ := list_eq_finished listed
  rw [names, List.mem_filterMap] at shown
  obtain ⟨entry, inWindow, isName⟩ := shown
  cases entry with
  | group stem => cases isName
  | item other stored =>
      cases isName
      have found := Store.find?_of_mem_entries (List.mem_of_mem_drop (List.mem_of_mem_take inWindow))
      rw [absent] at found
      cases found

theorem missing_eq (bucket name : String) : ∃ cause, missing bucket name = .notFound cause :=
  ⟨_, rfl⟩

end Atomic

namespace Simulation

/-! ### Views -/

/-- There is no such object, whichever way one looks for it. -/
structure Hides (simulation : Simulation) (bucket name : String) : Prop where
  stat : ∃ cause, ((bucketConfig bucket).stat name).run transport simulation =
    (.finished (.error (.notFound cause)), simulation)
  read : ∀ generation, ∃ cause, ((bucketConfig bucket).read ⟨name, generation⟩).run transport simulation =
    (.finished (.error (.notFound cause)), simulation)
  update : ∀ request : UpdateRequest, request.name = name → ∃ cause,
    ((bucketConfig bucket).update request).run transport simulation =
      (.finished (.error (.notFound cause)), simulation)
  delete : ∃ cause, ((bucketConfig bucket).delete name).run transport simulation =
    (.finished (.error (.notFound cause)), simulation)
  unlisted : ∀ query page later, ((bucketConfig bucket).list query).run transport simulation =
    (.finished (.ok page), later) → name ∉ page.results.map Object.name

/-- Whichever way one looks at the object, it is this one. -/
structure Shows (simulation : Simulation) (bucket name : String) (object : Object) : Prop where
  stat : ((bucketConfig bucket).stat name).run transport simulation = (.finished (.ok object), simulation)
  listed : ∀ (versions : Bool) (maxResults : UInt32), ∃ pages : List Page,
    (∀ limit, pages.length ≤ limit →
      ((bucketConfig bucket).pages limit { versions, maxResults }).run transport simulation =
        (.finished (pages, none), simulation)) ∧
      (pages.flatMap Page.results).filter (fun other => other.name = name) = [object]
  contents : ∃ contents : Bytes, contents.length = object.size.toNat ∧ Md5.digest contents = object.md5 ∧
    Crc32c.checksum contents = object.crc32c ∧
    ∀ generation, if generation = 0 ∨ generation = object.generation then
      ∃ content, ((bucketConfig bucket).read ⟨name, generation⟩).run transport simulation =
        (.finished (.ok content), simulation) ∧ content.readAll = (contents, none)
    else ∃ cause, ((bucketConfig bucket).read ⟨name, generation⟩).run transport simulation =
      (.finished (.error (.notFound cause)), simulation)

section Views

variable {bucket name : String} (isBucket : IsPlaceName bucket) (isName : checkSegmentName name = .ok ())
  {simulation : Simulation}

include isBucket isName

theorem hides_of_absent (absent : simulation.store.find? bucket name = none) : simulation.Hides bucket name := by
  obtain ⟨cause, missing⟩ := Atomic.missing_eq bucket name
  constructor
  case stat =>
    refine ⟨cause, ?_⟩
    rw [run_stat isBucket]
    simp only [Atomic.stat, Atomic.checkName, isName, absent, missing, Except.mapError, bind, Except.bind]
  case read =>
    intro generation
    refine ⟨cause, ?_⟩
    rw [run_read isBucket]
    simp only [Atomic.read, Atomic.checkName, isName, absent, missing, Except.mapError, bind, Except.bind]
  case update =>
    rintro request rfl
    refine ⟨cause, ?_⟩
    rw [run_update isBucket]
    simp only [Atomic.update, Atomic.checkName, isName, absent, missing, Except.mapError]
  case delete =>
    refine ⟨cause, ?_⟩
    rw [run_delete isBucket]
    simp only [Atomic.delete, Atomic.checkName, isName, absent, missing, Except.mapError]
  case unlisted =>
    intro query page later listed
    rw [run_list isBucket] at listed
    exact Atomic.unlisted_of_absent absent (congrArg Prod.fst listed)

theorem shows_of_found {stored : StoredObject} (found : simulation.store.find? bucket name = some stored)
    (bounded : simulation.store.Bounded bucket) : simulation.Shows bucket name (stored.toObject bucket name) := by
  have fits := bounded.fits name stored found
  constructor
  case stat => rw [run_stat isBucket, Atomic.stat_found isName found fits]
  case listed =>
    intro versions maxResults
    let query : Query := { versions, maxResults }
    have isItem : query.ListsItem name := ⟨name.toList, rfl, Or.inl rfl⟩
    have first : 0 < pageCount (Atomic.entryCount simulation.store bucket query) query.pageSize :=
      Nat.lt_of_lt_of_le Nat.zero_lt_one (Nat.le_max_left ..)
    refine ⟨Atomic.pages simulation.store bucket query, ?_, ?_⟩
    · intro limit enough
      have followed := run_pages isBucket bounded limit 0 first
      rw [List.drop_zero, List.take_of_length_le enough] at followed
      exact followed
    · rw [Atomic.flatMap_results_pages]
      exact Store.filter_objects_of_found found isItem
  case contents =>
    refine ⟨stored.contents, (UInt64.toNat_ofNat_of_lt' fits.size).symm, rfl, rfl, ?_⟩
    intro generation
    have current : generation = (stored.toObject bucket name).generation ↔ generation.toInt = stored.generation := by
      rw [← StoredObject.toInt_generation bucket name fits, Int64.toInt_inj]
    rw [run_read isBucket, Atomic.read_found isName found]
    split
    · rename_i wanted
      rw [if_pos (wanted.imp_right current.1)]
      exact ⟨_, rfl, Content.readAll_ofBytes stored.contents⟩
    · rename_i other
      obtain ⟨cause, missing⟩ := Atomic.missing_eq bucket name
      rw [if_neg fun wanted => other (wanted.imp_right current.2), missing]
      exact ⟨cause, rfl⟩

end Views

/-- The views of a name agree, whatever requests have led to the state: it is hidden from all of them, or each
shows the same object. The numbers of requests and of bytes are below the ones that the integers of a version and
of a size do not hold. -/
theorem views_agree {bucket name : String} (isBucket : IsPlaceName bucket) (isName : checkSegmentName name = .ok ())
    (time : Timestamp) (happenings : List Happening) (few : requestCount happenings < Width.bound 63)
    (small : ∀ other stored, (after time happenings).store.find? bucket other = some stored →
      stored.contents.length < Width.bound 64) :
    (after time happenings).Hides bucket name ∨ ∃ object, (after time happenings).Shows bucket name object := by
  cases found : (after time happenings).store.find? bucket name with
  | none => exact Or.inl (hides_of_absent isBucket isName found)
  | some stored => exact Or.inr ⟨_, shows_of_found isBucket isName found (bounded_after few small)⟩

theorem views_agree_on_two :
    let simulation := after ⟨0, 0⟩ twoCreations
    (∃ object, simulation.Shows "photos" "a" object) ∧ simulation.Hides "photos" "c" := by
  intro simulation
  have isBucket : IsPlaceName "photos" := ⟨by decide, by decide⟩
  have small := small_twoCreations ⟨0, 0⟩
  have present := present_twoCreations ⟨0, 0⟩
  constructor
  · rcases views_agree isBucket (by decide : checkSegmentName "a" = .ok ()) ⟨0, 0⟩ twoCreations (by decide) small with
      hides | shows
    · obtain ⟨stored, found⟩ := Option.isSome_iff_exists.1 ((present "a").2 (Or.inl rfl))
      obtain ⟨cause, statted⟩ := hides.stat
      have fits := fits_after (by decide) found (small "a" stored found)
      rw [run_stat isBucket, Atomic.stat_found (by decide) found fits] at statted
      cases statted
    · exact shows
  · rcases views_agree isBucket (by decide : checkSegmentName "c" = .ok ()) ⟨0, 0⟩ twoCreations (by decide) small with
      hides | ⟨object, shows⟩
    · exact hides
    · have absent : simulation.store.find? "photos" "c" = none := by
        rw [← Option.not_isSome_iff_eq_none, present]
        decide
      obtain ⟨cause, statted⟩ := (hides_of_absent isBucket (by decide) absent).stat
      rw [shows.stat] at statted
      cases statted

end Simulation

end ObjectStore
