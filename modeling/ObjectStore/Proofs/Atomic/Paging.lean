import ObjectStore.Proofs.Atomic.Creation
import ObjectStore.Proofs.Atomic.Page

/-!
Paging through a bucket that changes. A cursor is a position among the entries, so that a page begins
where the one before it ended as long as nothing before that position comes or goes.
-/

namespace ObjectStore

open Url (IsPlaceName)

structure Visit where
  store : Store
  page : Page

namespace Visit

def names (visit : Visit) : List String :=
  visit.page.results.map Object.name

def returned (visits : List Visit) : List String :=
  visits.flatMap names

/-- A name was returned on these pages if and only if it stands before the entries that were paged so far. -/
def Aligned (bucket : String) (query : Query) (name : String) (visits : List Visit) (store : Store) : Prop :=
  name ∈ returned visits ↔ store.position bucket query name < visits.length * query.pageSize

def Steady (bucket : String) (query : Query) (name : String) (visits : List Visit) : Prop :=
  ∀ earlier visit later, visits = earlier ++ visit :: later → Aligned bucket query name earlier visit.store

/-- Between two pages nothing goes from before a name while it is still to be returned, and nothing comes there once
it was. -/
structure Sheltered (bucket : String) (query : Query) (name : String) (visits : List Visit) : Prop where
  kept : ∀ earlier visit next later, visits = earlier ++ visit :: next :: later →
    name ∉ returned (earlier ++ [visit]) → Store.KeepsBefore bucket query name visit.store next.store
  settled : ∀ earlier visit next later, visits = earlier ++ visit :: next :: later →
    name ∈ returned (earlier ++ [visit]) → Store.KeepsBefore bucket query name next.store visit.store

section Steady

variable {bucket name : String} {query : Query} {visits : List Visit} {final : Visit}

theorem Steady.front (steady : Steady bucket query name (visits ++ [final])) : Steady bucket query name visits :=
  fun earlier visit later split => steady earlier visit (later ++ [final]) (by rw [split, List.append_assoc]; rfl)

theorem Steady.last (steady : Steady bucket query name (visits ++ [final])) :
    Aligned bucket query name visits final.store :=
  steady visits final [] rfl

theorem Steady.concat (steady : Steady bucket query name visits)
    (aligned : Aligned bucket query name visits final.store) : Steady bucket query name (visits ++ [final]) := by
  intro earlier visit later split
  rcases List.eq_nil_or_concat later with rfl | ⟨between, other, rfl⟩
  · obtain ⟨rfl, same⟩ := List.append_inj' split rfl
    cases same
    exact aligned
  · rw [List.concat_eq_append, ← List.cons_append, ← List.append_assoc] at split
    exact steady earlier visit between (List.append_inj' split rfl).1

theorem Sheltered.front (sheltered : Sheltered bucket query name (visits ++ [final])) :
    Sheltered bucket query name visits where
  kept earlier visit next later split :=
    sheltered.kept earlier visit next (later ++ [final]) (by rw [split, List.append_assoc]; rfl)
  settled earlier visit next later split :=
    sheltered.settled earlier visit next (later ++ [final]) (by rw [split, List.append_assoc]; rfl)

/-- What is aligned at one page is so at the next one. -/
theorem Sheltered.aligned {previous : Visit} (sheltered : Sheltered bucket query name (visits ++ [previous] ++ [final]))
    (isItem : query.ListsItem name) (present : ∀ visit ∈ visits ++ [previous] ++ [final],
      (visit.store.find? bucket name).isSome = true)
    (aligned : Aligned bucket query name (visits ++ [previous]) previous.store) :
    Aligned bucket query name (visits ++ [previous]) final.store := by
  have isPlace (visit : Visit) (member : visit ∈ visits ++ [previous] ++ [final]) :
      visit.store.position bucket query name = visit.store.place bucket query name := by
    obtain ⟨object, found⟩ := Option.isSome_iff_exists.1 (present visit member)
    exact Store.position_eq_place found isItem
  have split : visits ++ [previous] ++ [final] = visits ++ previous :: final :: [] := by simp
  rw [Aligned, isPlace previous (by simp)] at aligned
  rw [Aligned, isPlace final (by simp)]
  by_cases done : name ∈ returned (visits ++ [previous])
  · have moved := Store.place_le_of_keepsBefore (sheltered.settled visits previous final [] split done)
    exact iff_of_true done (Nat.lt_of_le_of_lt moved (aligned.1 done))
  · have moved := Store.place_le_of_keepsBefore (sheltered.kept visits previous final [] split done)
    exact iff_of_false done fun passed => done (aligned.2 (Nat.lt_of_le_of_lt moved passed))

end Steady

theorem returned_concat (visits : List Visit) (last : Visit) :
    returned (visits ++ [last]) = returned visits ++ last.names := by
  rw [returned, returned, List.flatMap_append, List.flatMap_singleton]

end Visit

namespace Simulation

open Visit (Aligned Sheltered Steady returned)

/-- A client that starts at the beginning of a listing and asks for one page after the other, while
anything may happen in between. -/
inductive Follows (bucket : String) (query : Query) (time : Timestamp) :
    List Visit → Option Query → List Happening → Prop
  | start (history : List Happening) : Follows bucket query time [] (some { query with cursor := "" }) history
  | visit {visits : List Visit} {next : Query} {history : List Happening} {page : Page}
      (follows : Follows bucket query time visits (some next) history)
      (listed : ((bucketConfig bucket).list next).run transport (after time history) =
        (.finished (.ok page), after time history))
      (meanwhile : List Happening) :
      Follows bucket query time (visits ++ [⟨(after time history).store, page⟩]) page.next (history ++ meanwhile)

section Follows

variable {bucket : String} (isBucket : IsPlaceName bucket) {query : Query} {time : Timestamp} {visits : List Visit}
  {history : List Happening}

include isBucket

theorem list_of_run {page : Page} {next : Query} (listed : ((bucketConfig bucket).list next).run transport
    (after time history) = (.finished (.ok page), after time history)) :
    Atomic.list (after time history).store bucket next = .finished (.ok page) := by
  rw [run_list isBucket] at listed
  exact (Prod.mk.inj listed).1

theorem Follows.cursor {following : Option Query} (follows : Follows bucket query time visits following history)
    {next : Query} (goesOn : following = some next) :
    next = { query with cursor := next.cursor } ∧ next.offset = visits.length * query.pageSize ∧
      next.offset ≤ (after time history).store.nextGeneration := by
  induction follows generalizing next with
  | start history =>
      cases goesOn
      exact ⟨rfl, (Nat.zero_mul _).symm, Nat.zero_le _⟩
  | @visit visits current history page _ listed meanwhile ih =>
      obtain ⟨same, offset, _⟩ := ih rfl
      obtain ⟨inRange, _, follow⟩ := Atomic.list_eq_finished (list_of_run isBucket listed)
      rw [follow, Atomic.following] at goesOn
      split at goesOn
      · rename_i more
        cases goesOn
        have size : current.pageSize = query.pageSize := by rw [same]; rfl
        have read : Query.offset { current with cursor := toString (current.offset + current.pageSize) } =
            current.offset + current.pageSize := by
          change (Decimal.unsigned? 64 (Nat.repr (current.offset + current.pageSize))).getD 0 = _
          rw [Decimal.unsigned?_repr inRange]
          rfl
        have bounded := Nat.le_trans (Store.length_entries_le (after time history).store bucket current.stem
          current.delimiter) ((after_sound time history).length_names_le bucket)
        have grown := (run_progress (after time history) meanwhile).next
        refine ⟨by rw [same], ?_, ?_⟩
        · rw [read, offset, size, List.length_append, List.length_singleton, Nat.succ_mul]
        · rw [read, after_append]
          omega
      · cases goesOn

theorem count_page {page : Page} {next : Query} (listed : ((bucketConfig bucket).list next).run transport
    (after time history) = (.finished (.ok page), after time history))
    (same : next = { query with cursor := next.cursor })
    {name : String} (isItem : query.ListsItem name)
    (present : ((after time history).store.find? bucket name).isSome = true) :
    let position := (after time history).store.position bucket query name
    (page.results.map Object.name).count name =
        (if next.offset ≤ position ∧ position < next.offset + query.pageSize then 1 else 0) ∧
      (page.next = none → position < next.offset + query.pageSize) := by
  intro position
  obtain ⟨object, found⟩ := Option.isSome_iff_exists.1 present
  obtain ⟨before, behind, split, _, notBefore, notBehind⟩ := Store.entries_split found isItem
  obtain ⟨_, names, follow⟩ := Atomic.list_eq_finished (list_of_run isBucket listed)
  have size : next.pageSize = query.pageSize := by rw [same]; rfl
  have entries : (after time history).store.entries bucket next.stem next.delimiter =
      before ++ .item name object :: behind := by
    rw [same]
    exact split
  have isPosition : before.length = position := (Store.position_of_split split notBefore).symm
  constructor
  · rw [names, Atomic.window, entries, Store.count_window notBefore notBehind, isPosition, size]
  · intro isLast
    rw [follow, Atomic.following, entries, size, List.length_append, List.length_cons] at isLast
    split at isLast
    · cases isLast
    · omega

theorem page_returns {page : Page} {next : Query} (listed : ((bucketConfig bucket).list next).run transport
    (after time history) = (.finished (.ok page), after time history))
    (same : next = { query with cursor := next.cursor }) (offset : next.offset = visits.length * query.pageSize)
    {name : String} (isItem : query.ListsItem name)
    (present : ((after time history).store.find? bucket name).isSome = true)
    (aligned : Aligned bucket query name visits (after time history).store) :
    let visit : Visit := ⟨(after time history).store, page⟩
    Aligned bucket query name (visits ++ [visit]) visit.store ∧
      (page.next = none → name ∈ returned (visits ++ [visit])) ∧
      ((returned visits).count name ≤ 1 → (returned (visits ++ [visit])).count name ≤ 1) := by
  intro visit
  obtain ⟨shown, isLast⟩ := count_page isBucket listed same isItem present
  rw [offset] at shown isLast
  have reached : (visits ++ [visit]).length * query.pageSize = visits.length * query.pageSize + query.pageSize := by
    rw [List.length_append, List.length_singleton, Nat.succ_mul]
  have total : (returned (visits ++ [visit])).count name =
      (returned visits).count name + (page.results.map Object.name).count name := by
    rw [Visit.returned_concat, List.count_append]
    rfl
  rw [Aligned, ← List.count_pos_iff] at aligned ⊢
  rw [total, shown, reached]
  change (_ ↔ (after time history).store.position bucket query name < _) ∧ _
  refine ⟨by split <;> omega, fun ended => ?_, fun few => by split <;> omega⟩
  have within := isLast ended
  split <;> omega

theorem Follows.returned_once {following : Option Query}
    (follows : Follows bucket query time visits following history) {name : String} (isItem : query.ListsItem name)
    (present : ∀ visit ∈ visits, (visit.store.find? bucket name).isSome = true)
    (steady : Steady bucket query name visits) :
    (returned visits).count name ≤ 1 ∧ (following = none → name ∈ returned visits) := by
  induction follows with
  | start history => exact ⟨Nat.zero_le 1, nofun⟩
  | @visit visits current history page sofar listed meanwhile ih =>
      have presentNow : ((after time history).store.find? bucket name).isSome = true := present ⟨_, page⟩ (by simp)
      obtain ⟨same, offset, _⟩ := sofar.cursor isBucket rfl
      obtain ⟨atMostOnce, _⟩ := ih (fun visit member => present visit (by simp [member])) steady.front
      obtain ⟨_, isLast, notAgain⟩ := page_returns isBucket listed same offset isItem presentNow steady.last
      exact ⟨notAgain atMostOnce, isLast⟩

theorem Follows.steady_and_aligned {following : Option Query}
    (follows : Follows bucket query time visits following history) {name : String} (isItem : query.ListsItem name)
    (present : ∀ visit ∈ visits, (visit.store.find? bucket name).isSome = true)
    (sheltered : Sheltered bucket query name visits) : Steady bucket query name visits ∧
      ∀ earlier last, visits = earlier ++ [last] → Aligned bucket query name visits last.store := by
  induction follows with
  | start history =>
      exact ⟨fun earlier visit later split => by simp at split, fun earlier last split => by simp at split⟩
  | @visit visits current history page sofar listed meanwhile ih =>
      have presentNow : ((after time history).store.find? bucket name).isSome = true := present ⟨_, page⟩ (by simp)
      obtain ⟨same, offset, _⟩ := sofar.cursor isBucket rfl
      obtain ⟨steady, atPrevious⟩ := ih (fun visit member => present visit (by simp [member])) sheltered.front
      have aligned : Aligned bucket query name visits (after time history).store := by
        rcases List.eq_nil_or_concat visits with rfl | ⟨earlier, previous, rfl⟩
        · simp [Aligned, returned]
        · rw [List.concat_eq_append] at *
          exact sheltered.aligned isItem present (atPrevious earlier previous rfl)
      refine ⟨steady.concat aligned, fun earlier last split => ?_⟩
      obtain ⟨_, atLast⟩ := List.append_inj' split rfl
      cases atLast
      exact (page_returns isBucket listed same offset isItem presentNow aligned).1

/-- An item is steady if nothing moves it but what goes before it once it was returned, or comes there before. -/
theorem Follows.steady {following : Option Query} (follows : Follows bucket query time visits following history)
    {name : String} (isItem : query.ListsItem name)
    (present : ∀ visit ∈ visits, (visit.store.find? bucket name).isSome = true)
    (sheltered : Sheltered bucket query name visits) : Steady bucket query name visits :=
  (follows.steady_and_aligned isBucket isItem present sheltered).1

theorem Follows.goes_on {following : Option Query} (follows : Follows bucket query time visits following history)
    {next : Query} (goesOn : following = some next) (few : requestCount history < Width.bound 63)
    (small : ∀ name object, (after time history).store.find? bucket name = some object →
      object.contents.length < Width.bound 64) :
    ∃ page, ((bucketConfig bucket).list next).run transport (after time history) =
      (.finished (.ok page), after time history) := by
  obtain ⟨_, _, offset⟩ := follows.cursor isBucket goesOn
  have generations := Width.lt_of_fitsSigned ((after_counted time history).fits (after_sound time history) few).1
  have size := next.pageSize_bounds.2
  have inRange : next.offset + next.pageSize < Width.bound 64 := by
    have narrow : Width.bound 63 = 2 ^ 63 := rfl
    have wide : Width.bound 64 = 2 ^ 64 := rfl
    omega
  have fit : ∀ name object, (after time history).store.find? bucket name = some object → object.Fits :=
    fun name object found => fits_after few found (small name object found)
  exact ⟨_, by rw [run_list isBucket, Atomic.list_of_fits fit inRange]⟩

end Follows

/-! ### A deletion between two pages -/

def creation (bucket name : String) (opened : Nat) : List Happening :=
  let request : CreateRequest := ⟨{ name }, [], none⟩
  [.request (Sent.announce bucket request), .request (Sent.upload bucket request (opened + 1))]

theorem run_creation (bucket : String) {name : String} (isName : validateName name = .ok ()) {simulation : Simulation}
    {opened : Nat} (numbered : simulation.store.nextUpload = opened) :
    ∃ stored : StoredObject, stored.contents = [] ∧
      (simulation.run (creation bucket name opened)).store.objects =
        (simulation.store.put bucket name stored).objects ∧
      (simulation.run (creation bucket name opened)).store.nextUpload = opened + 1 := by
  subst numbered
  let request : CreateRequest := ⟨{ name }, [], none⟩
  have isValid : Atomic.checkCreate request = .ok () := Atomic.checkCreate_of_valid isName rfl
  have written : (Atomic.create simulation.store simulation.clock.now bucket request).2.objects =
      (simulation.store.put bucket name
        (Atomic.newObject request.attributes [] simulation.store.nextGeneration simulation.clock.now)).objects := by
    simp only [Atomic.create, isValid]
    rfl
  obtain ⟨uploads, finished⟩ := run_announced bucket isValid simulation
  have uploaded := congrArg Prod.snd finished
  rw [state_of_uploading] at uploaded
  rw [creation, run_cons, run_cons, run_nil, step, step, transport_announce bucket isValid, uploaded]
  exact ⟨_, rfl, written, rfl⟩

theorem objects_creation (bucket : String) {name : String} (isName : validateName name = .ok ()) (time : Timestamp) :
    ∃ stored : StoredObject, stored.contents = [] ∧
      (after time (creation bucket name 0)).store.objects = (Store.start.put bucket name stored).objects := by
  have unused : (start time).store.nextUpload = 0 := rfl
  obtain ⟨stored, isEmpty, written, _⟩ := run_creation bucket isName unused
  exact ⟨stored, isEmpty, written⟩

def twoCreations : List Happening :=
  creation "photos" "a" 0 ++ creation "photos" "b" 1

def deletion (removed : String) : List Happening :=
  [.request (Sent.delete "photos" removed)]

section Deletion

variable (time : Timestamp)

theorem objects_twoCreations : ∃ a b : StoredObject, a.contents = [] ∧ b.contents = [] ∧
    (after time twoCreations).store.objects = ((Store.start.put "photos" "a" a).put "photos" "b" b).objects := by
  have unused : (start time).store.nextUpload = 0 := rfl
  obtain ⟨a, emptyA, written, numbered⟩ := run_creation "photos" (by decide : validateName "a" = .ok ()) unused
  obtain ⟨b, emptyB, writtenLast, _⟩ := run_creation "photos" (by decide : validateName "b" = .ok ()) numbered
  refine ⟨a, b, emptyA, emptyB, ?_⟩
  rw [twoCreations, after, run_append, writtenLast]
  simp only [Store.put, Store.bucket, written]
  rfl

theorem find?_twoCreations : ∃ a b : StoredObject, a.contents = [] ∧ b.contents = [] ∧
    ∀ name, (after time twoCreations).store.find? "photos" name =
      if name = "b" then some b else if name = "a" then some a else none := by
  obtain ⟨a, b, emptyA, emptyB, written⟩ := objects_twoCreations time
  refine ⟨a, b, emptyA, emptyB, fun name => ?_⟩
  rw [Store.find?_congr written, Store.find?_put, Store.find?_put]
  simp only [true_and]
  rfl

theorem present_twoCreations (name : String) :
    ((after time twoCreations).store.find? "photos" name).isSome = true ↔ name = "a" ∨ name = "b" := by
  obtain ⟨a, b, _, _, found⟩ := find?_twoCreations time
  rw [found]
  by_cases isB : name = "b" <;> by_cases isA : name = "a" <;> simp [isA, isB]

theorem small_twoCreations : ∀ name object, (after time twoCreations).store.find? "photos" name = some object →
    object.contents.length < Width.bound 64 := by
  intro name object isObject
  obtain ⟨a, b, emptyA, emptyB, found⟩ := find?_twoCreations time
  have isEmpty : object.contents = [] := by
    rw [found] at isObject
    split at isObject
    · cases isObject
      exact emptyB
    · split at isObject
      · cases isObject
        exact emptyA
      · cases isObject
  rw [isEmpty]
  decide

variable {removed : String} (isThere : removed = "a" ∨ removed = "b")

include isThere

theorem store_deletion : (after time (twoCreations ++ deletion removed)).store =
    (after time twoCreations).store.remove "photos" removed := by
  obtain ⟨object, isObject⟩ := Option.isSome_iff_exists.1 ((present_twoCreations time removed).2 isThere)
  rw [after_append, deletion, run_cons, run_nil, step, transport_of_collect rfl,
    Store.answer_delete _ _ _ (Sent.route_delete "photos" removed), Store.answerDelete, isObject]

theorem present_deletion (name : String) :
    ((after time (twoCreations ++ deletion removed)).store.find? "photos" name).isSome = true ↔
      (name = "a" ∨ name = "b") ∧ name ≠ removed := by
  rw [store_deletion time isThere, Store.find?_remove]
  by_cases isRemoved : name = removed
  · simp [isRemoved]
  · simp [isRemoved, present_twoCreations]

theorem small_deletion (name : String) (object : StoredObject)
    (found : (after time (twoCreations ++ deletion removed)).store.find? "photos" name = some object) :
    object.contents.length < Width.bound 64 := by
  rw [store_deletion time isThere, Store.find?_remove] at found
  split at found
  · cases found
  · exact small_twoCreations time name object found

theorem entries_deletion :
    (∃ a b, (after time twoCreations).store.entries "photos" "" "" = [.item "a" a, .item "b" b]) ∧
      ∃ left, (after time (twoCreations ++ deletion removed)).store.entries "photos" "" "" = [left] := by
  obtain ⟨a, b, _, _, written⟩ := objects_twoCreations time
  constructor
  · refine ⟨a, b, ?_⟩
    rw [Store.entries, Store.bucket, written]
    rfl
  · rw [store_deletion time isThere, Store.entries, Store.bucket, Store.remove, Store.bucket, written]
    rcases isThere with rfl | rfl
    · exact ⟨_, rfl⟩
    · exact ⟨_, rfl⟩

theorem follows_deletion : ∃ first last : Page, Follows "photos" { maxResults := 1 } time
      [⟨(after time twoCreations).store, first⟩, ⟨(after time (twoCreations ++ deletion removed)).store, last⟩] none
      (twoCreations ++ deletion removed) ∧
    first.results.map Object.name = ["a"] ∧ last.results.map Object.name = [] := by
  have isBucket : IsPlaceName "photos" := ⟨by decide, by decide⟩
  obtain ⟨⟨a, b, entries⟩, left, entriesLeft⟩ := entries_deletion time isThere
  have begun : Follows "photos" { maxResults := 1 } time [] (some { maxResults := 1 }) twoCreations := .start _
  obtain ⟨first, listed⟩ := begun.goes_on isBucket rfl (by decide) (small_twoCreations time)
  obtain ⟨_, names, next⟩ := Atomic.list_eq_finished (list_of_run isBucket listed)
  have goesOn : first.next = some { maxResults := 1, cursor := "1" } := by
    rw [next, Atomic.following, entries]
    rfl
  have between := begun.visit listed (deletion removed)
  rw [goesOn] at between
  obtain ⟨last, listedLast⟩ := between.goes_on isBucket rfl
    (by rcases isThere with rfl | rfl <;> decide) (small_deletion time isThere)
  obtain ⟨_, namesLast, behind⟩ := Atomic.list_eq_finished (list_of_run isBucket listedLast)
  have ended : last.next = none := by
    rw [behind, Atomic.following, entriesLeft]
    rfl
  have follows := between.visit listedLast []
  rw [ended, List.append_nil] at follows
  refine ⟨first, last, follows, ?_, ?_⟩
  · rw [names, Atomic.window, entries]
    rfl
  · rw [namesLast, Atomic.window, entriesLeft]
    rfl

end Deletion

/-! ### Every page -/

/-- Every item is paged once: a client that comes to the end has been returned each item that was there for
all its requests exactly once, if the item has been behind the pages so far until it was returned, and within them from
there on. And there is always a next page until the end, while the numbers of the objects fit the integers that callers
see. -/
theorem every_item_is_paged_once {bucket : String} (isBucket : IsPlaceName bucket) {query : Query}
    {time : Timestamp} {visits : List Visit} {following : Option Query} {history : List Happening}
    (follows : Follows bucket query time visits following history) :
    (∀ name, following = none → query.ListsItem name →
      (∀ visit ∈ visits, (visit.store.find? bucket name).isSome = true) → Steady bucket query name visits →
        (returned visits).count name = 1) ∧
    (∀ next, following = some next → requestCount history < Width.bound 63 →
      (∀ name object, (after time history).store.find? bucket name = some object →
        object.contents.length < Width.bound 64) →
      ∃ page, ((bucketConfig bucket).list next).run transport (after time history) =
        (.finished (.ok page), after time history)) := by
  constructor
  · intro name ended isItem present steady
    obtain ⟨atMostOnce, isReturned⟩ := follows.returned_once isBucket isItem present steady
    exact Nat.le_antisymm atMostOnce (List.count_pos_iff.2 (isReturned ended))
  · exact fun next goesOn few small => follows.goes_on isBucket goesOn few small

theorem every_item_is_paged_once_beside_deletion :
    let time : Timestamp := ⟨0, 0⟩
    let query : Query := { maxResults := 1 }
    (∃ visits, Follows "photos" query time visits none (twoCreations ++ deletion "b") ∧
      query.ListsItem "a" ∧ Steady "photos" query "a" visits ∧ (returned visits).count "a" = 1) ∧
    ∃ page, ((bucketConfig "photos").list query).run transport (after time twoCreations) =
      (.finished (.ok page), after time twoCreations) := by
  intro time query
  have isBucket : IsPlaceName "photos" := ⟨by decide, by decide⟩
  have isItem : query.ListsItem "a" := ⟨_, rfl, Or.inl rfl⟩
  have isLeft : "b" = "a" ∨ "b" = "b" := Or.inr rfl
  obtain ⟨first, last, follows, _⟩ := follows_deletion time isLeft
  have isFirst : ∀ other, other = "a" ∨ other = "b" → ¬other < "a" := by
    rintro other (rfl | rfl) <;> decide
  have isThere : ∀ visit ∈ [(⟨(after time twoCreations).store, first⟩ : Visit),
      ⟨(after time (twoCreations ++ deletion "b")).store, last⟩],
      (visit.store.find? "photos" "a").isSome = true := by
    intro visit member
    simp only [List.mem_cons, List.not_mem_nil, or_false] at member
    rcases member with rfl | rfl
    · dsimp only
      exact (present_twoCreations time "a").2 (Or.inl rfl)
    · dsimp only
      exact (present_deletion time isLeft "a").2 ⟨Or.inl rfl, by decide⟩
  have steady : Steady "photos" query "a" [⟨(after time twoCreations).store, first⟩,
      ⟨(after time (twoCreations ++ deletion "b")).store, last⟩] := by
    refine follows.steady isBucket isItem isThere ⟨?_, ?_⟩
    · rintro (_ | ⟨_, _ | ⟨_, _ | _⟩⟩) visit next later split _ other below _ isStored
      · cases split
        exact absurd below (isFirst other ((present_twoCreations time other).1 isStored))
      all_goals cases split
    · rintro (_ | ⟨_, _ | ⟨_, _ | _⟩⟩) visit next later split _ other below _ isStored
      · cases split
        exact absurd below (isFirst other ((present_deletion time isLeft other).1 isStored).1)
      all_goals cases split
  refine ⟨⟨_, follows, isItem, steady, ?_⟩, ?_⟩
  · exact (every_item_is_paged_once isBucket follows).1 "a" rfl isItem isThere steady
  · have begun : Follows "photos" query time [] (some query) twoCreations := .start _
    exact (every_item_is_paged_once isBucket begun).2 query rfl (by decide) (small_twoCreations time)

/-- Deleting what was returned moves an item to a position that was passed: it exists all the time, and no
page shows it. -/
theorem deletion_skips_item :
    let time : Timestamp := ⟨0, 0⟩
    let query : Query := { maxResults := 1 }
    query.ListsItem "b" ∧ ∃ visits, Follows "photos" query time visits none (twoCreations ++ deletion "a") ∧
      (∀ visit ∈ visits, (visit.store.find? "photos" "b").isSome = true) ∧ (returned visits).count "b" = 0 := by
  intro time query
  have isLeft : "a" = "a" ∨ "a" = "b" := Or.inl rfl
  obtain ⟨first, last, follows, names, namesLast⟩ := follows_deletion time isLeft
  refine ⟨⟨_, rfl, Or.inl rfl⟩, _, follows, fun visit member => ?_, ?_⟩
  · simp only [List.mem_cons, List.not_mem_nil, or_false] at member
    rcases member with rfl | rfl
    · dsimp only
      exact (present_twoCreations time "b").2 (Or.inr rfl)
    · dsimp only
      exact (present_deletion time isLeft "b").2 ⟨Or.inr rfl, by decide⟩
  · simp only [returned, Visit.names, List.flatMap_cons, List.flatMap_nil, names, namesLast]
    decide

end Simulation

end ObjectStore
