import Mathlib.Algebra.Order.Floor.Div
import ObjectStore.Proofs.Atomic.Call
import ObjectStore.Proofs.Atomic.Paging

/-!
Paging through a bucket that stays as it is. The pages are windows of one size that follow one another, so
that a client that asks for all of them has seen the listing once and in its order.
-/

namespace ObjectStore

open Url (IsPlaceName)

/-! ### Windows in a row -/

theorem flatMap_windows {α β : Type} (read : α → Option β) (all : List α) (size count : Nat) :
    (List.range count).flatMap (fun index => ((all.drop (index * size)).take size).filterMap read) =
      (all.take (count * size)).filterMap read := by
  induction count with
  | zero => simp
  | succ count ih =>
      rw [List.range_succ, List.flatMap_append, ih, List.flatMap_singleton, ← List.filterMap_append, Nat.succ_mul,
        List.take_add]

def pageCount (total size : Nat) : Nat :=
  max 1 (total ⌈/⌉ size)

theorem le_pageCount_mul {size : Nat} (positive : 0 < size) (total : Nat) : total ≤ pageCount total size * size := by
  have enough : total ≤ size * (total ⌈/⌉ size) := le_smul_ceilDiv positive
  have most : total ⌈/⌉ size ≤ pageCount total size := Nat.le_max_right ..
  calc
    total ≤ size * (total ⌈/⌉ size) := enough
    _ ≤ size * pageCount total size := Nat.mul_le_mul_left size most
    _ = pageCount total size * size := Nat.mul_comm ..

theorem lt_pageCount_iff {size : Nat} (positive : 0 < size) (total index : Nat) :
    index + 1 < pageCount total size ↔ (index + 1) * size < total := by
  have least : total ⌈/⌉ size ≤ index + 1 ↔ total ≤ size * (index + 1) := ceilDiv_le_iff_le_smul positive
  rw [Nat.mul_comm] at least
  rw [pageCount]
  omega

namespace Query

def turnTo (query : Query) (index : Nat) : Query :=
  { query with cursor := if index = 0 then "" else toString (index * query.pageSize) }

theorem offset_turnTo {query : Query} {index : Nat} (inRange : index * query.pageSize < Width.bound 64) :
    (query.turnTo index).offset = index * query.pageSize := by
  cases index with
  | zero =>
      rw [Nat.zero_mul]
      rfl
  | succ index =>
      change (Decimal.unsigned? 64 (Nat.repr ((index + 1) * query.pageSize))).getD 0 = _
      rw [Decimal.unsigned?_repr inRange]
      rfl

end Query

def Page.entryCount (page : Page) : Nat :=
  page.results.length + page.prefixes.length

/-- The objects of a bucket fit what callers see of them, and are so few that a machine can count them. -/
structure Store.Bounded (store : Store) (bucket : String) : Prop where
  fits : ∀ name object, store.find? bucket name = some object → object.Fits
  few : (store.names bucket).length < Width.bound 63

theorem Store.Entry.length_parts (bucket : String) (entries : List Store.Entry) :
    (entries.filterMap (object? bucket)).length + (entries.filterMap group?).length = entries.length := by
  induction entries with
  | nil => rfl
  | cons entry rest ih =>
      cases entry with
      | item name object =>
          have isObject : object? bucket (.item name object) = some (object.toObject bucket name) := rfl
          have notGroup : group? (.item name object) = none := rfl
          rw [List.filterMap_cons_some isObject, List.filterMap_cons_none notGroup, List.length_cons, List.length_cons]
          omega
      | group stem =>
          have notObject : object? bucket (.group stem) = none := rfl
          have isGroup : group? (.group stem) = some stem := rfl
          rw [List.filterMap_cons_none notObject, List.filterMap_cons_some isGroup, List.length_cons, List.length_cons]
          omega

/-! ### One page -/

namespace Atomic

variable {store : Store} {bucket : String} {query : Query}

def unpaged (store : Store) (bucket : String) (query : Query) : Page :=
  let all := store.entries bucket query.stem query.delimiter
  ⟨all.filterMap (Store.Entry.object? bucket), all.filterMap Store.Entry.group?, none⟩

def entryCount (store : Store) (bucket : String) (query : Query) : Nat :=
  (store.entries bucket query.stem query.delimiter).length

def pageAt (store : Store) (bucket : String) (query : Query) (index : Nat) : Page :=
  let shown := ((store.entries bucket query.stem query.delimiter).drop (index * query.pageSize)).take query.pageSize
  ⟨shown.filterMap (Store.Entry.object? bucket), shown.filterMap Store.Entry.group?,
    if index + 1 < pageCount (entryCount store bucket query) query.pageSize then some (query.turnTo (index + 1))
    else none⟩

theorem next_pageAt (store : Store) (bucket : String) (query : Query) (index : Nat) :
    (pageAt store bucket query index).next =
      if index + 1 < pageCount (entryCount store bucket query) query.pageSize then some (query.turnTo (index + 1))
      else none :=
  rfl

theorem entryCount_unpaged (store : Store) (bucket : String) (query : Query) :
    (unpaged store bucket query).entryCount = entryCount store bucket query :=
  Store.Entry.length_parts ..

theorem entryCount_pageAt (store : Store) (bucket : String) (query : Query) (index : Nat) :
    (pageAt store bucket query index).entryCount =
      min query.pageSize (entryCount store bucket query - index * query.pageSize) := by
  rw [Page.entryCount, pageAt, Store.Entry.length_parts, List.length_take, List.length_drop, entryCount]

theorem list_congr {later : Store} (same : later.bucket bucket = store.bucket bucket) (query : Query) :
    list later bucket query = list store bucket query := by
  have entries : later.entries bucket query.stem query.delimiter =
      store.entries bucket query.stem query.delimiter := by
    simp only [Store.entries, same]
  rw [list_eq, list_eq, window, window, following, following, entries]

theorem list_turnTo (bounded : store.Bounded bucket) {index : Nat}
    (within : index < pageCount (entryCount store bucket query) query.pageSize) :
    list store bucket (query.turnTo index) = .finished (.ok (pageAt store bucket query index)) := by
  have positive := query.pageSize_bounds.1
  have small := query.pageSize_bounds.2
  have entries : entryCount store bucket query < Width.bound 63 :=
    Nat.lt_of_le_of_lt (Store.length_entries_le ..) bounded.few
  -- Every page but the first begins at an entry, and the first one begins at zero.
  have reached : index * query.pageSize < Width.bound 63 := by
    cases index with
    | zero =>
        rw [Nat.zero_mul]
        decide
    | succ index => exact Nat.lt_trans ((lt_pageCount_iff positive _ index).1 within) entries
  have narrow : Width.bound 63 = 2 ^ 63 := rfl
  have wide : Width.bound 64 = 2 ^ 64 := rfl
  have offset : (query.turnTo index).offset = index * query.pageSize := Query.offset_turnTo (by omega)
  have size : (query.turnTo index).pageSize = query.pageSize := rfl
  have next : following store bucket (query.turnTo index) = (pageAt store bucket query index).next := by
    have more := lt_pageCount_iff positive (entryCount store bucket query) index
    rw [Nat.succ_mul] at more
    have total : (store.entries bucket (query.turnTo index).stem (query.turnTo index).delimiter).length =
        entryCount store bucket query := rfl
    rw [following, offset, size, total, next_pageAt]
    by_cases goesOn : index + 1 < pageCount (entryCount store bucket query) query.pageSize
    · rw [if_pos (more.1 goesOn), if_pos goesOn, Query.turnTo, Query.turnTo, if_neg (Nat.succ_ne_zero index),
        Nat.succ_mul]
    · rw [if_neg fun behind => goesOn (more.2 behind), if_neg goesOn]
  rw [list_of_fits bounded.fits (by rw [offset, size]; omega), next, window, offset, size]
  rfl

theorem list_unpaged (bounded : store.Bounded bucket) {maximum : UInt32}
    (wide : entryCount store bucket query ≤ Query.pageSize { query with maxResults := maximum }) :
    list store bucket { query with cursor := "", maxResults := maximum } =
      .finished (.ok (unpaged store bucket query)) := by
  let whole : Query := { query with maxResults := maximum }
  have positive := whole.pageSize_bounds.1
  have total : entryCount store bucket whole ≤ (0 + 1) * whole.pageSize := by
    rw [Nat.one_mul]
    exact wide
  have single : ¬0 + 1 < pageCount (entryCount store bucket whole) whole.pageSize :=
    fun goesOn => Nat.not_lt.2 total ((lt_pageCount_iff positive _ 0).1 goesOn)
  have listed : list store bucket (whole.turnTo 0) = .finished (.ok (pageAt store bucket whole 0)) :=
    list_turnTo bounded (Nat.lt_of_lt_of_le Nat.zero_lt_one (Nat.le_max_left ..))
  have shown : ((store.entries bucket whole.stem whole.delimiter).drop (0 * whole.pageSize)).take whole.pageSize =
      store.entries bucket whole.stem whole.delimiter := by
    rw [Nat.zero_mul, List.drop_zero]
    exact List.take_of_length_le wide
  rw [pageAt, if_neg single, shown] at listed
  exact listed

theorem entryCount_pageAt_of_more {index : Nat}
    (more : index + 1 < pageCount (entryCount store bucket query) query.pageSize) :
    (pageAt store bucket query index).entryCount = query.pageSize := by
  have behind := (lt_pageCount_iff query.pageSize_bounds.1 _ index).1 more
  rw [Nat.succ_mul] at behind
  rw [entryCount_pageAt]
  omega

def pages (store : Store) (bucket : String) (query : Query) : List Page :=
  (List.range (pageCount (entryCount store bucket query) query.pageSize)).map (pageAt store bucket query)

theorem length_pages (store : Store) (bucket : String) (query : Query) :
    (pages store bucket query).length = pageCount (entryCount store bucket query) query.pageSize := by
  rw [pages, List.length_map, List.length_range]

theorem getElem?_pages {index : Nat} (within : index < pageCount (entryCount store bucket query) query.pageSize) :
    (pages store bucket query)[index]? = some (pageAt store bucket query index) := by
  rw [pages, List.getElem?_map, List.getElem?_range within, Option.map_some]

theorem drop_pages {index : Nat}
    (within : index < pageCount (entryCount store bucket query) query.pageSize) :
    (pages store bucket query).drop index =
      pageAt store bucket query index :: (pages store bucket query).drop (index + 1) := by
  have inRange : index < (pages store bucket query).length := by
    rw [length_pages]
    exact within
  have isPage : (pages store bucket query)[index] = pageAt store bucket query index :=
    (List.getElem_eq_iff inRange).2 (getElem?_pages within)
  rw [List.drop_eq_getElem_cons inRange, isPage]

theorem flatMap_results_pages (store : Store) (bucket : String) (query : Query) :
    (pages store bucket query).flatMap Page.results = (unpaged store bucket query).results := by
  have enough := le_pageCount_mul query.pageSize_bounds.1 (entryCount store bucket query)
  have joined := flatMap_windows (Store.Entry.object? bucket)
    (store.entries bucket query.stem query.delimiter) query.pageSize
    (pageCount (entryCount store bucket query) query.pageSize)
  rw [List.take_of_length_le enough] at joined
  rw [pages, List.flatMap_map]
  exact joined

theorem flatMap_prefixes_pages (store : Store) (bucket : String) (query : Query) :
    (pages store bucket query).flatMap Page.prefixes = (unpaged store bucket query).prefixes := by
  have enough := le_pageCount_mul query.pageSize_bounds.1 (entryCount store bucket query)
  have joined := flatMap_windows Store.Entry.group?
    (store.entries bucket query.stem query.delimiter) query.pageSize
    (pageCount (entryCount store bucket query) query.pageSize)
  rw [List.take_of_length_le enough] at joined
  rw [pages, List.flatMap_map]
  exact joined

end Atomic

/-! ### Following them -/

namespace Simulation

section Pages

variable {bucket : String} (isBucket : IsPlaceName bucket) {query : Query}

include isBucket

theorem run_pages {simulation : Simulation} (bounded : simulation.store.Bounded bucket) (limit index : Nat)
    (within : index < pageCount (Atomic.entryCount simulation.store bucket query) query.pageSize) :
    ((bucketConfig bucket).pages limit (query.turnTo index)).run transport simulation =
      (.finished ((((Atomic.pages simulation.store bucket query).drop index).take limit), none), simulation) := by
  induction limit generalizing index with
  | zero => rfl
  | succ limit ih =>
      rw [BucketConfig.pages, Exchange.run_bind, run_list isBucket, Atomic.list_turnTo bounded within,
        Atomic.drop_pages within, List.take_succ_cons]
      dsimp only
      -- The page says itself whether there is another one, and the client asks for no more than that.
      by_cases goesOn : index + 1 < pageCount (Atomic.entryCount simulation.store bucket query) query.pageSize
      · have next : (Atomic.pageAt simulation.store bucket query index).next = some (query.turnTo (index + 1)) :=
          if_pos goesOn
        simp only [next, Exchange.run_map, ih (index + 1) goesOn]
        rfl
      · have ended : (Atomic.pageAt simulation.store bucket query index).next = none :=
          (Atomic.next_pageAt ..).trans (if_neg goesOn)
        have last : (Atomic.pages simulation.store bucket query).drop (index + 1) = [] := by
          apply List.drop_eq_nil_of_le
          rw [Atomic.length_pages]
          omega
        simp only [ended, last, List.take_nil]
        rfl

theorem Follows.eq_pages {store : Store} (bounded : store.Bounded bucket) {time : Timestamp} {visits : List Visit}
    {following : Option Query} {history : List Happening}
    (follows : Follows bucket query time visits following history)
    (unchanged : ∀ visit ∈ visits, visit.store.bucket bucket = store.bucket bucket) :
    visits.map Visit.page = (Atomic.pages store bucket query).take visits.length ∧
      following = if visits.length < pageCount (Atomic.entryCount store bucket query) query.pageSize then
        some (query.turnTo visits.length) else none := by
  induction follows with
  | start history =>
      have first : 0 < pageCount (Atomic.entryCount store bucket query) query.pageSize :=
        Nat.lt_of_lt_of_le Nat.zero_lt_one (Nat.le_max_left ..)
      exact ⟨rfl, (if_pos first).symm⟩
  | @visit visits next history page follows listed meanwhile ih =>
      obtain ⟨earlier, turned⟩ := ih fun visit member => unchanged visit (List.mem_append_left _ member)
      have same : (after time history).store.bucket bucket = store.bucket bucket :=
        unchanged ⟨_, page⟩ (List.mem_append_right _ (List.mem_singleton.2 rfl))
      split at turned
      · rename_i within
        cases turned
        have isPage := list_of_run isBucket listed
        rw [Atomic.list_congr same, Atomic.list_turnTo bounded within] at isPage
        have found := Except.ok.inj (Ended.finished.inj isPage)
        rw [← found]
        constructor
        · rw [List.map_append, earlier, List.length_append, List.length_singleton, List.take_add_one,
            Atomic.getElem?_pages within]
          rfl
        · rw [List.length_append, List.length_singleton, Atomic.next_pageAt]
      · cases turned

end Pages

theorem bounded_after {time : Timestamp} {history : List Happening} (few : requestCount history < Width.bound 63)
    {bucket : String} (small : ∀ name object, (after time history).store.find? bucket name = some object →
      object.contents.length < Width.bound 64) : (after time history).store.Bounded bucket := by
  have sound := after_sound time history
  have generations := Width.lt_of_fitsSigned ((after_counted time history).fits sound few).1
  constructor
  · intro name object found
    exact fits_after few found (small name object found)
  · exact Nat.lt_of_le_of_lt (sound.length_names_le bucket) generations

/-- The pages of a bucket, joined, are the listing that is not cut at all. All but the last are full, the last
has no next one, and what happens between two of them makes no difference while the bucket stays as it is. -/
theorem pages_join_to_listing {bucket : String} (isBucket : IsPlaceName bucket) (query : Query)
    {simulation : Simulation} (bounded : simulation.store.Bounded bucket) :
    let whole := Atomic.unpaged simulation.store bucket query
    ∃ pages : List Page,
      (∀ limit, ((bucketConfig bucket).pages limit { query with cursor := "" }).run transport simulation =
        (.finished (pages.take limit, none), simulation)) ∧
      pages.length = max 1 (whole.entryCount ⌈/⌉ query.pageSize) ∧
      (∀ index page, pages[index]? = some page →
        page.entryCount ≤ query.pageSize ∧ (index + 1 < pages.length → page.entryCount = query.pageSize) ∧
          (page.next = none ↔ index + 1 = pages.length)) ∧
      pages.flatMap Page.results = whole.results ∧
      pages.flatMap Page.prefixes = whole.prefixes ∧
      (∀ maximum, whole.entryCount ≤ Query.pageSize { query with maxResults := maximum } →
        ((bucketConfig bucket).list { query with cursor := "", maxResults := maximum }).run transport simulation =
          (.finished (.ok whole), simulation)) ∧
      ∀ time visits following history, Follows bucket query time visits following history →
        (∀ visit ∈ visits, visit.store.bucket bucket = simulation.store.bucket bucket) →
          visits.map Visit.page = pages.take visits.length ∧ (following = none ↔ visits.length = pages.length) := by
  intro whole
  have total : whole.entryCount = Atomic.entryCount simulation.store bucket query := Atomic.entryCount_unpaged ..
  have length := Atomic.length_pages simulation.store bucket query
  refine ⟨Atomic.pages simulation.store bucket query, ?_, ?_, ?_, Atomic.flatMap_results_pages ..,
    Atomic.flatMap_prefixes_pages .., ?_, ?_⟩
  · intro limit
    have first : 0 < pageCount (Atomic.entryCount simulation.store bucket query) query.pageSize :=
      Nat.lt_of_lt_of_le Nat.zero_lt_one (Nat.le_max_left ..)
    exact run_pages isBucket bounded limit 0 first
  · rw [length, total, pageCount]
  · intro index page found
    obtain ⟨inRange, _⟩ := List.getElem?_eq_some_iff.1 found
    rw [length] at inRange ⊢
    rw [Atomic.getElem?_pages inRange] at found
    cases found
    refine ⟨?_, Atomic.entryCount_pageAt_of_more, ?_⟩
    · rw [Atomic.entryCount_pageAt]
      exact Nat.min_le_left ..
    · rw [Atomic.next_pageAt]
      split
      · rename_i goesOn
        simp only [reduceCtorEq, false_iff]
        omega
      · rename_i ended
        simp only [true_iff]
        omega
  · intro maximum wide
    rw [run_list isBucket, Atomic.list_unpaged bounded (total ▸ wide)]
  · intro time visits following history follows unchanged
    obtain ⟨earlier, next⟩ := follows.eq_pages isBucket bounded unchanged
    refine ⟨earlier, ?_⟩
    have counted := congrArg List.length earlier
    rw [List.length_map, List.length_take] at counted
    rw [next, length]
    split
    · rename_i within
      simp only [reduceCtorEq, false_iff]
      omega
    · rename_i passed
      simp only [true_iff]
      omega

theorem pages_join_to_listing_of_two :
    let simulation := after ⟨0, 0⟩ twoCreations
    let query : Query := { maxResults := 1 }
    simulation.store.Bounded "photos" ∧ ∃ pages : List Page,
      (∀ limit, ((bucketConfig "photos").pages limit query).run transport simulation =
        (.finished (pages.take limit, none), simulation)) ∧
      pages.length = 2 ∧ (pages.flatMap Page.results).map Object.name = ["a", "b"] := by
  intro simulation query
  have bounded : simulation.store.Bounded "photos" := bounded_after (by decide) (small_twoCreations ⟨0, 0⟩)
  have isBucket : IsPlaceName "photos" := ⟨by decide, by decide⟩
  obtain ⟨⟨a, b, entries⟩, _⟩ := entries_deletion ⟨0, 0⟩ (Or.inl rfl : "a" = "a" ∨ "a" = "b")
  obtain ⟨pages, followed, length, _, results, _⟩ := pages_join_to_listing isBucket query bounded
  refine ⟨bounded, pages, followed, ?_, ?_⟩
  · have size : query.pageSize = 1 := rfl
    rw [length, Atomic.entryCount_unpaged, Atomic.entryCount, entries, size, ceilDiv_one]
    rfl
  · rw [results, Atomic.unpaged, entries]
    rfl

end Simulation

end ObjectStore
