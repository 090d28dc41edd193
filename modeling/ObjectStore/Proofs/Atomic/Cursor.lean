import ObjectStore.Proofs.Atomic.Operation
import ObjectStore.Proofs.Atomic.Paging
import ObjectStore.Proofs.Simulation.SharedClock

/-!
Listings from any cursor, also one that no page has handed out. A page is a window on the entries, however
far behind the last of them its cursor is, until the end of the window is no position of 64 bits.
-/

namespace ObjectStore

open Url (IsPlaceName)

/-- A listing of the entries from an offset on, as many as are asked for. It hands out the end of this window if
there are entries behind it. -/
structure ResourceList.Shows (listing : ResourceList) (bucket : String) (all : List Store.Entry)
    (offset count : Nat) : Prop where
  items : listing.items = some (((all.drop offset).take count).filterMap (Store.Entry.item? bucket))
  prefixes : listing.prefixes = some (((all.drop offset).take count).filterMap Store.Entry.group?)
  token : ∀ text, listing.nextPageToken = some text ↔
    offset + count < all.length ∧ text = toString (offset + count)
  advances : ∀ text, listing.nextPageToken = some text →
    ∃ next, Decimal.unsigned? 64 text = some next ∧ offset < next

namespace Store

variable {bucket : String} {all : List Entry} {offset count : Nat}

theorem page_of_lt (positive : 0 < count) (inRange : offset + count < Width.bound 64) :
    ∃ listing, page bucket all offset count = some listing ∧ listing.Shows bucket all offset count := by
  refine ⟨_, if_neg (Nat.not_le.2 inRange), rfl, rfl, fun text => ?_, fun text handedOut => ?_⟩
  · split
    · rename_i goesOn
      simp only [goesOn, true_and, Option.some.injEq, eq_comm]
    · rename_i ended
      simp only [ended, false_and, reduceCtorEq]
  · split at handedOut
    · cases handedOut
      exact ⟨offset + count, Decimal.unsigned?_repr inRange, Nat.lt_add_of_pos_right positive⟩
    · cases handedOut

theorem page_of_le (bucket : String) (all : List Entry) (overflows : Width.bound 64 ≤ offset + count) :
    page bucket all offset count = none :=
  if_pos overflows

end Store

namespace Simulation

theorem transport_list_of_lt (bucket : String) (simulation : Simulation) {query : Query}
    (inRange : query.offset + query.pageSize < Width.bound 64) : ∃ listing : ResourceList,
      transport (Sent.list bucket query) simulation =
        (.answer (.ok (.ofJson Status.ok listing.toJson)), simulation) ∧
      listing.Shows bucket (simulation.store.entries bucket query.stem query.delimiter) query.offset
        query.pageSize := by
  obtain ⟨listing, isPage, shows⟩ := Store.page_of_lt query.pageSize_bounds.1 inRange
  refine ⟨listing, (transport_list bucket query simulation).trans ?_, shows⟩
  rw [Query.offset, Query.pageSize] at isPage
  rw [isPage]
  rfl

/-- A list request is answered with the page that its cursor and size ask for as long as the end of this page
is a position of 64 bits, and breaks the service otherwise. -/
theorem listing_answers_iff_end_is_position {bucket : String} (isBucket : IsPlaceName bucket)
    (simulation : Simulation) (query : Query) :
    ∃ request, (bucketConfig bucket).listRequest query = .ok request ∧
      let all := simulation.store.entries bucket query.stem query.delimiter
      let stop := query.offset + query.pageSize
      (stop < Width.bound 64 → ∃ listing : ResourceList,
        transport request simulation = (.answer (.ok (.ofJson Status.ok listing.toJson)), simulation) ∧
        listing.Shows bucket all query.offset query.pageSize) ∧
      (Width.bound 64 ≤ stop → transport request simulation = (.fault positionOverflow, simulation) ∧
        ((bucketConfig bucket).list query).run transport simulation = (.broken positionOverflow, simulation)) := by
  refine ⟨Sent.list bucket query, listRequest_eq isBucket query, ?_⟩
  intro all stop
  refine ⟨transport_list_of_lt bucket simulation, fun overflows => ⟨?_, ?_⟩⟩
  · have noPage := Store.page_of_le bucket all overflows
    rw [Query.offset, Query.pageSize] at noPage
    rw [transport_list, noPage]
    rfl
  · rw [run_list isBucket, Atomic.list_eq, if_pos overflows]

theorem listing_breaks_behind_last_position :
    let simulation := after ⟨0, 0⟩ (creation "photos" "a" 0)
    let query : Query := { maxResults := 1, cursor := "18446744073709551614" }
    let last : Query := { maxResults := 1, cursor := "18446744073709551615" }
    (∃ request, ∃ listing : ResourceList, (bucketConfig "photos").listRequest query = .ok request ∧
      transport request simulation = (.answer (.ok (.ofJson Status.ok listing.toJson)), simulation) ∧
      listing.items = some [] ∧ listing.nextPageToken = none) ∧
    ((bucketConfig "photos").list last).run transport simulation = (.broken positionOverflow, simulation) := by
  intro simulation query last
  have isBucket : IsPlaceName "photos" := ⟨by decide, by decide⟩
  obtain ⟨object, _, written⟩ := objects_creation "photos" (by decide : validateName "a" = .ok ()) ⟨0, 0⟩
  have stored : simulation.store.objects = _ := written
  have entries : simulation.store.entries "photos" "" "" = [.item "a" object] := by
    rw [Store.entries, Store.bucket, stored]
    rfl
  constructor
  · obtain ⟨request, asked, answered, _⟩ := listing_answers_iff_end_is_position isBucket simulation query
    obtain ⟨listing, isAnswer, shows⟩ := answered (by decide)
    have isFar : 1 ≤ query.offset := by decide
    have all : simulation.store.entries "photos" query.stem query.delimiter = [.item "a" object] := entries
    rw [all] at shows
    refine ⟨request, listing, asked, isAnswer, ?_, ?_⟩
    · rw [shows.items, List.drop_eq_nil_of_le isFar, List.take_nil, List.filterMap_nil]
    · refine Option.eq_none_iff_forall_ne_some.2 fun text handedOut => ?_
      have goesOn : query.offset + query.pageSize < 1 := ((shows.token text).1 handedOut).1
      omega
  · obtain ⟨_, _, _, broken⟩ := listing_answers_iff_end_is_position isBucket simulation last
    exact (broken (by decide)).2

/-- Listings in a row are answered one by one if every window ends at a position, and not at all if one of them does
not. -/
theorem listings_answer_iff_ends_are_positions {bucket : String} (isBucket : IsPlaceName bucket)
    (shared : SharedSimulation) (queries : List Query) :
    let listings := queries.map fun query => ((bucketConfig bucket).list query).run SharedSimulation.transport
    if ∀ query ∈ queries, query.offset + query.pageSize < Width.bound 64 then
      ∃ answers, SharedSimulation.perform listings shared = .ok answers shared ∧ answers.length = queries.length
    else SharedSimulation.perform listings shared = .error positionOverflow shared := by
  have ran (query : Query) : ((bucketConfig bucket).list query).run SharedSimulation.transport shared =
      (Atomic.list shared.store bucket query, shared) := by
    rw [SharedSimulation.run_transport, run_list isBucket]
    rfl
  dsimp only
  induction queries with
  | nil =>
      rw [if_pos (List.forall_mem_nil _)]
      exact ⟨[], rfl, rfl⟩
  | cons query rest ih =>
      by_cases inRange : query.offset + query.pageSize < Width.bound 64
      · have answered := (ran query).trans (by rw [Atomic.list_eq, if_neg (Nat.not_le.2 inRange)])
        simp only [List.forall_mem_cons, inRange, true_and]
        split at ih
        · rename_i others
          obtain ⟨answers, performed, same⟩ := ih
          rw [if_pos others]
          have told := SharedSimulation.perform_cons_of_finished
            (rest.map fun query => ((bucketConfig bucket).list query).run SharedSimulation.transport) answered
          rw [performed] at told
          exact ⟨_, told, congrArg (· + 1) same⟩
        · rename_i others
          rw [if_neg others, List.map_cons, SharedSimulation.perform_cons_of_finished _ answered, ih]
      · have broke := (ran query).trans (by rw [Atomic.list_eq, if_pos (Nat.not_lt.1 inRange)])
        simp only [List.forall_mem_cons, inRange, false_and, if_false]
        exact SharedSimulation.perform_cons_of_broken _ broke

end Simulation

end ObjectStore
