import ObjectStore.Proofs.Object
import ObjectStore.Proofs.Reading
import ObjectStore.Proofs.Simulation.Listing

/-!
A page of a listing: a window on the entries that begins where the cursor says and is as wide as the
query asks.
-/

namespace ObjectStore

def Query.pageSize (query : Query) : Nat :=
  if query.maxResults = 0 then Store.defaultPageSize else query.maxResults.toNat

def Query.offset (query : Query) : Nat :=
  (Decimal.unsigned? 64 query.cursor).getD 0

theorem Query.pageSize_bounds (query : Query) : 0 < query.pageSize ∧ query.pageSize < 2 ^ 32 := by
  unfold pageSize
  split
  · decide
  · rename_i notZero
    have positive : query.maxResults.toNat ≠ 0 := fun same => notZero (UInt32.toNat_inj.1 same)
    exact ⟨Nat.pos_of_ne_zero positive, query.maxResults.toNat_lt⟩

theorem Object.name_ofResource {bucket : String} {resource : Resource} {object : Object}
    (decoded : ofResource bucket resource = .ok object) : object.name = resource.name := by
  simp only [ofResource, bind, Except.bind] at decoded
  repeat' split at decoded
  all_goals cases decoded
  rfl

theorem Object.names_ofResources {bucket : String} {resources : List Resource} {objects : List Object}
    (decoded : resources.mapM (ofResource bucket) = .ok objects) :
    objects.map Object.name = resources.map Resource.name := by
  replace decoded := mapM_eq_ok_iff.1 decoded
  induction decoded with
  | nil => rfl
  | cons isObject _ ih => rw [List.map_cons, List.map_cons, name_ofResource isObject, ih]

namespace Store.Entry

def object? (bucket : String) : Entry → Option Object
  | .item name object => some (object.toObject bucket name)
  | .group _ => none

theorem names_items (bucket : String) (entries : List Entry) :
    (entries.filterMap (item? bucket)).map Resource.name = entries.filterMap name? := by
  induction entries with
  | nil => rfl
  | cons entry rest ih =>
      cases entry with
      | item name object => exact congrArg (name :: ·) ih
      | group stem => exact ih

theorem objects_of_items (bucket : String) {entries : List Entry}
    (fit : ∀ name object, .item name object ∈ entries → object.Fits) :
    (entries.filterMap (item? bucket)).mapM (Object.ofResource bucket) = .ok (entries.filterMap (object? bucket)) := by
  induction entries with
  | nil => rfl
  | cons entry rest ih =>
      have others := ih fun name object member => fit name object (List.mem_cons_of_mem _ member)
      cases entry with
      | group stem => exact others
      | item name object =>
          have first := StoredObject.ofResource_toResource bucket name (fit name object List.mem_cons_self)
          have isItem : item? bucket (.item name object) = some (object.toResource bucket name) := rfl
          have isObject : object? bucket (.item name object) = some (object.toObject bucket name) := rfl
          rw [List.filterMap_cons_some isItem, List.filterMap_cons_some isObject, List.mapM_cons, first, others]
          rfl

end Store.Entry

namespace Atomic

variable {store : Store} {bucket : String} {query : Query}

def window (store : Store) (bucket : String) (query : Query) : List Store.Entry :=
  ((store.entries bucket query.stem query.delimiter).drop query.offset).take query.pageSize

def following (store : Store) (bucket : String) (query : Query) : Option Query :=
  if query.offset + query.pageSize < (store.entries bucket query.stem query.delimiter).length then
    some { query with cursor := toString (query.offset + query.pageSize) }
  else none

theorem list_eq (store : Store) (bucket : String) (query : Query) : list store bucket query =
    if Width.bound 64 ≤ query.offset + query.pageSize then .broken Simulation.positionOverflow
    else .finished (do
      let results ← (((window store bucket query).filterMap (Store.Entry.item? bucket)).mapM
        (Object.ofResource bucket)).mapError .decode
      pure ⟨results, (window store bucket query).filterMap Store.Entry.group?, following store bucket query⟩) :=
  rfl

theorem list_of_fits (fit : ∀ name object, store.find? bucket name = some object → object.Fits)
    (inRange : query.offset + query.pageSize < Width.bound 64) :
    list store bucket query = .finished (.ok ⟨(window store bucket query).filterMap (Store.Entry.object? bucket),
      (window store bucket query).filterMap Store.Entry.group?, following store bucket query⟩) := by
  have shownFit : ∀ name object, .item name object ∈ window store bucket query → object.Fits := by
    intro name object shown
    exact fit name object (Store.find?_of_mem_entries (List.mem_of_mem_drop (List.mem_of_mem_take shown)))
  rw [list_eq, if_neg (Nat.not_le.2 inRange), Store.Entry.objects_of_items bucket shownFit]
  rfl

theorem list_eq_finished {page : Page} (listed : list store bucket query = .finished (.ok page)) :
    query.offset + query.pageSize < Width.bound 64 ∧
      page.results.map Object.name = (window store bucket query).filterMap Store.Entry.name? ∧
      page.next = following store bucket query := by
  rw [list_eq] at listed
  split at listed
  · cases listed
  · rename_i inRange
    have decoded := Ended.finished.inj listed
    cases items : ((window store bucket query).filterMap (Store.Entry.item? bucket)).mapM (Object.ofResource bucket) with
    | error fault =>
        rw [items] at decoded
        cases decoded
    | ok objects =>
        rw [items] at decoded
        cases decoded
        refine ⟨Nat.not_le.1 inRange, ?_, rfl⟩
        rw [← Store.Entry.names_items bucket]
        exact Object.names_ofResources items

end Atomic

end ObjectStore
