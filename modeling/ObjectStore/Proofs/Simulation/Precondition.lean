import ObjectStore.Proofs.Simulation.Version

/-!
Generation preconditions are a compare-and-swap. An upload that carries one finishes only over that
generation, and since no generation is used twice, at most one such upload of an object ever does.
-/

namespace ObjectStore

namespace Store

def HasGeneration (store : Store) (bucket name : String) (generation : Int) : Prop :=
  if generation = 0 then store.find? bucket name = none
  else ∃ object, store.find? bucket name = some object ∧ (object.generation : Int) = generation

theorem Sound.admits_iff {store : Store} (sound : Sound store) {upload : PendingUpload}
    {generation : Int} (carried : upload.precondition = some generation) (bucket name : String) :
    PendingUpload.admits upload (store.generationOf bucket name) = true ↔
      HasGeneration store bucket name generation := by
  simp only [PendingUpload.admits, carried, beq_iff_eq, HasGeneration, generationOf]
  split
  · rename_i object found
    have positive := (sound.bounds bucket name object found).1
    split
    · constructor
      · intro same
        omega
      · intro absent
        rw [found] at absent
        cases absent
    · constructor
      · intro same
        exact ⟨object, found, same.symm⟩
      · rintro ⟨other, foundOther, same⟩
        rw [found] at foundOther
        cases foundOther
        exact same.symm
  · rename_i absent
    split
    · rename_i zero
      rw [zero]
      exact iff_of_true rfl absent
    · rename_i nonzero
      constructor
      · intro same
        exact absurd same nonzero
      · rintro ⟨object, found, _⟩
        rw [absent] at found
        cases found

theorem Change.removes {store after : Store} {now : Timestamp} {request : HttpRequest} {body : Bytes}
    {answer : Option HttpResponse} (change : Change store now request body answer after)
    {bucket name : String} {object : StoredObject} (present : store.find? bucket name = some object)
    (absent : after.find? bucket name = none) :
    request.route = .delete bucket name ∧ answer = some (.ofBytes Status.noContent .empty []) := by
  have kept : store.find? bucket name ≠ none := by
    rw [present]
    simp
  cases change with
  | quiet | opened => exact absurd absent kept
  | refused _ _ _ _ _ taken =>
      rw [find?_congr (takeUpload_objects taken).1] at absent
      exact absurd absent kept
  | written _ _ _ _ _ _ taken =>
      rw [find?_write] at absent
      split at absent
      · cases absent
      · rw [find?_congr (takeUpload_objects taken).1] at absent
        exact absurd absent kept
  | patched =>
      rw [find?_put] at absent
      split at absent
      · cases absent
      · exact absurd absent kept
  | removed otherBucket otherName _ route =>
      rw [find?_remove] at absent
      split at absent
      · rename_i same
        exact ⟨same.1 ▸ same.2 ▸ route, rfl⟩
      · exact absurd absent kept

end Store

namespace Simulation

/-- A request that sends contents to a session for an upload of this object under this precondition, and
the response to it. -/
structure Finishes (time : Timestamp) (happenings : List Happening) (request : HttpRequest)
    (bucket name : String) (precondition : Option Int) (response : HttpResponse) : Prop where
  sent : ∃ session, Sends request session ∧ OpenedIn time happenings session bucket name precondition
  answered : (transport request (after time happenings)).1 = .answer (.ok response)

section Finishes

variable {time : Timestamp} {happenings : List Happening} {request : HttpRequest}
  {bucket name : String} {precondition : Option Int} {response : HttpResponse}

theorem Finishes.cases (finishes : Finishes time happenings request bucket name precondition response) :
    (∃ (upload : PendingUpload) (contentType : String) (body : Bytes) (closed : Store),
      Concerns upload bucket name precondition ∧
      closed.objects = (after time happenings).store.objects ∧
      closed.nextGeneration = (after time happenings).store.nextGeneration ∧
      Store.PendingUpload.admits upload (closed.generationOf bucket name) = true ∧
      ((after time happenings).step (.request request)).store =
        (closed.write upload contentType body (after time happenings).clock.now).2 ∧
      response.status = Status.ok) ∨
    (∃ (upload : PendingUpload) (closed : Store), Concerns upload bucket name precondition ∧
      closed.objects = (after time happenings).store.objects ∧
      closed.nextGeneration = (after time happenings).store.nextGeneration ∧
      Store.PendingUpload.admits upload (closed.generationOf bucket name) = false ∧
      response.status = Status.preconditionFailed) ∨
    (Status.isSuccess response.status = false ∧ response.status ≠ Status.preconditionFailed) := by
  obtain ⟨session, sends, opened⟩ := finishes.sent
  obtain ⟨body, _, change⟩ := change_of_answered finishes.answered
  have isPut : request.method = .put := HttpRequest.method_of_route sends.route rfl
  have concerns {other : String} {upload : PendingUpload} {closed : Store}
      (named : request.parameters.get? "upload_id" = some other)
      (taken : (after time happenings).store.takeUpload other = some (upload, closed)) :
      Concerns upload bucket name precondition := by
    have sameSession : session = other := Option.some.inj (sends.named.symm.trans named)
    exact opened.concerns (sameSession ▸ taken)
  generalize stepped : ((after time happenings).step (.request request)).store = store at change
  cases change with
  | quiet harmless =>
      refine Or.inr (Or.inr ⟨?_, (harmless response rfl).1⟩)
      cases succeeded : Status.isSuccess response.status with
      | false => rfl
      | true =>
          have isGet := (harmless response rfl).2 succeeded
          rw [isPut] at isGet
          cases isGet
  | opened _ _ route => rw [sends.route] at route; cases route
  | refused _ upload _ _ named taken stale =>
      obtain ⟨sameObjects, sameNext⟩ := Store.takeUpload_objects taken
      obtain ⟨sameBucket, sameName, carried⟩ := concerns named taken
      rw [sameBucket, sameName] at stale
      exact Or.inr (Or.inl ⟨upload, store, ⟨sameBucket, sameName, carried⟩, sameObjects, sameNext, stale, rfl⟩)
  | written _ upload closed contentType _ named taken admitted =>
      obtain ⟨sameObjects, sameNext⟩ := Store.takeUpload_objects taken
      obtain ⟨sameBucket, sameName, carried⟩ := concerns named taken
      rw [sameBucket, sameName] at admitted
      exact Or.inl ⟨upload, contentType, body, closed, ⟨sameBucket, sameName, carried⟩, sameObjects, sameNext,
        admitted, rfl, rfl⟩
  | patched _ _ _ _ _ route => rw [sends.route] at route; cases route
  | removed _ _ _ route => rw [sends.route] at route; cases route

theorem hasGeneration_of_admits {upload : PendingUpload} {closed : Store} {generation : Int}
    (carried : upload.precondition = some generation)
    (sameObjects : closed.objects = (after time happenings).store.objects)
    (sameNext : closed.nextGeneration = (after time happenings).store.nextGeneration) :
    Store.PendingUpload.admits upload (closed.generationOf bucket name) = true ↔
      (after time happenings).store.HasGeneration bucket name generation := by
  have sound := (after_sound time happenings).congr sameObjects sameNext
  rw [sound.admits_iff carried, Store.HasGeneration, Store.HasGeneration, Store.find?_congr sameObjects]

theorem Finishes.swaps {generation : Int}
    (finishes : Finishes time happenings request bucket name (some generation) response)
    (succeeded : Status.isSuccess response.status = true) :
    (after time happenings).store.HasGeneration bucket name generation ∧
      ∃ object, ((after time happenings).step (.request request)).store.find? bucket name = some object ∧
        object.generation = (after time happenings).store.nextGeneration := by
  rcases finishes.cases with
    ⟨upload, contentType, body, closed, ⟨sameBucket, sameName, carried⟩, sameObjects, sameNext, admitted,
      written, _⟩ | ⟨_, _, _, _, _, _, refused⟩ | ⟨failed, _⟩
  · refine ⟨(hasGeneration_of_admits carried sameObjects sameNext).1 admitted,
      (closed.write upload contentType body (after time happenings).clock.now).1, ?_, ?_⟩
    · rw [written, Store.find?_write, if_pos ⟨sameBucket.symm, sameName.symm⟩]
    · rw [Store.generation_write, sameNext]
  · rw [refused] at succeeded
    cases succeeded
  · rw [failed] at succeeded
    cases succeeded

theorem Finishes.refused {generation : Int}
    (finishes : Finishes time happenings request bucket name (some generation) response)
    (refused : response.status = Status.preconditionFailed) :
    ¬(after time happenings).store.HasGeneration bucket name generation := by
  intro matching
  rcases finishes.cases with
    ⟨_, _, _, _, _, _, _, _, _, accepted⟩ |
    ⟨upload, closed, ⟨_, _, carried⟩, sameObjects, sameNext, stale, _⟩ | ⟨_, other⟩
  · rw [accepted] at refused
    cases refused
  · rw [(hasGeneration_of_admits carried sameObjects sameNext).2 matching] at stale
    cases stale
  · exact other refused

end Finishes

theorem exists_deletion {time : Timestamp} {earlier between : List Happening} {bucket name : String}
    {object : StoredObject} (present : (after time earlier).store.find? bucket name = some object)
    (absent : (after time (earlier ++ between)).store.find? bucket name = none) :
    ∃ before deletion rest response, between = before ++ .request deletion :: rest ∧
      deletion.method = .delete ∧ Targets time (earlier ++ before) deletion bucket name ∧
      (transport deletion (after time (earlier ++ before))).1 = .answer (.ok response) ∧
      Status.isSuccess response.status = true := by
  induction between generalizing earlier object with
  | nil =>
      rw [List.append_nil, present] at absent
      cases absent
  | cons happening rest ih =>
      rw [List.append_cons] at absent
      cases next : (after time (earlier ++ [happening])).store.find? bucket name with
      | some survivor =>
          obtain ⟨before, deletion, behind, response, split, found⟩ := ih next absent
          rw [List.append_assoc, List.singleton_append] at found
          exact ⟨happening :: before, deletion, behind, response, by rw [split]; rfl, found⟩
      | none =>
          rw [after_append, run_cons, run_nil] at next
          rcases step_cases (after time earlier) happening with
            same | ⟨request, body, answer, sent, _, change, replied⟩
          · rw [same, present] at next
            cases next
          · obtain ⟨route, answered⟩ := change.removes present next
            have isDelete : request.method = .delete := HttpRequest.method_of_route route rfl
            refine ⟨[], request, rest, .ofBytes Status.noContent .empty [], by rw [sent]; rfl, isDelete, ?_, ?_, ?_⟩
            · simpa only [Targets, isDelete] using Route.path_of_resource (Or.inr route)
            · rw [List.append_nil, replied, answered]
              rfl
            · rfl

/-- Preconditions compare and swap: step by step, and over a whole run. -/
theorem precondition_compares_and_swaps (time : Timestamp) (first between : List Happening)
    (upload other : HttpRequest) (bucket name : String) (generation : Int)
    (response answer : HttpResponse) :
    (Finishes time first upload bucket name (some generation) response →
      (Status.isSuccess response.status = true →
        (after time first).store.HasGeneration bucket name generation) ∧
      (response.status = Status.preconditionFailed →
        ¬(after time first).store.HasGeneration bucket name generation)) ∧
    (Finishes time first upload bucket name (some generation) response →
      Status.isSuccess response.status = true →
      Finishes time (first ++ .request upload :: between) other bucket name (some generation) answer →
      Status.isSuccess answer.status = true →
        generation = 0 ∧
        ∃ before deletion rest deleted, between = before ++ .request deletion :: rest ∧
          deletion.method = .delete ∧
          Targets time (first ++ .request upload :: before) deletion bucket name ∧
          (transport deletion (after time (first ++ .request upload :: before))).1 = .answer (.ok deleted) ∧
          Status.isSuccess deleted.status = true) := by
  refine ⟨fun finishes => ⟨fun succeeded => (finishes.swaps succeeded).1, finishes.refused⟩,
    fun finishes succeeded finishesAgain succeededAgain => ?_⟩
  obtain ⟨matching, object, found, fresh⟩ := finishes.swaps succeeded
  have matchingAgain := (finishesAgain.swaps succeededAgain).1
  have zero : generation = 0 := by
    -- The generation that the second upload found is older than the one that the first upload left.
    by_contra nonzero
    simp only [Store.HasGeneration, if_neg nonzero] at matching matchingAgain
    obtain ⟨old, foundOld, sameOld⟩ := matching
    obtain ⟨new, foundNew, sameNew⟩ := matchingAgain
    have bounds := (after_sound time first).bounds bucket name old foundOld
    rw [after_append, run_cons] at foundNew
    rcases (run_progress _ between).origin bucket name new foundNew with
      later | ⟨origin, foundOrigin, kept, _⟩
    · have next := (run_progress (after time first) [.request upload]).next
      rw [run_cons, run_nil] at next
      omega
    · rw [found] at foundOrigin
      cases foundOrigin
      have same := kept.generation
      omega
  refine ⟨zero, ?_⟩
  rw [Store.HasGeneration, if_pos zero, List.append_cons] at matchingAgain
  have present : (after time (first ++ [.request upload])).store.find? bucket name = some object := by
    rw [after_append, run_cons, run_nil, found]
  obtain ⟨before, deletion, rest, deleted, split, deletes⟩ := exists_deletion present matchingAgain
  rw [List.append_assoc, List.singleton_append] at deletes
  exact ⟨before, deletion, rest, deleted, split, deletes⟩

end Simulation

end ObjectStore
