import ObjectStore.Proofs.Simulation.Version

/-!
What a request may touch. A failure leaves every object as it was, and a success changes one object
only: the one that its path names, or the one that its upload session was opened for.
-/

namespace ObjectStore

namespace Store

section Change

variable {store after : Store} {now : Timestamp} {request : HttpRequest} {body : Bytes}
  {answer : Option HttpResponse}

theorem Change.objects_eq (change : Change store now request body answer after)
    (harmless : (∀ response, answer = some response → Status.isSuccess response.status = false) ∨
      request.method = .get ∨ request.method = .post) :
    after.objects = store.objects ∧ after.nextGeneration = store.nextGeneration := by
  have impossible {response : HttpResponse} {route : Route} {method : Method}
      (succeeded : Status.isSuccess response.status = true) (answered : answer = some response)
      (found : request.route = route) (reached : route.method? = some method)
      (writes : method ≠ .get ∧ method ≠ .post) : False := by
    have same := HttpRequest.method_of_route found reached
    rcases harmless with failed | isGet | isPost
    · rw [failed response answered] at succeeded
      cases succeeded
    · exact writes.1 (same.symm.trans isGet)
    · exact writes.2 (same.symm.trans isPost)
  cases change with
  | quiet | opened => exact ⟨rfl, rfl⟩
  | refused _ _ _ _ _ taken => exact takeUpload_objects taken
  | written _ _ _ _ route => exact (impossible rfl rfl route rfl (by simp)).elim
  | patched _ _ _ _ _ route => exact (impossible rfl rfl route rfl (by simp)).elim
  | removed _ _ _ route => exact (impossible rfl rfl route rfl (by simp)).elim

end Change

/-- One object differs between two stores, and no other. -/
def DiffersAt (before later : Store) (bucket name : String) : Prop :=
  later.find? bucket name ≠ before.find? bucket name ∧
    ∀ otherBucket otherName, ¬(otherBucket = bucket ∧ otherName = name) →
      later.find? otherBucket otherName = before.find? otherBucket otherName

theorem Sound.differsAt_write {store : Store} (sound : Sound store) (upload : PendingUpload)
    (contentType : String) (contents : Bytes) (now : Timestamp) :
    DiffersAt store (store.write upload contentType contents now).2 upload.bucket upload.resource.name := by
  constructor
  · intro same
    rw [find?_write, if_pos ⟨rfl, rfl⟩] at same
    have bounds := sound.bounds _ _ _ same.symm
    rw [generation_write] at bounds
    omega
  · intro otherBucket otherName differs
    rw [find?_write, if_neg differs]

theorem differsAt_patch {store : Store} {bucket name : String} {stored changed : StoredObject}
    (found : store.find? bucket name = some stored)
    (grown : changed.metageneration = stored.metageneration + 1) :
    DiffersAt store (store.put bucket name changed) bucket name := by
  constructor
  · intro same
    rw [find?_put, if_pos ⟨rfl, rfl⟩, found] at same
    rw [Option.some.inj same] at grown
    omega
  · intro otherBucket otherName differs
    rw [find?_put, if_neg differs]

theorem differsAt_remove {store : Store} {bucket name : String} {stored : StoredObject}
    (found : store.find? bucket name = some stored) :
    DiffersAt store (store.remove bucket name) bucket name := by
  constructor
  · intro same
    rw [find?_remove, if_pos ⟨rfl, rfl⟩, found] at same
    cases same
  · intro otherBucket otherName differs
    rw [find?_remove, if_neg differs]

end Store

namespace Simulation

theorem differsAt_of_success {time : Timestamp} {happenings : List Happening} {request : HttpRequest}
    {response : HttpResponse}
    (answered : (transport request (after time happenings)).1 = .answer (.ok response))
    (succeeded : Status.isSuccess response.status = true)
    (writes : request.method = .put ∨ request.method = .patch ∨ request.method = .delete) :
    ∃ bucket name, Targets time happenings request bucket name ∧
      Store.DiffersAt (after time happenings).store (transport request (after time happenings)).2.store
        bucket name := by
  obtain ⟨body, _, change⟩ := change_of_answered answered
  rw [step] at change
  generalize (transport request (after time happenings)).2.store = later at change ⊢
  cases change with
  | quiet harmless =>
      have isGet := (harmless response rfl).2 succeeded
      simp [isGet] at writes
  | opened bucket _ route =>
      have isPost := HttpRequest.method_of_route route rfl
      simp [isPost] at writes
  | refused => cases succeeded
  | written session upload closed contentType route named taken =>
      obtain ⟨sameObjects, sameNext⟩ := Store.takeUpload_objects taken
      have closedSound := (after_sound time happenings).congr sameObjects sameNext
      have opened := openedIn_of_get? (Store.takeUpload_eq_some taken).1
      have isPut := HttpRequest.method_of_route route rfl
      refine ⟨upload.bucket, upload.resource.name, ?_, ?_⟩
      · simp only [Targets, isPut]
        exact ⟨session, _, ⟨route, named⟩, opened⟩
      · have differs := closedSound.differsAt_write upload contentType body (after time happenings).clock.now
        rwa [Store.DiffersAt, Store.find?_congr sameObjects] at differs
  | patched bucket name stored changed _ route _ found accepted =>
      have isPatch := HttpRequest.method_of_route route rfl
      refine ⟨bucket, name, ?_, Store.differsAt_patch found (Store.patchObject_eq_ok accepted).2⟩
      simpa only [Targets, isPatch] using Route.path_of_resource (Or.inl route)
  | removed bucket name stored route found =>
      have isDelete := HttpRequest.method_of_route route rfl
      refine ⟨bucket, name, ?_, Store.differsAt_remove found⟩
      simpa only [Targets, isDelete] using Route.path_of_resource (Or.inr route)

/-- Failure atomicity, and the frame of every success. -/
theorem one_object_changes_or_none (time : Timestamp) (happenings : List Happening)
    (request : HttpRequest) :
    let before := (after time happenings).store
    let reply := (transport request (after time happenings)).1
    let later := (transport request (after time happenings)).2.store
    ((∀ response, reply = .answer (.ok response) → Status.isSuccess response.status = false) ∨
        request.method = .get ∨ request.method = .post →
      later.objects = before.objects ∧ later.nextGeneration = before.nextGeneration) ∧
    (∀ response, reply = .answer (.ok response) → Status.isSuccess response.status = true →
      request.method = .put ∨ request.method = .patch ∨ request.method = .delete →
      ∃ bucket name, Targets time happenings request bucket name ∧
        later.find? bucket name ≠ before.find? bucket name ∧
        ∀ otherBucket otherName, ¬(otherBucket = bucket ∧ otherName = name) →
          later.find? otherBucket otherName = before.find? otherBucket otherName) := by
  intro before reply later
  refine ⟨fun harmless => ?_, fun response answered succeeded writes => ?_⟩
  · rcases transport_cases request (after time happenings) with
      ⟨error, _, failed⟩ | ⟨body, answer, store, _, change, transported⟩
    · simp only [later, before, failed, and_self]
    · have unchanged := change.objects_eq (harmless.imp_left fun failed response answered => by
        exact failed response (by simp only [reply, transported, answered, Simulation.reply]))
      simpa only [later, before, transported] using unchanged
  · exact differsAt_of_success answered succeeded writes

end Simulation

end ObjectStore
