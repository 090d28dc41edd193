import ObjectStore.Proofs.Simulation.Session

/-!
Versions of objects. Generations are handed out once and metagenerations only grow, so that a version
never stands for two states of an object, even when the object was removed in between.
-/

namespace ObjectStore

namespace StoredObject

/-- The order of versions: by generation, then by metageneration. -/
def Precedes (old new : StoredObject) : Prop :=
  old.generation < new.generation ∨
    old.generation = new.generation ∧ old.metageneration < new.metageneration

structure Kept (old new : StoredObject) : Prop where
  generation : new.generation = old.generation
  contents : new.contents = old.contents
  created : new.created = old.created
  acl : new.acl = old.acl

theorem Kept.refl (object : StoredObject) : Kept object object :=
  ⟨rfl, rfl, rfl, rfl⟩

theorem Kept.trans {old middle new : StoredObject} (first : Kept old middle) (second : Kept middle new) :
    Kept old new :=
  ⟨second.generation.trans first.generation, second.contents.trans first.contents,
    second.created.trans first.created, second.acl.trans first.acl⟩

end StoredObject

namespace Store

open StoredObject (Kept Precedes)

/-! ### Patches -/

theorem changeField_kept {object changed : StoredObject} {change : String × Json.Value}
    (accepted : changeField object change = .ok changed) :
    Kept object changed ∧ changed.metageneration = object.metageneration := by
  have mapped {α : Type} {read : Except PatchFault α} {set : α → StoredObject}
      (done : read.map set = .ok changed)
      (keeps : ∀ value, Kept object (set value) ∧ (set value).metageneration = object.metageneration) :
      Kept object changed ∧ changed.metageneration = object.metageneration := by
    cases read with
    | error fault => cases done
    | ok value =>
        cases done
        exact keeps value
  unfold changeField at accepted
  dsimp only at accepted
  -- The four texts, then the metadata, then members that name no field.
  iterate 4
    split at accepted
    · exact mapped accepted fun _ => ⟨⟨rfl, rfl, rfl, rfl⟩, rfl⟩
  split at accepted
  · split at accepted
    · exact mapped accepted fun _ => ⟨⟨rfl, rfl, rfl, rfl⟩, rfl⟩
    · cases accepted
  · cases accepted
    exact ⟨Kept.refl _, rfl⟩

theorem changeFields_kept {changes : List (String × Json.Value)} {object changed : StoredObject}
    (accepted : changes.foldlM changeField object = .ok changed) :
    Kept object changed ∧ changed.metageneration = object.metageneration := by
  induction changes generalizing object with
  | nil =>
      cases accepted
      exact ⟨Kept.refl _, rfl⟩
  | cons change rest ih =>
      simp only [List.foldlM_cons, bind, Except.bind] at accepted
      split at accepted
      · cases accepted
      · rename_i middle first
        obtain ⟨keptFirst, sameFirst⟩ := changeField_kept first
        obtain ⟨keptRest, sameRest⟩ := ih accepted
        exact ⟨keptFirst.trans keptRest, sameRest.trans sameFirst⟩

theorem patchObject_eq_ok {object changed : StoredObject} {changes : List (String × Json.Value)}
    {now : Timestamp} (accepted : patchObject object changes now = .ok changed) :
    Kept object changed ∧ changed.metageneration = object.metageneration + 1 := by
  simp only [patchObject, bind, Except.bind, pure, Except.pure, throw, throwThe,
    MonadExceptOf.throw] at accepted
  split at accepted
  · cases accepted
  · rename_i middle folded
    obtain ⟨kept, same⟩ := changeFields_kept folded
    split at accepted
    · cases accepted
    · cases accepted
      exact ⟨⟨kept.generation, kept.contents, kept.created, kept.acl⟩, by rw [← same]⟩

/-! ### Writes -/

section Write

variable (store : Store) (upload : PendingUpload) (contentType : String) (contents : Bytes)
  (now : Timestamp)

@[simp] theorem find?_write (bucket name : String) :
    (store.write upload contentType contents now).2.find? bucket name =
      if bucket = upload.bucket ∧ name = upload.resource.name then
        some (store.write upload contentType contents now).1
      else store.find? bucket name := by
  simp [write]

@[simp] theorem nextGeneration_write :
    (store.write upload contentType contents now).2.nextGeneration = store.nextGeneration + 1 :=
  rfl

@[simp] theorem generation_write :
    (store.write upload contentType contents now).1.generation = store.nextGeneration :=
  rfl

@[simp] theorem metageneration_write :
    (store.write upload contentType contents now).1.metageneration = 1 :=
  rfl

end Write

/-! ### What holds at every point -/

structure Sound (store : Store) : Prop where
  bounds : ∀ bucket name object, store.find? bucket name = some object →
    1 ≤ object.generation ∧ object.generation < store.nextGeneration ∧ 1 ≤ object.metageneration
  distinct : ∀ bucket name object otherBucket otherName other,
    store.find? bucket name = some object → store.find? otherBucket otherName = some other →
      object.generation = other.generation → otherBucket = bucket ∧ otherName = name
  positive : 1 ≤ store.nextGeneration

theorem start_sound : Sound start :=
  ⟨fun _ _ _ found => (by cases found), fun _ _ _ _ _ _ found => (by cases found), Nat.le_refl _⟩

theorem find?_congr {store other : Store} (objects : other.objects = store.objects) :
    other.find? = store.find? := by
  funext bucket name
  simp [find?, Store.bucket, objects]

theorem Sound.congr {store other : Store} (sound : Sound store) (objects : other.objects = store.objects)
    (next : other.nextGeneration = store.nextGeneration) : Sound other := by
  constructor
  · rw [find?_congr objects, next]
    exact sound.bounds
  · rw [find?_congr objects]
    exact sound.distinct
  · rw [next]
    exact sound.positive

theorem Sound.write {store : Store} (sound : Sound store) (upload : PendingUpload) (contentType : String)
    (contents : Bytes) (now : Timestamp) : Sound (store.write upload contentType contents now).2 := by
  constructor
  · intro bucket name object found
    rw [find?_write] at found
    split at found
    · cases found
      have := sound.positive
      simp only [generation_write, nextGeneration_write, metageneration_write]
      omega
    · have := sound.bounds bucket name object found
      rw [nextGeneration_write]
      omega
  · intro bucket name object otherBucket otherName other found otherFound same
    rw [find?_write] at found otherFound
    split at found <;> split at otherFound
    · rename_i here there
      exact ⟨there.1.trans here.1.symm, there.2.trans here.2.symm⟩
    · cases found
      have := sound.bounds _ _ _ otherFound
      simp only [generation_write] at same
      omega
    · cases otherFound
      have := sound.bounds _ _ _ found
      simp only [generation_write] at same
      omega
    · exact sound.distinct _ _ _ _ _ _ found otherFound same
  · rw [nextGeneration_write]
    omega

theorem Sound.patch {store : Store} (sound : Sound store) {bucket name : String}
    {stored changed : StoredObject} (found : store.find? bucket name = some stored)
    (sameGeneration : changed.generation = stored.generation)
    (grown : stored.metageneration ≤ changed.metageneration) : Sound (store.put bucket name changed) := by
  have origin {queryBucket queryName : String} {object : StoredObject}
      (present : (store.put bucket name changed).find? queryBucket queryName = some object) :
      ∃ old, store.find? queryBucket queryName = some old ∧ object.generation = old.generation ∧
        old.metageneration ≤ object.metageneration := by
    rw [find?_put] at present
    split at present
    · rename_i here
      cases present
      exact ⟨stored, by rw [here.1, here.2, found], sameGeneration, grown⟩
    · exact ⟨object, present, rfl, Nat.le_refl _⟩
  constructor
  · intro queryBucket queryName object present
    obtain ⟨old, before, same, le⟩ := origin present
    have := sound.bounds _ _ _ before
    change 1 ≤ object.generation ∧ object.generation < store.nextGeneration ∧ _
    omega
  · intro queryBucket queryName object otherBucket otherName other present otherPresent same
    obtain ⟨old, before, oldSame, _⟩ := origin present
    obtain ⟨otherOld, otherBefore, otherSame, _⟩ := origin otherPresent
    exact sound.distinct _ _ _ _ _ _ before otherBefore (by omega)
  · exact sound.positive

theorem Sound.remove {store : Store} (sound : Sound store) (bucket name : String) :
    Sound (store.remove bucket name) := by
  have origin {queryBucket queryName : String} {object : StoredObject}
      (present : (store.remove bucket name).find? queryBucket queryName = some object) :
      store.find? queryBucket queryName = some object := by
    rw [find?_remove] at present
    split at present
    · cases present
    · exact present
  exact ⟨fun _ _ _ present => sound.bounds _ _ _ (origin present),
    fun _ _ _ _ _ _ present otherPresent => sound.distinct _ _ _ _ _ _ (origin present) (origin otherPresent),
    sound.positive⟩

theorem Sound.change {store after : Store} {now : Timestamp} {request : HttpRequest} {body : Bytes}
    {answer : Option HttpResponse} (sound : Sound store)
    (change : Change store now request body answer after) : Sound after := by
  cases change with
  | quiet => exact sound
  | opened => exact sound.congr rfl rfl
  | refused _ _ _ _ _ taken =>
      rw [(takeUpload_eq_some taken).2]
      exact sound.congr rfl rfl
  | written _ upload _ contentType _ _ taken =>
      apply Sound.write
      rw [(takeUpload_eq_some taken).2]
      exact sound.congr rfl rfl
  | patched _ _ _ _ _ _ _ found accepted =>
      obtain ⟨kept, grown⟩ := patchObject_eq_ok accepted
      exact sound.patch found kept.generation (by omega)
  | removed bucket name => exact sound.remove bucket name

end Store

namespace Store

open StoredObject (Kept Precedes)

/-! ### From one point to a later one -/

/-- A later object is the earlier one, a later version of it, or of a generation that was still free. -/
structure Progress (earlier later : Store) : Prop where
  next : earlier.nextGeneration ≤ later.nextGeneration
  origin : ∀ bucket name new, later.find? bucket name = some new →
    earlier.nextGeneration ≤ new.generation ∨
      ∃ old, earlier.find? bucket name = some old ∧ Kept old new ∧
        (new = old ∨ old.metageneration < new.metageneration)

theorem Progress.refl (store : Store) : Progress store store :=
  ⟨Nat.le_refl _, fun _ _ new found => Or.inr ⟨new, found, Kept.refl new, Or.inl rfl⟩⟩

theorem Progress.trans {first second third : Store} (early : Progress first second)
    (late : Progress second third) : Progress first third := by
  refine ⟨Nat.le_trans early.next late.next, fun bucket name new found => ?_⟩
  rcases late.origin bucket name new found with fresh | ⟨middle, foundMiddle, keptLate, grownLate⟩
  · exact Or.inl (Nat.le_trans early.next fresh)
  · rcases early.origin bucket name middle foundMiddle with fresh | ⟨old, foundOld, keptEarly, grownEarly⟩
    · exact Or.inl (keptLate.generation ▸ fresh)
    · refine Or.inr ⟨old, foundOld, keptEarly.trans keptLate, ?_⟩
      rcases grownLate with rfl | grownLate
      · exact grownEarly
      · rcases grownEarly with rfl | grownEarly
        · exact Or.inr grownLate
        · exact Or.inr (Nat.lt_trans grownEarly grownLate)

theorem Progress.congr {earlier later same : Store} (progress : Progress earlier later)
    (objects : earlier.objects = same.objects) (next : earlier.nextGeneration = same.nextGeneration) :
    Progress same later := by
  constructor
  · exact next ▸ progress.next
  · rw [← find?_congr objects, ← next]
    exact progress.origin

theorem Progress.of_same {earlier later : Store} (objects : later.objects = earlier.objects)
    (next : later.nextGeneration = earlier.nextGeneration) : Progress earlier later :=
  (Progress.refl later).congr objects next

theorem Progress.write (store : Store) (upload : PendingUpload) (contentType : String)
    (contents : Bytes) (now : Timestamp) :
    Progress store (store.write upload contentType contents now).2 := by
  refine ⟨Nat.le_succ _, fun bucket name new found => ?_⟩
  rw [find?_write] at found
  split at found
  · cases found
    exact Or.inl (Nat.le_refl _)
  · exact Or.inr ⟨new, found, Kept.refl new, Or.inl rfl⟩

theorem Progress.patch {store : Store} {bucket name : String} {stored changed : StoredObject}
    (found : store.find? bucket name = some stored) (kept : Kept stored changed)
    (grown : stored.metageneration < changed.metageneration) :
    Progress store (store.put bucket name changed) := by
  refine ⟨Nat.le_refl _, fun queryBucket queryName new present => Or.inr ?_⟩
  rw [find?_put] at present
  split at present
  · rename_i here
    cases present
    exact ⟨stored, by rw [here.1, here.2, found], kept, Or.inr grown⟩
  · exact ⟨new, present, Kept.refl new, Or.inl rfl⟩

theorem Progress.remove (store : Store) (bucket name : String) :
    Progress store (store.remove bucket name) := by
  refine ⟨Nat.le_refl _, fun queryBucket queryName new present => Or.inr ?_⟩
  rw [find?_remove] at present
  split at present
  · cases present
  · exact ⟨new, present, Kept.refl new, Or.inl rfl⟩

theorem Change.progress {store after : Store} {now : Timestamp} {request : HttpRequest} {body : Bytes}
    {answer : Option HttpResponse} (change : Change store now request body answer after) :
    Progress store after := by
  cases change with
  | quiet => exact Progress.refl store
  | opened => exact Progress.of_same rfl rfl
  | refused _ _ _ _ _ taken =>
      exact Progress.of_same (takeUpload_objects taken).1 (takeUpload_objects taken).2
  | written _ _ _ _ _ _ taken =>
      exact (Progress.write ..).congr (takeUpload_objects taken).1 (takeUpload_objects taken).2
  | patched _ _ _ _ _ _ _ found accepted =>
      obtain ⟨kept, grown⟩ := patchObject_eq_ok accepted
      exact Progress.patch found kept (by omega)
  | removed bucket name => exact Progress.remove store bucket name

section Progress

variable {earlier later : Store} {bucket name : String} {old new : StoredObject}

theorem Progress.eq_or_precedes (progress : Progress earlier later) (sound : Sound earlier)
    (before : earlier.find? bucket name = some old) (now : later.find? bucket name = some new) :
    new = old ∨ Precedes old new := by
  rcases progress.origin bucket name new now with fresh | ⟨origin, found, kept, grown⟩
  · have bounds := sound.bounds bucket name old before
    exact Or.inr (Or.inl (by omega))
  · rw [before] at found
    cases found
    exact grown.imp_right fun less => Or.inr ⟨kept.generation.symm, less⟩

theorem Progress.kept (progress : Progress earlier later) (sound : Sound earlier)
    (before : earlier.find? bucket name = some old) (now : later.find? bucket name = some new)
    (same : old.generation = new.generation) : Kept old new := by
  rcases progress.origin bucket name new now with fresh | ⟨origin, found, kept, _⟩
  · have bounds := sound.bounds bucket name old before
    omega
  · rw [before] at found
    cases found
    exact kept

theorem Progress.fresh_of_absent (progress : Progress earlier later)
    (absent : earlier.find? bucket name = none) (now : later.find? bucket name = some new) :
    earlier.nextGeneration ≤ new.generation := by
  rcases progress.origin bucket name new now with fresh | ⟨origin, found, _, _⟩
  · exact fresh
  · rw [absent] at found
    cases found

end Progress

end Store

namespace Simulation

theorem after_sound (time : Timestamp) (happenings : List Happening) :
    Store.Sound (after time happenings).store := by
  refine run_induction (fun simulation => Store.Sound simulation.store) ?_ _ _ Store.start_sound
  intro simulation happening sound
  rcases step_cases simulation happening with same | ⟨request, body, answer, _, _, change, _⟩
  · exact same ▸ sound
  · exact sound.change change

theorem run_progress (simulation : Simulation) (happenings : List Happening) :
    Store.Progress simulation.store (simulation.run happenings).store := by
  refine run_induction (fun later => Store.Progress simulation.store later.store) ?_ _ _
    (Store.Progress.refl _)
  intro later happening progress
  rcases step_cases later happening with same | ⟨request, body, answer, _, _, change, _⟩
  · exact same ▸ progress
  · exact progress.trans change.progress

open StoredObject (Kept Precedes)

/-! ### Writes and counters -/

theorem precedes_of_write {time : Timestamp} {happenings : List Happening} {request : HttpRequest}
    {response : HttpResponse} {bucket name : String} {old new : StoredObject}
    (targets : Targets time happenings request bucket name)
    (answered : (transport request (after time happenings)).1 = .answer (.ok response))
    (succeeded : Status.isSuccess response.status = true)
    (before : (after time happenings).store.find? bucket name = some old)
    (now : ((after time happenings).step (.request request)).store.find? bucket name = some new) :
    Precedes old new := by
  obtain ⟨body, _, change⟩ := change_of_answered answered
  generalize ((after time happenings).step (.request request)).store = later at change now
  cases change with
  | quiet harmless =>
      have isGet := (harmless response rfl).2 succeeded
      simp [Targets, isGet] at targets
  | opened _ _ route => simp [Targets, HttpRequest.method_of_route route rfl] at targets
  | refused => cases succeeded
  | written session upload closed contentType route named taken =>
      simp only [Targets, HttpRequest.method_of_route route rfl] at targets
      obtain ⟨other, precondition, sends, opened⟩ := targets
      have sameSession : other = session := Option.some.inj (sends.named.symm.trans named)
      subst sameSession
      obtain ⟨sameBucket, sameName, _⟩ := opened.concerns taken
      rw [Store.find?_write, if_pos ⟨sameBucket.symm, sameName.symm⟩] at now
      cases now
      have bounds := (after_sound time happenings).bounds _ _ _ before
      have next := (Store.takeUpload_objects taken).2
      left
      rw [Store.generation_write]
      omega
  | patched otherBucket otherName stored changed _ route _ found accepted =>
      simp only [Targets, HttpRequest.method_of_route route rfl] at targets
      have path := (Route.path_of_resource (Or.inl route)).2
      rw [targets.2] at path
      simp only [Option.some.injEq, List.cons.injEq, and_true, true_and] at path
      obtain ⟨kept, grown⟩ := Store.patchObject_eq_ok accepted
      rw [path.1, path.2, found] at before
      rw [path.1, path.2, Store.find?_put, if_pos ⟨rfl, rfl⟩] at now
      cases before
      cases now
      exact Or.inr ⟨kept.generation.symm, by omega⟩
  | removed otherBucket otherName stored route =>
      simp only [Targets, HttpRequest.method_of_route route rfl] at targets
      have path := (Route.path_of_resource (Or.inr route)).2
      rw [targets.2] at path
      simp only [Option.some.injEq, List.cons.injEq, and_true, true_and] at path
      rw [path.1, path.2, Store.find?_remove, if_pos ⟨rfl, rfl⟩] at now
      cases now

def requestCount : List Happening → Nat
  | [] => 0
  | .request _ :: rest => requestCount rest + 1
  | _ :: rest => requestCount rest

structure Counted (count : Nat) (store : Store) : Prop where
  total : store.nextGeneration + store.nextUpload ≤ count + 1
  untouched : store.nextUpload = 0 →
    store.nextGeneration = 1 ∧ ∀ session, store.uploads.get? session = none
  metagenerations : ∀ bucket name object, store.find? bucket name = some object →
    object.metageneration ≤ count

theorem Counted.start : Counted 0 Store.start :=
  ⟨Nat.le_refl _, fun _ => ⟨rfl, fun _ => rfl⟩, fun _ _ _ found => by cases found⟩

theorem Counted.weaken {count : Nat} {store : Store} (counted : Counted count store) :
    Counted (count + 1) store :=
  ⟨Nat.le_succ_of_le counted.total, counted.untouched,
    fun bucket name object found => Nat.le_succ_of_le (counted.metagenerations bucket name object found)⟩

theorem Counted.closed {count : Nat} {store closed : Store} (counted : Counted count store)
    {session : String} {upload : PendingUpload} (taken : store.takeUpload session = some (upload, closed)) :
    Counted count closed ∧ closed.nextUpload ≠ 0 := by
  obtain ⟨pending, same⟩ := Store.takeUpload_eq_some taken
  have touched : store.nextUpload ≠ 0 := by
    intro zero
    have empty := (counted.untouched zero).2 session
    rw [pending] at empty
    cases empty
  subst same
  exact ⟨⟨counted.total, fun zero => (touched zero).elim, counted.metagenerations⟩, touched⟩

theorem Counted.change {count : Nat} {store later : Store} (counted : Counted count store)
    {now : Timestamp} {request : HttpRequest} {body : Bytes}
    {answer : Option HttpResponse} (change : Store.Change store now request body answer later) :
    Counted (count + 1) later := by
  cases change with
  | quiet => exact counted.weaken
  | opened =>
      refine ⟨?_, fun zero => ?_, counted.weaken.metagenerations⟩
      · have total := counted.total
        simp only [Store.announce]
        omega
      · simp [Store.announce] at zero
  | refused _ _ _ _ _ taken => exact (counted.closed taken).1.weaken
  | written _ upload closed contentType _ _ taken =>
      obtain ⟨closedCounted, touched⟩ := counted.closed taken
      have total := closedCounted.total
      refine ⟨?_, fun zero => (touched zero).elim, fun bucket name object found => ?_⟩
      · change closed.nextGeneration + 1 + closed.nextUpload ≤ count + 1 + 1
        omega
      · rw [Store.find?_write] at found
        split at found
        · cases found
          rw [Store.metageneration_write]
          omega
        · exact closedCounted.weaken.metagenerations bucket name object found
  | patched bucket name stored changed _ _ _ found accepted =>
      obtain ⟨_, grown⟩ := Store.patchObject_eq_ok accepted
      refine ⟨counted.weaken.total, counted.weaken.untouched, fun queryBucket queryName object present => ?_⟩
      rw [Store.find?_put] at present
      split at present
      · cases present
        have bound := counted.metagenerations bucket name stored found
        omega
      · exact counted.weaken.metagenerations queryBucket queryName object present
  | removed bucket name =>
      refine ⟨counted.weaken.total, counted.weaken.untouched, fun queryBucket queryName object present => ?_⟩
      rw [Store.find?_remove] at present
      split at present
      · cases present
      · exact counted.weaken.metagenerations queryBucket queryName object present

theorem run_counted {count : Nat} {simulation : Simulation} (counted : Counted count simulation.store)
    (happenings : List Happening) :
    Counted (count + requestCount happenings) (simulation.run happenings).store := by
  induction happenings generalizing count simulation with
  | nil => exact counted
  | cons happening rest ih =>
      rw [run_cons]
      rcases step_cases simulation happening with same | ⟨request, body, answer, sent, _, change, _⟩
      · cases happening with
        | request =>
            have counted := ih (same ▸ counted.weaken)
            rwa [Nat.add_right_comm] at counted
        | advance | setTime => exact ih (same ▸ counted)
      · subst sent
        have counted := ih (counted.change change)
        rwa [Nat.add_right_comm] at counted

theorem Counted.fits {count : Nat} {store : Store} (counted : Counted count store)
    (sound : Store.Sound store) (few : count < Width.bound 63) :
    Width.fitsSigned 64 store.nextGeneration = true ∧
      ∀ bucket name object, store.find? bucket name = some object →
        Width.fitsSigned 64 object.generation = true ∧
          Width.fitsSigned 64 object.metageneration = true := by
  have fits {number : Nat} (small : number < Width.bound 63) : Width.fitsSigned 64 number = true := by
    have bound : Width.bound (64 - 1) = Width.bound 63 := rfl
    simp only [Width.fitsSigned, bound, Bool.and_eq_true]
    exact ⟨decide_eq_true (by omega), decide_eq_true (by omega)⟩
  have next : store.nextGeneration < Width.bound 63 := by
    have total := counted.total
    by_cases untouched : store.nextUpload = 0
    · rw [(counted.untouched untouched).1]
      decide
    · omega
  refine ⟨fits next, fun bucket name object found => ⟨fits ?_, fits ?_⟩⟩
  · exact Nat.lt_trans (sound.bounds bucket name object found).2.1 next
  · exact Nat.lt_of_le_of_lt (counted.metagenerations bucket name object found) few

/-- Versions identify states. The numbers of a version stay below the first one that 63 bits do not
hold as long as there are fewer requests than that. -/
theorem versions_identify_states (time : Timestamp) (earlier later : List Happening) :
    let before := (after time earlier).store
    let now := (after time (earlier ++ later)).store
    (∀ bucket name object, before.find? bucket name = some object →
      1 ≤ object.generation ∧ object.generation < before.nextGeneration ∧ 1 ≤ object.metageneration) ∧
    (∀ bucket name object otherBucket otherName other,
      before.find? bucket name = some object → before.find? otherBucket otherName = some other →
        object.generation = other.generation → otherBucket = bucket ∧ otherName = name) ∧
    (∀ bucket name old new,
      before.find? bucket name = some old → now.find? bucket name = some new →
        (new = old ∨ Precedes old new) ∧
        (new.generation = old.generation → new.metageneration = old.metageneration → new = old) ∧
        (new.generation = old.generation →
          new.contents = old.contents ∧ new.created = old.created ∧ new.acl = old.acl) ∧
        (∀ middle rest, later = middle ++ rest →
          (after time (earlier ++ middle)).store.find? bucket name = none →
            old.generation < new.generation)) ∧
    (∀ request response bucket name old new, Targets time earlier request bucket name →
      (transport request (after time earlier)).1 = .answer (.ok response) →
      Status.isSuccess response.status = true → before.find? bucket name = some old →
      (after time (earlier ++ [.request request])).store.find? bucket name = some new →
        Precedes old new) ∧
    (requestCount earlier < Width.bound 63 → Width.fitsSigned 64 before.nextGeneration = true ∧
      ∀ bucket name object, before.find? bucket name = some object →
        Width.fitsSigned 64 object.generation = true ∧
          Width.fitsSigned 64 object.metageneration = true) := by
  intro before now
  have sound : Store.Sound before := after_sound time earlier
  have progress : Store.Progress before now := by
    simpa only [now, after_append] using run_progress (after time earlier) later
  refine ⟨sound.bounds, sound.distinct, fun bucket name old new found foundNew => ?_,
    fun request response bucket name old new targets answered succeeded found foundNew => ?_, fun few => ?_⟩
  · have ordered := progress.eq_or_precedes sound found foundNew
    refine ⟨ordered, fun sameGeneration sameMetageneration => ?_, fun same => ?_,
      fun middle rest split absent => ?_⟩
    · rcases ordered with same | less | ⟨_, less⟩
      · exact same
      · omega
      · omega
    · have kept := progress.kept sound found foundNew same.symm
      exact ⟨kept.contents, kept.created, kept.acl⟩
    · have split : now = ((after time (earlier ++ middle)).run rest).store := by
        simp only [now, split, ← List.append_assoc, after_append]
      have fresh := (run_progress (after time (earlier ++ middle)) rest).fresh_of_absent absent
        (split ▸ foundNew)
      have grown : before.nextGeneration ≤ (after time (earlier ++ middle)).store.nextGeneration := by
        simpa only [after_append] using (run_progress (after time earlier) middle).next
      have bounds := sound.bounds bucket name old found
      omega
  · exact precedes_of_write targets answered succeeded found (by simpa [after_append] using foundNew)
  · have counted : Counted (0 + requestCount earlier) before := run_counted Counted.start earlier
    rw [Nat.zero_add] at counted
    exact counted.fits sound few

end Simulation

end ObjectStore
