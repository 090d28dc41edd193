import ObjectStore.Proofs.Atomic.Operated
import ObjectStore.Proofs.Atomic.Paging
import ObjectStore.Proofs.Atomic.RoundTrip

/-!
Updates of one object by several writers. Those that change different texts and different metadata keys all
succeed and all last, in whichever order they come and whatever else happens in between.
-/

namespace ObjectStore

open Url (IsPlaceName)

/-! ### What an update is about -/

inductive TextField where
  | contentType
  | contentEncoding
  | contentLanguage
  | cacheControl

def StoredObject.text (object : StoredObject) : TextField → String
  | .contentType => object.contentType
  | .contentEncoding => object.contentEncoding
  | .contentLanguage => object.contentLanguage
  | .cacheControl => object.cacheControl

namespace UpdateRequest

def text (update : UpdateRequest) : TextField → FieldUpdate
  | .contentType => update.contentType
  | .contentEncoding => update.contentEncoding
  | .contentLanguage => update.contentLanguage
  | .cacheControl => update.cacheControl

def key? (update : UpdateRequest) (key : String) : Option (Option String) :=
  update.metadata.bind fun changes => changes.get? key

structure Apart (left right : UpdateRequest) : Prop where
  texts : ∀ field, left.text field = .keep ∨ right.text field = .keep
  keys : ∀ key, left.key? key = none ∨ right.key? key = none

theorem Apart.symm {left right : UpdateRequest} (apart : left.Apart right) : right.Apart left :=
  ⟨fun field => (apart.texts field).symm, fun key => (apart.keys key).symm⟩

def RemovesContentType (update : UpdateRequest) : Prop :=
  update.contentType = .clear ∨ update.contentType = .set ""

end UpdateRequest

namespace Atomic

theorem update_found {store : Store} {now : Timestamp} {bucket : String} {request : UpdateRequest}
    (checked : checkSegmentName request.name = .ok ()) {object : StoredObject}
    (found : store.find? bucket request.name = some object) (typed : (applyUpdate request object).contentType ≠ "") :
    update store now bucket request = (view bucket request.name (updated request object now),
      store.put bucket request.name (updated request object now)) := by
  simp only [update, checkName, checked, found, Except.mapError, if_neg typed]

theorem text_updated (update : UpdateRequest) (object : StoredObject) (now : Timestamp) (field : TextField) :
    (updated update object now).text field = applyField (update.text field) (object.text field) := by
  cases field <;> rfl

theorem get?_applyChange (metadata : Dictionary String) (change : String × Option String) (key : String) :
    (applyChange metadata change).get? key = if key = change.1 then change.2 else metadata.get? key := by
  obtain ⟨changed, value⟩ := change
  cases value with
  | none => exact Dictionary.get?_erase metadata changed key
  | some value => exact Dictionary.get?_insert metadata changed key value

theorem get?_foldl_applyChange {changes : List (String × Option String)} (ascending : Entries.Ascending changes)
    (metadata : Dictionary String) (key : String) :
    (changes.foldl applyChange metadata).get? key = (changes.lookup key).getD (metadata.get? key) := by
  induction changes generalizing metadata with
  | nil => rfl
  | cons change rest ih =>
      obtain ⟨changed, value⟩ := change
      obtain ⟨below, restAscending⟩ := List.pairwise_cons.1 ascending
      rw [List.foldl_cons, ih restAscending, get?_applyChange, Entries.lookup_cons]
      by_cases same : key = changed
      · -- The keys that follow are greater, so that none of them is changed again.
        have absent : rest.lookup key = none := by
          cases found : rest.lookup key with
          | none => rfl
          | some other =>
              obtain ⟨before, behind, split, _⟩ := Entries.lookup_split found restAscending
              have greater : changed < key := below (key, other) (by simp [split])
              rw [same] at greater
              exact absurd greater (String.lt_irrefl changed)
        rw [absent, if_pos same, if_pos same]
        rfl
      · rw [if_neg same, if_neg same]

theorem get?_updated (update : UpdateRequest) (object : StoredObject) (now : Timestamp) (key : String) :
    (updated update object now).metadata.get? key = (update.key? key).getD (object.metadata.get? key) := by
  cases named : update.metadata with
  | none => simp only [updated, applyUpdate, UpdateRequest.key?, named, Option.bind_none, Option.getD_none]
  | some changes =>
      simp only [updated, applyUpdate, UpdateRequest.key?, named, Option.bind_some]
      exact get?_foldl_applyChange changes.ascending object.metadata key

theorem contentType_updated {update : UpdateRequest} (keeps : ¬update.RemovesContentType) {object : StoredObject}
    (present : object.contentType ≠ "") (now : Timestamp) : (updated update object now).contentType ≠ "" := by
  have applied : (updated update object now).contentType = applyField update.contentType object.contentType := rfl
  rw [applied]
  cases change : update.contentType with
  | keep => exact present
  | clear => exact absurd (.inl change) keeps
  | set value =>
      rintro rfl
      exact keeps (.inr change)

end Atomic

/-! ### What updates leave -/

structure Reflects (updates : List UpdateRequest) (old new : StoredObject) : Prop where
  set : ∀ update ∈ updates, ∀ field value, update.text field = .set value → new.text field = value
  cleared : ∀ update ∈ updates, ∀ field, update.text field = .clear → new.text field = ""
  kept : ∀ field, (∀ update ∈ updates, update.text field = .keep) → new.text field = old.text field
  changed : ∀ update ∈ updates, ∀ key value, update.key? key = some value → new.metadata.get? key = value
  untouched : ∀ key, (∀ update ∈ updates, update.key? key = none) →
    new.metadata.get? key = old.metadata.get? key

namespace Reflects

variable {updates rest : List UpdateRequest} {first : UpdateRequest} {old middle new other : StoredObject}

theorem nil (object : StoredObject) : Reflects [] object object := by
  constructor
  case set => exact fun update member => absurd member List.not_mem_nil
  case cleared => exact fun update member => absurd member List.not_mem_nil
  case kept => exact fun field _ => rfl
  case changed => exact fun update member => absurd member List.not_mem_nil
  case untouched => exact fun key _ => rfl

theorem cons (apart : ∀ update ∈ rest, first.Apart update)
    (texts : ∀ field, middle.text field = Atomic.applyField (first.text field) (old.text field))
    (keys : ∀ key, middle.metadata.get? key = (first.key? key).getD (old.metadata.get? key))
    (reflects : Reflects rest middle new) : Reflects (first :: rest) old new := by
  have textLasts {field : TextField} (touched : first.text field ≠ .keep) : new.text field = middle.text field := by
    apply reflects.kept
    intro update member
    exact ((apart update member).texts field).resolve_left touched
  constructor
  case set =>
    intro update member field value isSet
    rcases List.mem_cons.1 member with rfl | inRest
    · rw [textLasts (by simp [isSet]), texts, isSet]
      rfl
    · exact reflects.set update inRest field value isSet
  case cleared =>
    intro update member field isCleared
    rcases List.mem_cons.1 member with rfl | inRest
    · rw [textLasts (by simp [isCleared]), texts, isCleared]
      rfl
    · exact reflects.cleared update inRest field isCleared
  case kept =>
    intro field untouched
    obtain ⟨byFirst, byRest⟩ := List.forall_mem_cons.1 untouched
    rw [reflects.kept field byRest, texts, byFirst]
    rfl
  case changed =>
    intro update member key value isChanged
    rcases List.mem_cons.1 member with rfl | inRest
    · have lasts : new.metadata.get? key = middle.metadata.get? key := by
        apply reflects.untouched
        intro other inRest
        exact ((apart other inRest).keys key).resolve_left (by simp [isChanged])
      rw [lasts, keys, isChanged, Option.getD_some]
    · exact reflects.changed update inRest key value isChanged
  case untouched =>
    intro key unnamed
    obtain ⟨byFirst, byRest⟩ := List.forall_mem_cons.1 unnamed
    rw [reflects.untouched key byRest, keys, byFirst, Option.getD_none]

theorem perm {order : List UpdateRequest} (same : order.Perm updates) (reflects : Reflects order old new) :
    Reflects updates old new := by
  constructor
  case set => exact fun update member => reflects.set update (same.mem_iff.2 member)
  case cleared => exact fun update member => reflects.cleared update (same.mem_iff.2 member)
  case kept => exact fun field keep => reflects.kept field fun update member => keep update (same.mem_iff.1 member)
  case changed => exact fun update member => reflects.changed update (same.mem_iff.2 member)
  case untouched =>
    exact fun key unnamed => reflects.untouched key fun update member => unnamed update (same.mem_iff.1 member)

theorem unique (reflects : Reflects updates old new) (others : Reflects updates old other) :
    (∀ field, new.text field = other.text field) ∧ new.metadata = other.metadata := by
  constructor
  · intro field
    by_cases untouched : ∀ update ∈ updates, update.text field = .keep
    · rw [reflects.kept field untouched, others.kept field untouched]
    · push Not at untouched
      obtain ⟨update, member, touched⟩ := untouched
      cases change : update.text field with
      | keep => exact absurd change touched
      | clear => rw [reflects.cleared update member field change, others.cleared update member field change]
      | set value => rw [reflects.set update member field value change, others.set update member field value change]
  · apply Dictionary.ext_get?
    intro key
    by_cases unnamed : ∀ update ∈ updates, update.key? key = none
    · rw [reflects.untouched key unnamed, others.untouched key unnamed]
    · push Not at unnamed
      obtain ⟨update, member, named⟩ := unnamed
      obtain ⟨value, change⟩ := Option.ne_none_iff_exists'.1 named
      rw [reflects.changed update member key value change, others.changed update member key value change]

end Reflects

theorem Reflects.of_updated {first : UpdateRequest} {rest : List UpdateRequest}
    (apart : ∀ update ∈ rest, first.Apart update) {old new : StoredObject} (now : Timestamp)
    (reflects : Reflects rest (Atomic.updated first old now) new) : Reflects (first :: rest) old new :=
  reflects.cons apart (Atomic.text_updated first old now) (Atomic.get?_updated first old now)

theorem exists_reflects {updates : List UpdateRequest} (apart : updates.Pairwise UpdateRequest.Apart)
    (object : StoredObject) : ∃ new, Reflects updates object new := by
  induction updates generalizing object with
  | nil => exact ⟨object, .nil object⟩
  | cons first rest ih =>
      obtain ⟨firstApart, restApart⟩ := List.pairwise_cons.1 apart
      obtain ⟨new, reflects⟩ := ih restApart (Atomic.updated first object object.updated)
      exact ⟨new, reflects.of_updated firstApart object.updated⟩

/-! ### Runs -/

structure StoredObject.HasRoom (object : StoredObject) (count : Nat) : Prop where
  contentType : object.contentType ≠ ""
  size : object.contents.length < Width.bound 64
  generation : object.generation < Width.bound 63
  metageneration : object.metageneration + count < Width.bound 63

namespace Simulation

/-- Updates of one object, one after the other, each with its result. In between anything can happen but a
successful write of that object. -/
inductive Updating (bucket name : String) :
    Simulation → List (UpdateRequest × Ended (Except Error Object)) → Simulation → Prop
  | done (simulation : Simulation) : Updating bucket name simulation [] simulation
  | update {simulation final : Simulation} {log : List (UpdateRequest × Ended (Except Error Object))}
      (request : UpdateRequest) (named : request.name = name)
      (rest : Updating bucket name (((bucketConfig bucket).update request).run transport simulation).2 log final) :
      Updating bucket name simulation
        ((request, (((bucketConfig bucket).update request).run transport simulation).1) :: log) final
  | meanwhile {simulation final : Simulation} {log : List (UpdateRequest × Ended (Except Error Object))}
      (happening : Happening)
      (spared : ∀ request, happening = .request request → ¬simulation.Writes request bucket name)
      (rest : Updating bucket name (simulation.step happening) log final) : Updating bucket name simulation log final

section Object

variable {bucket name : String} (isBucket : IsPlaceName bucket) (checked : checkSegmentName name = .ok ())

include isBucket checked

theorem run_update_found {request : UpdateRequest} (named : request.name = name) (keeps : ¬request.RemovesContentType)
    {simulation : Simulation} {object : StoredObject} (found : simulation.store.find? bucket name = some object)
    {count : Nat} (room : object.HasRoom (count + 1)) :
    let changed := Atomic.updated request object simulation.clock.now
    ((bucketConfig bucket).update request).run transport simulation = (.finished (.ok (changed.toObject bucket name)),
      { simulation with store := simulation.store.put bucket name changed }) := by
  intro changed
  subst named
  have metageneration := room.metageneration
  have fits : changed.Fits := by
    refine ⟨room.size, room.generation, ?_⟩
    change object.metageneration + 1 < Width.bound 63
    omega
  have typed : (Atomic.applyUpdate request object).contentType ≠ "" :=
    Atomic.contentType_updated keeps room.contentType simulation.clock.now
  rw [run_update isBucket, Atomic.update_found checked found typed, Atomic.view_eq _ _ fits]

theorem Updating.reflects {simulation final : Simulation} {log : List (UpdateRequest × Ended (Except Error Object))}
    (updating : Updating bucket name simulation log final) {object : StoredObject}
    (found : simulation.store.find? bucket name = some object) (room : object.HasRoom log.length)
    (apart : (log.map Prod.fst).Pairwise UpdateRequest.Apart)
    (keeps : ∀ update ∈ log.map Prod.fst, ¬update.RemovesContentType) :
    (∀ entry ∈ log, ∃ shown, entry.2 = .finished (.ok shown)) ∧
      ∃ new, final.store.find? bucket name = some new ∧
        new.metageneration = object.metageneration + log.length ∧ Reflects (log.map Prod.fst) object new := by
  induction updating generalizing object with
  | done simulation => exact ⟨fun entry member => absurd member List.not_mem_nil, object, found, rfl, .nil object⟩
  | meanwhile happening spared rest ih =>
      apply ih
      · rw [find?_step_of_spared spared, found]
      · exact room
      · exact apart
      · exact keeps
  | @update simulation final log request named rest ih =>
      rw [List.map_cons] at apart keeps
      obtain ⟨firstApart, restApart⟩ := List.pairwise_cons.1 apart
      obtain ⟨firstKeeps, restKeeps⟩ := List.forall_mem_cons.1 keeps
      have ran := run_update_found isBucket checked named firstKeeps found room
      -- The rest of the updates starts from what this one has written, and is apart from it.
      have next : (((bucketConfig bucket).update request).run transport simulation).2.store.find? bucket name =
          some (Atomic.updated request object simulation.clock.now) := by
        rw [ran, Store.find?_put, if_pos ⟨rfl, rfl⟩]
      have nextRoom : (Atomic.updated request object simulation.clock.now).HasRoom log.length := by
        have metageneration := room.metageneration
        rw [List.length_cons] at metageneration
        constructor
        case contentType => exact Atomic.contentType_updated firstKeeps room.contentType simulation.clock.now
        case size => exact room.size
        case generation => exact room.generation
        case metageneration =>
          change object.metageneration + 1 + log.length < Width.bound 63
          omega
      obtain ⟨succeeded, new, last, grown, reflects⟩ := ih next nextRoom restApart restKeeps
      refine ⟨?_, new, last, ?_, reflects.of_updated firstApart simulation.clock.now⟩
      · intro entry member
        rcases List.mem_cons.1 member with rfl | inRest
        · exact ⟨_, congrArg Prod.fst ran⟩
        · exact succeeded entry inRest
      · rw [grown, List.length_cons]
        change object.metageneration + 1 + log.length = _
        omega

end Object

/-- Updates that touch different texts and different keys of an object all succeed, and what they leave is the
same for every order of them and for everything else that happens to other objects. The numbers of the object fit
the integers that carry them, up to the last metageneration. -/
theorem disjoint_updates_all_last {bucket name : String} (time : Timestamp) {history : List Happening}
    (operations : ∀ happening ∈ history, happening.IsOperation) {object : StoredObject}
    (found : (after time history).store.find? bucket name = some object) (fits : object.Fits)
    {updates : List UpdateRequest} (counts : object.metageneration + updates.length < Width.bound 63)
    (apart : updates.Pairwise UpdateRequest.Apart) (keeps : ∀ update ∈ updates, ¬update.RemovesContentType) :
    ∃ (texts : TextField → String) (metadata : Dictionary String),
      ∀ order log final, order.Perm updates → log.map Prod.fst = order →
        Updating bucket name (after time history) log final →
        (∀ entry ∈ log, ∃ shown, entry.2 = .finished (.ok shown)) ∧
        ∃ new, final.store.find? bucket name = some new ∧ (∀ field, new.text field = texts field) ∧
          new.metadata = metadata ∧ new.metageneration = object.metageneration + updates.length ∧
          Reflects updates object new := by
  have operable := (after_operated time operations).objects bucket name object found
  have room : object.HasRoom updates.length := ⟨operable.contentType, fits.size, fits.generation, counts⟩
  obtain ⟨last, lastReflects⟩ := exists_reflects apart object
  refine ⟨last.text, last.metadata, ?_⟩
  rintro order log final same rfl updating
  have length : log.length = updates.length := by
    rw [← same.length_eq, List.length_map]
  have orderApart := (same.pairwise_iff UpdateRequest.Apart.symm).2 apart
  have orderKeeps : ∀ update ∈ log.map Prod.fst, ¬update.RemovesContentType :=
    fun update member => keeps update (same.mem_iff.1 member)
  obtain ⟨succeeded, new, present, grown, reflects⟩ := updating.reflects operable.bucket
    (checkSegmentName_of_validate operable.name) found (length ▸ room) orderApart orderKeeps
  have decided := (reflects.perm same).unique lastReflects
  rw [length] at grown
  exact ⟨succeeded, new, present, decided.1, decided.2, grown, reflects.perm same⟩

/-! ### Two updates -/

theorem isOperation_creation {bucket name : String} (isBucket : IsPlaceName bucket)
    (isName : validateName name = .ok ()) (opened : Nat) :
    ∀ happening ∈ creation bucket name opened, happening.IsOperation := by
  let request : CreateRequest := ⟨{ name }, [], none⟩
  have isValid : Atomic.checkCreate request = .ok () := Atomic.checkCreate_of_valid isName rfl
  obtain ⟨next, created, rest⟩ := create_valid isBucket isValid
  have yields : ((Action.create request).operation (bucketConfig bucket)).Yields
      [(Sent.announce bucket request, .answer (.ok (announced bucket (opened + 1)))),
        (Sent.upload bucket request (opened + 1), .silence)] .pending := by
    rw [Action.operation, created]
    refine .answered (.ok (announced bucket (opened + 1))) ?_
    rw [rest]
    exact .silent
  intro happening member
  rw [creation, List.mem_cons, List.mem_singleton] at member
  rcases member with rfl | rfl
  · exact ⟨bucket, .create request, _, _, _, yields, List.mem_cons_self⟩
  · exact ⟨bucket, .create request, _, _, _, yields, List.mem_cons_of_mem _ List.mem_cons_self⟩

theorem disjoint_updates_all_last_beside_stat :
    let time : Timestamp := ⟨0, 0⟩
    let history := creation "photos" "a" 0
    let first : UpdateRequest :=
      { name := "a", cacheControl := .set "no-store", metadata := some (.ofList [("color", some "red")]) }
    let second : UpdateRequest :=
      { name := "a", contentType := .set "text/plain", metadata := some (.ofList [("size", none)]) }
    ∃ object log final new, (after time history).store.find? "photos" "a" = some object ∧
      Updating "photos" "a" (after time history) log final ∧ log.map Prod.fst = [second, first] ∧
      (∀ entry ∈ log, ∃ shown, entry.2 = .finished (.ok shown)) ∧
      final.store.find? "photos" "a" = some new ∧ new.text .contentType = "text/plain" ∧
      new.text .cacheControl = "no-store" ∧ new.metadata.get? "color" = some "red" ∧
      new.metageneration = object.metageneration + 2 := by
  intro time history first second
  have isBucket : IsPlaceName "photos" := ⟨by decide, by decide⟩
  have isName : validateName "a" = .ok () := by decide
  have unused : (start time).store.nextUpload = 0 := rfl
  obtain ⟨object, isEmpty, written, _⟩ := run_creation "photos" isName unused
  have found : (after time history).store.find? "photos" "a" = some object := by
    rw [after, Store.find?_congr written, Store.find?_put, if_pos ⟨rfl, rfl⟩]
  have firstKeys (key : String) : first.key? key = if key = "color" then some (some "red") else none :=
    Dictionary.get?_insert ∅ "color" key (some "red")
  have secondKeys (key : String) : second.key? key = if key = "size" then some none else none :=
    Dictionary.get?_insert ∅ "size" key none
  have isApart : first.Apart second := by
    constructor
    · intro field
      cases field with
      | contentType | contentEncoding | contentLanguage => exact .inl rfl
      | cacheControl => exact .inr rfl
    · intro key
      by_cases isColor : key = "color"
      · right
        rw [secondKeys, isColor, if_neg (by decide)]
      · left
        rw [firstKeys, if_neg isColor]
  have apart : [first, second].Pairwise UpdateRequest.Apart := by
    simpa using isApart
  have keeps : ∀ update ∈ [first, second], ¬update.RemovesContentType := by
    simp [UpdateRequest.RemovesContentType, first, second]
  have looksOnly : ∀ simulation : Simulation, ∀ request,
      Happening.request (Sent.stat "photos" "a") = .request request → ¬simulation.Writes request "photos" "a" := by
    rintro simulation request ⟨⟩ ⟨aimed, _⟩
    simp [Store.aim?, Sent.route_stat] at aimed
  obtain ⟨log, final, updating, ordered⟩ : ∃ log final, Updating "photos" "a" (after time history) log final ∧
      log.map Prod.fst = [second, first] :=
    ⟨_, _, .update second rfl
      (.meanwhile (.request (Sent.stat "photos" "a")) (looksOnly _) (.update first rfl (.done _))), rfl⟩
  have small : object.contents.length < Width.bound 64 := by
    rw [isEmpty]
    decide
  have few : requestCount history = 2 := rfl
  have counted := (after_counted time history).metagenerations "photos" "a" object found
  have bound : 4 < Width.bound 63 := by decide
  have counts : object.metageneration + [first, second].length < Width.bound 63 := by
    rw [List.length_cons, List.length_singleton]
    omega
  have fits : object.Fits := fits_after (by omega) found small
  obtain ⟨texts, metadata, all⟩ :=
    disjoint_updates_all_last time (isOperation_creation isBucket isName 0) found fits counts apart keeps
  obtain ⟨succeeded, new, present, _, _, grown, reflects⟩ :=
    all [second, first] log final (List.Perm.swap first second []) ordered updating
  refine ⟨object, log, final, new, found, updating, ordered, succeeded, present, ?_, ?_, ?_, grown⟩
  · exact reflects.set second (by simp) .contentType "text/plain" rfl
  · exact reflects.set first (by simp) .cacheControl "no-store" rfl
  · exact reflects.changed first (by simp) "color" (some "red") (by rw [firstKeys, if_pos rfl])

end Simulation

end ObjectStore
