import ObjectStore.Proofs.Atomic.Operated

/-!
Where the content type of an object comes from: the body of its announcement, the header of that, or the header of
its contents, and a default if that header is missing. An empty header is not missing, so that one kind of upload
leaves an object without a type. No other request does, and such an object cannot be changed until it gets one.
-/

namespace ObjectStore

open Json (Value)

/-! ### The three sources -/

def HttpRequest.announcedType (request : HttpRequest) : String :=
  match request.body.collect with
  | .error _ => ""
  | .ok body => match Resource.parse body with
    | .error _ => ""
    | .ok resource =>
        if resource.contentType = "" then (request.headers.getText? "x-upload-content-type").getD ""
        else resource.contentType

def HttpRequest.uploadedType (request : HttpRequest) : String :=
  (request.headers.getText? "content-type").getD defaultContentType

theorem HttpRequest.uploadedType_eq_empty_iff {request : HttpRequest} :
    request.uploadedType = "" ↔ request.headers.get? "content-type" = some [] := by
  rw [uploadedType, Headers.getText?]
  cases first : request.headers.get? "content-type" with
  | none => simp [defaultContentType]
  | some value =>
      rw [Option.bind_some, Option.some.injEq]
      cases read : Headers.visibleText? value with
      | none =>
          constructor
          · intro isDefault
            simp [defaultContentType] at isDefault
          · rintro rfl
            cases read
      | some text =>
          obtain ⟨rfl, _⟩ := Headers.visibleText?_eq_some_iff.1 read
          rw [Option.getD_some]
          constructor
          · rintro rfl
            rfl
          · intro noBytes
            exact Bytes.ofText_injective noBytes

namespace Store

theorem contentType_of_announcement {request : HttpRequest} {bucket : String} {body : Bytes} {upload : PendingUpload}
    (read : request.body.collect = .ok body)
    (announced : readAnnouncement bucket request.parameters request.headers body = .ok upload) :
    upload.resource.contentType = request.announcedType := by
  obtain ⟨resource, parsed, _, sameResource, _⟩ := upload_of_announcement announced
  rw [sameResource]
  simp only [HttpRequest.announcedType, read, parsed]

/-! ### What one request leaves -/

def Typed (store : Store) : Prop :=
  ∀ bucket name object, store.find? bucket name = some object → object.contentType ≠ ""

theorem start_typed : Typed start := by
  intro bucket name object found
  cases found

theorem answerUpload_of_admitted {store : Store} {now : Timestamp} {request : HttpRequest} {body : Bytes}
    {session : String} {upload : PendingUpload} {closed : Store}
    (named : request.parameters.get? "upload_id" = some session)
    (taken : store.takeUpload session = some (upload, closed))
    (admitted : PendingUpload.admits upload (closed.generationOf upload.bucket upload.resource.name) = true) :
    (store.answerUpload now request.parameters request.headers body).2 =
      (closed.write upload request.uploadedType body now).2 := by
  simp only [answerUpload, named, Option.bind_some, taken, if_pos admitted]
  rfl

theorem typed_of_write {store : Store} (typed : store.Typed) {upload : PendingUpload} {contentType : String}
    (isNamed : upload.resource.contentType = "" → contentType ≠ "") (contents : Bytes) (now : Timestamp) :
    (store.write upload contentType contents now).2.Typed := by
  intro bucket name object found
  rw [find?_write] at found
  split at found
  · cases found
    simp only [write, PendingUpload.toObject]
    split
    · rename_i missing
      exact isNamed missing
    · rename_i given
      exact given
  · exact typed bucket name object found

end Store

namespace Simulation

variable {simulation : Simulation}

theorem store_of_upload {request : HttpRequest} {body : Bytes} (read : request.body.collect = .ok body)
    (route : request.route = .upload) {session : String} {upload : PendingUpload} {closed : Store}
    (named : request.parameters.get? "upload_id" = some session)
    (taken : simulation.store.takeUpload session = some (upload, closed))
    (admitted : Store.PendingUpload.admits upload (closed.generationOf upload.bucket upload.resource.name) = true) :
    (simulation.step (.request request)).store =
      (closed.write upload request.uploadedType body simulation.clock.now).2 := by
  rw [step, transport_of_collect read, Store.answer_upload _ _ _ route]
  exact Store.answerUpload_of_admitted named taken admitted

/-- A successful upload whose announcement gave no content type and whose own header is empty. -/
structure LosesType (simulation : Simulation) (put : HttpRequest) (session : String) (upload : PendingUpload) :
    Prop where
  sends : Sends put session
  isOpen : simulation.store.uploads.get? session = some upload
  unannounced : upload.resource.contentType = ""
  header : put.headers.get? "content-type" = some []
  succeeded : ∃ response, (transport put simulation).1 = .answer (.ok response) ∧
    Status.isSuccess response.status = true

/-- Only such an upload leaves an object without a content type. -/
theorem losesType_of_step (typed : simulation.store.Typed) {happening : Happening}
    (lost : ¬(simulation.step happening).store.Typed) :
    ∃ put session upload, happening = .request put ∧ simulation.LosesType put session upload := by
  rcases step_cases simulation happening with same | ⟨request, body, answer, rfl, read, change, replied⟩
  · rw [same] at lost
    exact absurd typed lost
  · have kept {other : Store} (sameObjects : other.objects = simulation.store.objects) : other.Typed := by
      intro bucket name object found
      rw [Store.find?_congr sameObjects] at found
      exact typed bucket name object found
    generalize stepped : (simulation.step (.request request)).store = later at change lost
    cases change with
    | quiet => exact absurd typed lost
    | opened bucket upload => exact absurd (kept rfl) lost
    | refused session upload closed route named taken => exact absurd (kept (Store.takeUpload_objects taken).1) lost
    | written session upload closed contentType route named taken admitted =>
        have isOpen := (Store.takeUpload_eq_some taken).1
        have closedTyped := kept (Store.takeUpload_objects taken).1
        refine ⟨request, session, upload, rfl, ⟨route, named⟩, isOpen, ?unannounced, ?header, _, replied, rfl⟩
        case unannounced =>
          by_contra given
          exact lost (Store.typed_of_write closedTyped (fun missing => absurd missing given) _ _)
        case header =>
          by_contra given
          -- What was written is known by its header only once the answer is computed.
          rw [← stepped, store_of_upload read route named taken admitted] at lost
          have isNamed : request.uploadedType ≠ "" := mt HttpRequest.uploadedType_eq_empty_iff.1 given
          exact lost (Store.typed_of_write closedTyped (fun _ => isNamed) _ _)
    | patched bucket name stored changed changes route parsed found accepted =>
        refine absurd ?_ lost
        intro otherBucket otherName object present
        rw [Store.find?_put] at present
        split at present
        · cases present
          exact Store.contentType_of_patched accepted
        · exact typed otherBucket otherName object present
    | removed bucket name =>
        refine absurd ?_ lost
        intro otherBucket otherName object present
        rw [Store.find?_remove] at present
        split at present
        · cases present
        · exact typed otherBucket otherName object present

theorem Sends.taken {put : HttpRequest} {session : String} (sends : Sends put session) {response : HttpResponse}
    (answered : (transport put simulation).1 = .answer (.ok response))
    (succeeded : Status.isSuccess response.status = true) :
    ∃ body upload closed, put.body.collect = .ok body ∧
      simulation.store.takeUpload session = some (upload, closed) ∧
      Store.PendingUpload.admits upload (closed.generationOf upload.bucket upload.resource.name) = true := by
  obtain ⟨body, read, change⟩ := change_of_answered answered
  generalize (simulation.step (.request put)).store = later at change
  have route := sends.route
  cases change with
  | quiet harmless =>
      have isGet := (harmless response rfl).2 succeeded
      rw [HttpRequest.method_of_route route rfl] at isGet
      cases isGet
  | refused => cases succeeded
  | written other upload closed contentType _ named taken admitted =>
      have sameSession : session = other := Option.some.inj (sends.named.symm.trans named)
      exact ⟨body, upload, closed, read, sameSession ▸ taken, admitted⟩
  | opened _ _ otherRoute | patched _ _ _ _ _ otherRoute | removed _ _ _ otherRoute =>
      rw [route] at otherRoute
      cases otherRoute

theorem LosesType.untyped {put : HttpRequest} {session : String} {upload : PendingUpload}
    (loses : simulation.LosesType put session upload) :
    ∃ object, (simulation.step (.request put)).store.find? upload.bucket upload.resource.name = some object ∧
      object.contentType = "" := by
  obtain ⟨response, answered, succeeded⟩ := loses.succeeded
  obtain ⟨body, other, closed, read, taken, admitted⟩ := loses.sends.taken answered succeeded
  have sameUpload : upload = other := Option.some.inj (loses.isOpen.symm.trans (Store.takeUpload_eq_some taken).1)
  subst sameUpload
  have empty : put.uploadedType = "" := HttpRequest.uploadedType_eq_empty_iff.2 loses.header
  rw [store_of_upload read loses.sends.route loses.sends.named taken admitted, Store.find?_write, if_pos ⟨rfl, rfl⟩]
  refine ⟨_, rfl, ?_⟩
  simp only [Store.write, Store.PendingUpload.toObject, loses.unannounced, if_true, empty]

/-! ### Runs -/

/-- A successful upload that nobody gave a content type: it was announced without one, and the header of the
contents is empty. -/
structure UploadsUntyped (time : Timestamp) (earlier : List Happening) (put : HttpRequest) : Prop where
  announced : ∃ before announcement between session bucket name precondition,
    earlier = before ++ .request announcement :: between ∧
      Opens (after time before) announcement session bucket name precondition ∧
      announcement.announcedType = "" ∧ Sends put session
  header : put.headers.get? "content-type" = some []
  succeeded : ∃ response, (transport put (after time earlier)).1 = .answer (.ok response) ∧
    Status.isSuccess response.status = true

variable {time : Timestamp} {earlier : List Happening} {put : HttpRequest}

theorem LosesType.uploadsUntyped {session : String} {upload : PendingUpload}
    (loses : (after time earlier).LosesType put session upload) : UploadsUntyped time earlier put := by
  obtain ⟨before, announcement, between, body, split, opens, read, announced⟩ := announcedIn_of_get? loses.isOpen
  refine ⟨⟨before, announcement, between, session, _, _, _, split, opens, ?_, loses.sends⟩, loses.header,
    loses.succeeded⟩
  rw [← Store.contentType_of_announcement read announced]
  exact loses.unannounced

theorem UploadsUntyped.losesType (untyped : UploadsUntyped time earlier put) :
    ∃ session upload, (after time earlier).LosesType put session upload := by
  obtain ⟨before, announcement, between, session, bucket, name, precondition, rfl, opens, unannounced, sends⟩ :=
    untyped.announced
  obtain ⟨response, answered, succeeded⟩ := untyped.succeeded
  obtain ⟨_, upload, closed, _, taken, _⟩ := sends.taken answered succeeded
  have isOpen := (Store.takeUpload_eq_some taken).1
  refine ⟨session, upload, sends, isOpen, ?_, untyped.header, response, answered, succeeded⟩
  -- The session still stands for what the announcement asked for.
  obtain ⟨body, asked, read, announced, opened⟩ := opens.reads
  rw [after_append, run_cons] at isOpen
  rw [((pledged_of_announce opened).run between).kept upload isOpen,
    Store.contentType_of_announcement read announced]
  exact unannounced

theorem typed_or_uploadsUntyped (time : Timestamp) (happenings : List Happening) :
    (after time happenings).store.Typed ∨
      ∃ earlier put later, happenings = earlier ++ .request put :: later ∧ UploadsUntyped time earlier put := by
  induction happenings using List.reverseRecOn with
  | nil => exact Or.inl Store.start_typed
  | append_singleton earlier happening ih =>
      rcases ih with typed | ⟨before, put, between, rfl, untyped⟩
      · by_cases kept : (after time (earlier ++ [happening])).store.Typed
        · exact Or.inl kept
        · rw [after_append, run_cons, run_nil] at kept
          obtain ⟨put, session, upload, rfl, loses⟩ := losesType_of_step typed kept
          exact Or.inr ⟨earlier, put, [], rfl, loses.uploadsUntyped⟩
      · exact Or.inr ⟨before, put, between ++ [happening], by simp, untyped⟩

end Simulation

/-! ### Patches -/

namespace Store

def IsOptionalText (value : Value) : Prop :=
  value = .null ∨ ∃ text, value = .string text

structure IsLegal (change : String × Value) : Prop where
  text : change.1 ∈ ["contentType", "contentEncoding", "contentLanguage", "cacheControl"] → IsOptionalText change.2
  metadata : change.1 = "metadata" → ∃ entries, change.2 = .object entries ∧ ∀ entry ∈ entries, IsOptionalText entry.2

theorem fieldValue_of_text (field : String) {value : Value} (isText : IsOptionalText value) :
    ∃ text, fieldValue field value = .ok text := by
  rcases isText with rfl | ⟨text, rfl⟩
  · exact ⟨"", rfl⟩
  · exact ⟨text, rfl⟩

theorem foldlM_changeMetadata_of_text {entries : List (String × Value)}
    (texts : ∀ entry ∈ entries, IsOptionalText entry.2) (metadata : Dictionary String) :
    ∃ changed, entries.foldlM changeMetadata metadata = .ok changed := by
  induction entries generalizing metadata with
  | nil => exact ⟨metadata, rfl⟩
  | cons entry rest ih =>
      obtain ⟨first, others⟩ := List.forall_mem_cons.1 texts
      rw [List.foldlM_cons, changeMetadata]
      rcases first with isNull | ⟨text, isText⟩
      · rw [isNull]
        exact ih others _
      · rw [isText]
        exact ih others _

theorem changeField_of_legal {change : String × Value} (legal : IsLegal change) (differs : change.1 ≠ "contentType")
    (object : StoredObject) :
    ∃ changed, changeField object change = .ok changed ∧ changed.contentType = object.contentType := by
  obtain ⟨field, value⟩ := change
  have asText (isText : field ∈ ["contentType", "contentEncoding", "contentLanguage", "cacheControl"]) :
      ∃ text, fieldValue field value = .ok text := fieldValue_of_text field (legal.text isText)
  simp only [changeField, if_neg differs]
  split
  case isTrue isEncoding =>
    obtain ⟨text, read⟩ := asText (by simp [isEncoding])
    rw [read]
    exact ⟨_, rfl, rfl⟩
  split
  case isTrue isLanguage =>
    obtain ⟨text, read⟩ := asText (by simp [isLanguage])
    rw [read]
    exact ⟨_, rfl, rfl⟩
  split
  case isTrue isCacheControl =>
    obtain ⟨text, read⟩ := asText (by simp [isCacheControl])
    rw [read]
    exact ⟨_, rfl, rfl⟩
  split
  case isTrue isMetadata =>
    obtain ⟨entries, isObject, texts⟩ := legal.metadata isMetadata
    obtain ⟨metadata, changed⟩ := foldlM_changeMetadata_of_text texts object.metadata
    dsimp only at isObject
    subst isObject
    simp only [changed]
    exact ⟨_, rfl, rfl⟩
  exact ⟨object, rfl, rfl⟩

theorem foldlM_of_legal {changes : List (String × Value)}
    (legal : ∀ change ∈ changes, IsLegal change ∧ change.1 ≠ "contentType") (object : StoredObject) :
    ∃ changed, changes.foldlM changeField object = .ok changed ∧ changed.contentType = object.contentType := by
  induction changes generalizing object with
  | nil => exact ⟨object, rfl, rfl⟩
  | cons change rest ih =>
      obtain ⟨⟨isLegal, differs⟩, others⟩ := List.forall_mem_cons.1 legal
      obtain ⟨first, changed, sameType⟩ := changeField_of_legal isLegal differs object
      obtain ⟨last, changedRest, stillSame⟩ := ih others first
      rw [List.foldlM_cons, changed]
      exact ⟨last, changedRest, stillSame.trans sameType⟩

theorem patchObject_of_legal {changes : List (String × Value)}
    (legal : ∀ change ∈ changes, IsLegal change ∧ change.1 ≠ "contentType") (object : StoredObject) (now : Timestamp) :
    (object.contentType = "" → patchObject object changes now = .error .noContentType) ∧
      (object.contentType ≠ "" → ∃ changed, patchObject object changes now = .ok changed ∧
        changed.contentType = object.contentType) := by
  obtain ⟨changed, applied, sameType⟩ := foldlM_of_legal legal object
  rw [← sameType]
  constructor
  · intro missing
    simp only [patchObject, applied, bind, Except.bind, if_pos missing]
    rfl
  · intro given
    simp only [patchObject, applied, bind, Except.bind, if_neg given]
    exact ⟨_, rfl, rfl⟩

end Store

namespace Simulation

theorem transport_patch {simulation : Simulation} {request : HttpRequest} {bucket name : String} {body : Bytes}
    {object : StoredObject} {changes : List (String × Value)} (route : request.route = .patch bucket name)
    (read : request.body.collect = .ok body) (found : simulation.store.find? bucket name = some object)
    (parsed : Json.parseObject body = .ok changes)
    (legal : ∀ change ∈ changes, Store.IsLegal change ∧ change.1 ≠ "contentType") :
    (object.contentType = "" → transport request simulation =
      (.answer (.ok (.refusal Status.badRequest "Required: contentType")), simulation)) ∧
    (object.contentType ≠ "" → ∃ changed, changed.contentType = object.contentType ∧
      transport request simulation =
        (.answer (.ok (.ofJson Status.ok (changed.toResource bucket name).toJson)),
          { simulation with store := simulation.store.put bucket name changed })) := by
  obtain ⟨refused, accepted⟩ := Store.patchObject_of_legal legal object simulation.clock.now
  rw [transport_of_collect read, Store.answer_patch _ _ _ route]
  simp only [Store.answerPatch, parsed, found]
  constructor
  · intro missing
    rw [refused missing]
    rfl
  · intro given
    obtain ⟨changed, patched, sameType⟩ := accepted given
    rw [patched]
    exact ⟨changed, sameType, rfl⟩

/-- An object without a content type comes about in one way only, and whether an object has one decides whether it
can be changed in anything else. -/
theorem content_type_is_lost_iff (time : Timestamp) (happenings : List Happening) :
    ((∃ earlier later bucket name object, happenings = earlier ++ later ∧
        (after time earlier).store.find? bucket name = some object ∧ object.contentType = "") ↔
      ∃ earlier put later, happenings = earlier ++ .request put :: later ∧ UploadsUntyped time earlier put) ∧
    ∀ patch bucket name body object changes, patch.route = .patch bucket name →
      (after time happenings).store.find? bucket name = some object →
      patch.body.collect = .ok body → Json.parseObject body = .ok changes →
      (∀ change ∈ changes, Store.IsLegal change ∧ change.1 ≠ "contentType") →
      (object.contentType = "" → transport patch (after time happenings) =
        (.answer (.ok (.refusal Status.badRequest "Required: contentType")), after time happenings)) ∧
      (object.contentType ≠ "" → ∃ changed, changed.contentType = object.contentType ∧
        transport patch (after time happenings) =
          (.answer (.ok (.ofJson Status.ok (changed.toResource bucket name).toJson)),
            { after time happenings with store := (after time happenings).store.put bucket name changed })) := by
  refine ⟨⟨?comes, ?leaves⟩, ?patches⟩
  case comes =>
    rintro ⟨earlier, later, bucket, name, object, rfl, found, missing⟩
    rcases typed_or_uploadsUntyped time earlier with typed | ⟨before, put, between, rfl, untyped⟩
    · exact absurd missing (typed bucket name object found)
    · exact ⟨before, put, between ++ later, by simp, untyped⟩
  case leaves =>
    rintro ⟨earlier, put, later, rfl, untyped⟩
    obtain ⟨session, upload, loses⟩ := untyped.losesType
    obtain ⟨object, found, missing⟩ := loses.untyped
    refine ⟨earlier ++ [.request put], later, upload.bucket, upload.resource.name, object, by simp, ?_, missing⟩
    rw [after_append]
    exact found
  case patches =>
    intro patch bucket name body object changes route found read parsed legal
    exact transport_patch route read found parsed legal

theorem content_type_is_lost_by_empty_header :
    let announcement : HttpRequest :=
      ⟨.post, Place.upload "photos" (some (Form.joinPairs (announcePairs none))), .empty,
        .full (Bytes.ofText (Resource.toJson { name := "a" }).compact)⟩
    let put : HttpRequest :=
      ⟨.put, Place.upload "photos" (some (Form.joinPairs (sessionPairs 1))), Headers.empty.insert "content-type" [],
        .empty⟩
    ∃ earlier later bucket name object, [.request announcement, .request put] = earlier ++ later ∧
      (after ⟨1700000000000000000, 0⟩ earlier).store.find? bucket name = some object ∧ object.contentType = "" := by
  intro announcement put
  let time : Timestamp := ⟨1700000000000000000, 0⟩
  let pending : PendingUpload := ⟨"photos", { name := "a" }, none⟩
  have read : announcement.body.collect = .ok (Bytes.ofText (Resource.toJson { name := "a" }).compact) :=
    Body.collect_full _
  have parsed := Resource.parse_toJson { name := "a" }
  have route : announcement.route = .announce "photos" := (Place.route_upload ..).1
  have given : announcement.parameters = ⟨announcePairs none⟩ := congrArg Parameters.mk (Form.pairs_ofPlace ..)
  have asks : Store.readAnnouncement "photos" announcement.parameters announcement.headers
      (Bytes.ofText (Resource.toJson { name := "a" }).compact) = .ok pending := by
    rw [given]
    simp only [Store.readAnnouncement, parsed]
    rfl
  have announced : transport announcement (start time) =
      (.answer (.ok (Simulation.announced "photos" 1)), ⟨⟨time⟩, (Store.start.announce pending).2⟩) := by
    rw [transport_of_collect read, Store.answer_announce _ _ _ route, Store.answerAnnounce, asks]
    rfl
  have opens : Opens (after time []) announcement (Store.sessionName 1) "photos" "a" none := by
    constructor
    case route => exact route
    case named => exact ⟨_, _, read, parsed, rfl⟩
    case carried =>
      rw [given]
      rfl
    case answered =>
      refine ⟨_, congrArg Prod.fst announced, rfl, ?_⟩
      simp [Simulation.announced, HttpResponse.ofBytes]
  have sends : Sends put (Store.sessionName 1) := by
    have pairs : Form.pairs put.url = sessionPairs 1 := Form.pairs_ofPlace ..
    refine ⟨(Place.route_upload ..).2, ?_⟩
    rw [HttpRequest.parameters, pairs]
    rfl
  have succeeded : ∃ response, (transport put (after time [.request announcement])).1 = .answer (.ok response) ∧
      Status.isSuccess response.status = true := by
    have opened : after time [.request announcement] = ⟨⟨time⟩, (Store.start.announce pending).2⟩ :=
      congrArg Prod.snd announced
    rw [opened, transport_of_collect (rfl : put.body.collect = .ok []), Store.answer_upload _ _ _ sends.route,
      Store.answerUpload, sends.named]
    exact ⟨_, rfl, rfl⟩
  have untyped : UploadsUntyped time [.request announcement] put := by
    refine ⟨⟨[], announcement, [], _, _, _, _, rfl, opens, ?_, sends⟩, rfl, succeeded⟩
    simp only [HttpRequest.announcedType, read, parsed]
    rfl
  exact (content_type_is_lost_iff time [.request announcement, .request put]).1.2
    ⟨[.request announcement], put, [], rfl, untyped⟩

end Simulation

end ObjectStore
