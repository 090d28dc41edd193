import ObjectStore.Proofs.Atomic.Creation
import ObjectStore.Proofs.Client.Discipline
import ObjectStore.Proofs.Simulation.Version

/-!
States that operations lead to. Whatever the clients of a simulated service do, in any order and with any part
of it left undone, every object has a name that operations accept, a bucket that a path can name and a content type.
-/

namespace ObjectStore

open Url (IsPlaceName ofPlace)

/-! ### Announcements -/

namespace Route

theorem behind_of_announce {method : Method} {url : Url} {bucket : String}
    (route : ofRequest method url = .announce bucket) :
    segmentsBehind ["upload", "storage", "v1", "b"] url.path = some [bucket, "o"] := by
  unfold ofRequest at route
  dsimp only at route
  split at route
  · repeat' split at route
    all_goals simp at route
  · split at route
    · split at route <;> simp_all
    · split at route
      · repeat' split at route
        all_goals simp at route
      · simp at route

theorem length_of_mapM {α β : Type} {read : α → Option β} {list : List α} {results : List β}
    (mapped : list.mapM read = some results) : list.length = results.length := by
  induction list generalizing results with
  | nil =>
      cases mapped
      rfl
  | cons first rest ih =>
      rw [List.mapM_cons] at mapped
      obtain ⟨value, _, others⟩ := Option.bind_eq_some_iff.1 mapped
      obtain ⟨values, mappedRest, same⟩ := Option.bind_eq_some_iff.1 others
      cases same
      simp [ih mappedRest]

theorem length_of_behind {fixed pieces names : List String}
    (behind : segmentsBehind fixed (.segments pieces) = some names) : pieces.length = fixed.length + names.length := by
  simp only [segmentsBehind] at behind
  split at behind
  · rename_i isBehind
    have longer : fixed.length < pieces.length := by simp_all
    have lengths := length_of_mapM behind
    rw [List.length_drop] at lengths
    omega
  · cases behind

end Route

namespace Simulation

theorem announceRequest_eq_ok {bucket : String} (isBucket : IsPlaceName bucket) {create : CreateRequest}
    {request : HttpRequest} (accepted : (bucketConfig bucket).announceRequest create = .ok request) :
    Atomic.checkCreate create = .ok () ∧ request = Sent.announce bucket create := by
  have checked := announceRequest_eq isBucket create
  rw [accepted] at checked
  cases valid : Atomic.checkCreate create with
  | error error =>
      rw [valid] at checked
      cases checked
  | ok =>
      rw [valid] at checked
      cases checked
      exact ⟨rfl, rfl⟩

theorem validateName_of_checkCreate {create : CreateRequest} (checked : Atomic.checkCreate create = .ok ()) :
    validateName create.attributes.name = .ok () := by
  cases named : validateName create.attributes.name with
  | ok => rfl
  | error reason =>
      simp only [Atomic.checkCreate, named, Except.mapError, bind, Except.bind] at checked
      cases checked

theorem isPlaceName_of_announce {bucket reached : String} {create : CreateRequest} {request : HttpRequest}
    (accepted : (bucketConfig bucket).announceRequest create = .ok request)
    (route : request.route = .announce reached) : IsPlaceName bucket := by
  by_contra isDots
  have announces := BucketConfig.isAnnouncement_of_ok accepted
  have parsed := parseUrl_text
    (Url.keepsSegments_segment.parse_address bucket Place.areSegments_upload Route.isHost_upload
      (Form.isQuery_joinPairs (announcePairs create.precondition)))
    (BucketConfig.uploadAddress_eq (bucketConfig bucket) create.precondition)
  have url := Except.ok.inj (announces.place.symm.trans parsed)
  have behind := Route.behind_of_announce route
  rw [url] at behind
  have reachedLength := Route.length_of_behind behind
  have shorter := Url.length_resolveSegments_lt [] ["upload", "storage", "v1", "b"]
    (Url.keepsDots_segment.isDot_encode isDots) (List.cons_ne_nil "o" [])
  simp only [List.length_cons, List.length_nil, List.length_append] at reachedLength shorter
  omega

end Simulation

/-! ### Operations -/

/-- A request that an operation on some bucket can send, whatever it was answered before, or a move of the clock. -/
def Happening.IsOperation : Happening → Prop
  | .request sent => ∃ bucket, ∃ action : Simulation.Action, ∃ log ended reply,
      (action.operation (Simulation.bucketConfig bucket)).Yields log ended ∧ (sent, reply) ∈ log
  | .advance _ => True
  | .setTime _ => True

namespace Simulation

variable {config : BucketConfig}

theorem method_of_located {located : Except InvalidRequest Url} {method : Method} {request : HttpRequest}
    (accepted : (located >>= config.request method) = .ok request) : request.method = method := by
  cases located with
  | error reason => cases accepted
  | ok url => exact (BucketConfig.request_eq_ok accepted).2.1

theorem Action.method_of_short {action : Action} (short : action.isCreation = false) {request : HttpRequest}
    (valid : action.firstRequest config = .ok request) : request.method ≠ .post := by
  cases action with
  | create create => cases short
  | stat name =>
      rw [method_of_located valid]
      exact nofun
  | delete name =>
      rw [method_of_located valid]
      exact nofun
  | list query =>
      rw [method_of_located valid]
      exact nofun
  | read read =>
      have located : (checkSegmentName read.name >>= fun _ => parseUrl (config.readAddress read)) >>=
          config.request .get = .ok request := by
        rw [bind_assoc]
        exact valid
      rw [method_of_located located]
      exact nofun
  | update update =>
      simp only [firstRequest, BucketConfig.updateRequest, bind, Except.bind, pure, Except.pure] at valid
      split at valid
      · cases valid
      · split at valid
        · cases valid
        · rename_i sent accepted
          cases valid
          have patches : sent.method = .patch := (BucketConfig.request_eq_ok accepted).2.1
          simp [HttpRequest.withHeader, HttpRequest.withBody, patches]

theorem announces_of_operation {request : HttpRequest} (operation : (Happening.request request).IsOperation)
    (posts : request.method = .post) :
    ∃ bucket create, (bucketConfig bucket).announceRequest create = .ok request := by
  obtain ⟨bucket, action, log, ended, reply, yields, sent⟩ := operation
  cases Action.course_of_yields yields with
  | refused => cases sent
  | single only last short valid =>
      cases List.mem_singleton.1 sent
      exact absurd posts (Action.method_of_short short valid)
  | announced create only last error creates valid =>
      cases List.mem_singleton.1 sent
      exact ⟨bucket, create, valid⟩
  | uploaded create announcement put answer url last creates valid placed uploads =>
      rcases List.mem_cons.1 sent with isFirst | isLast
      · cases isFirst
        exact ⟨bucket, create, valid⟩
      · cases List.mem_singleton.1 isLast
        have puts := (BucketConfig.uploads_of_ok (BucketConfig.isAnnouncement_of_ok valid) uploads).method
        rw [puts] at posts
        cases posts

end Simulation

/-! ### What operations keep -/

namespace Store

theorem contentType_of_patched {object changed : StoredObject} {changes : List (String × Json.Value)} {now : Timestamp}
    (accepted : patchObject object changes now = .ok changed) : changed.contentType ≠ "" := by
  simp only [patchObject, bind, Except.bind, pure, Except.pure, throw, throwThe, MonadExceptOf.throw] at accepted
  split at accepted
  · cases accepted
  · split at accepted
    · cases accepted
    · rename_i present
      cases accepted
      exact present

structure IsOperable (bucket name contentType : String) : Prop where
  bucket : IsPlaceName bucket
  name : validateName name = .ok ()
  contentType : contentType ≠ ""

structure Operated (store : Store) : Prop where
  objects : ∀ bucket name object, store.find? bucket name = some object → IsOperable bucket name object.contentType
  uploads : ∀ session upload, store.uploads.get? session = some upload →
    IsOperable upload.bucket upload.resource.name upload.resource.contentType

theorem start_operated : Operated start := by
  constructor
  · intro bucket name object found
    cases found
  · intro session upload found
    cases found

end Store

namespace Simulation

theorem isOperable_of_announced {request : HttpRequest} (operation : (Happening.request request).IsOperation)
    {body : Bytes} (read : request.body.collect = .ok body) {bucket : String}
    (route : request.route = .announce bucket) {upload : PendingUpload}
    (announced : Store.readAnnouncement bucket request.parameters request.headers body = .ok upload) :
    Store.IsOperable upload.bucket upload.resource.name upload.resource.contentType := by
  have posts := HttpRequest.method_of_route route rfl
  obtain ⟨asked, create, accepted⟩ := announces_of_operation operation posts
  have isBucket := isPlaceName_of_announce accepted route
  obtain ⟨checked, rfl⟩ := announceRequest_eq_ok isBucket accepted
  rw [Sent.route_announce] at route
  cases route
  have written : body = create.attributes.serialize bucket := by
    have collected := read.symm.trans (Body.collect_full _)
    exact Except.ok.inj collected
  rw [written, readAnnouncement_sent bucket checked] at announced
  cases announced
  constructor
  case bucket => exact isBucket
  case name => exact validateName_of_checkCreate checked
  case contentType => exact create.attributes.effectiveContentType_ne_empty

theorem operated_of_change {store later : Store} (operated : store.Operated) {now : Timestamp} {request : HttpRequest}
    (operation : (Happening.request request).IsOperation) {body : Bytes} (read : request.body.collect = .ok body)
    {answer : Option HttpResponse} (change : store.Change now request body answer later) : later.Operated := by
  constructor
  case objects =>
    intro bucket name object found
    cases change with
    | quiet => exact operated.objects bucket name object found
    | opened => exact operated.objects bucket name object found
    | refused session upload closed route named taken =>
        rw [Store.find?_congr (Store.takeUpload_objects taken).1] at found
        exact operated.objects bucket name object found
    | written session upload closed contentType route named taken =>
        rw [Store.find?_write] at found
        split at found
        · rename_i here
          have operable := operated.uploads session upload (Store.takeUpload_eq_some taken).1
          cases found
          rw [here.1, here.2]
          refine ⟨operable.bucket, operable.name, ?_⟩
          simp only [Store.write, Store.PendingUpload.toObject, if_neg operable.contentType]
          exact operable.contentType
        · rw [Store.find?_congr (Store.takeUpload_objects taken).1] at found
          exact operated.objects bucket name object found
    | patched otherBucket otherName stored changed changes route parsed present accepted =>
        rw [Store.find?_put] at found
        split at found
        · rename_i here
          have operable := operated.objects otherBucket otherName stored present
          cases found
          rw [here.1, here.2]
          exact ⟨operable.bucket, operable.name, Store.contentType_of_patched accepted⟩
        · exact operated.objects bucket name object found
    | removed otherBucket otherName =>
        rw [Store.find?_remove] at found
        split at found
        · cases found
        · exact operated.objects bucket name object found
  case uploads =>
    intro session upload found
    rcases change.get?_uploads found with before | ⟨_, bucket, route, announced, _⟩
    · exact operated.uploads session upload before
    · exact isOperable_of_announced operation read route announced

theorem operated_of_step {simulation : Simulation} (operated : simulation.store.Operated) {happening : Happening}
    (operation : happening.IsOperation) : (simulation.step happening).store.Operated := by
  rcases step_cases simulation happening with same | ⟨request, body, answer, sent, read, change, _⟩
  · rwa [same]
  · subst sent
    exact operated_of_change operated operation read change

theorem operated_of_run {simulation : Simulation} (operated : simulation.store.Operated)
    {happenings : List Happening} (operations : ∀ happening ∈ happenings, happening.IsOperation) :
    (simulation.run happenings).store.Operated := by
  induction happenings generalizing simulation with
  | nil => exact operated
  | cons happening rest ih =>
      obtain ⟨first, others⟩ := List.forall_mem_cons.1 operations
      exact ih (operated_of_step operated first) others

/-- Operations never leave an object behind that they could not be about. -/
theorem after_operated (time : Timestamp) {happenings : List Happening}
    (operations : ∀ happening ∈ happenings, happening.IsOperation) : (after time happenings).store.Operated :=
  operated_of_run Store.start_operated operations

end Simulation

end ObjectStore
