import ObjectStore.Simulation.Server

/-!
What one request can do to the simulated store. `answer_change` lists every way out of an answer with
the checks that led to it, so that no later proof looks into the answers again.
-/

namespace ObjectStore

def HttpRequest.route (request : HttpRequest) : Route :=
  .ofRequest request.method request.url

def HttpRequest.parameters (request : HttpRequest) : Parameters :=
  ⟨Form.pairs request.url⟩

def Route.method? : Route → Option Method
  | .read .. | .list _ | .stat .. => some .get
  | .announce _ => some .post
  | .upload => some .put
  | .patch .. => some .patch
  | .delete .. => some .delete
  | .unknownEndpoint | .unsupported => none

theorem Route.method?_ofRequest {method reached : Method} {url : Url}
    (found : (Route.ofRequest method url).method? = some reached) : method = reached := by
  unfold Route.ofRequest at found
  dsimp only at found
  repeat' split at found
  all_goals first | exact Option.some.inj found | cases found

theorem HttpRequest.method_of_route {request : HttpRequest} {route : Route} (found : request.route = route)
    {method : Method} (reached : route.method? = some method) : request.method = method :=
  Route.method?_ofRequest (by rw [← HttpRequest.route, found, reached])

theorem Route.path_of_resource {method : Method} {url : Url} {bucket name : String}
    (route : Route.ofRequest method url = .patch bucket name ∨
      Route.ofRequest method url = .delete bucket name) :
    url.hostText = Route.apiHost ∧
      Route.segmentsBehind ["storage", "v1", "b"] url.path = some [bucket, "o", name] := by
  unfold Route.ofRequest at route
  dsimp only at route
  split at route
  · repeat' split at route
    all_goals simp at route
  · split at route
    · repeat' split at route
      all_goals simp at route
    · split at route
      · rename_i host
        split at route <;> simp_all
      · simp at route

namespace HttpResponse

@[simp] theorem ofBytes_status (status : Nat) (headers : Headers) (bytes : Bytes) :
    (ofBytes status headers bytes).status = status :=
  rfl

@[simp] theorem ofJson_status (status : Nat) (value : Json.Value) : (ofJson status value).status = status :=
  rfl

@[simp] theorem noSuchObject_status (bucket name : String) :
    (noSuchObject bucket name).status = Status.notFound :=
  rfl

end HttpResponse

@[simp] theorem Status.ok_ne_preconditionFailed : Status.ok ≠ Status.preconditionFailed := by
  decide

@[simp] theorem Status.notFound_ne_preconditionFailed : Status.notFound ≠ Status.preconditionFailed := by
  decide

namespace Store

@[simp] theorem find?_withUploads (store : Store) (number : Nat) (uploads : Dictionary PendingUpload)
    (bucket name : String) :
    ({ store with nextUpload := number, uploads } : Store).find? bucket name = store.find? bucket name :=
  rfl

@[simp] theorem find?_withNext (store : Store) (number : Nat) (bucket name : String) :
    ({ store with nextGeneration := number } : Store).find? bucket name = store.find? bucket name :=
  rfl

theorem takeUpload_eq_some {store closed : Store} {session : String} {upload : PendingUpload}
    (taken : store.takeUpload session = some (upload, closed)) :
    store.uploads.get? session = some upload ∧
      closed = { store with uploads := store.uploads.erase session } := by
  obtain ⟨found, pending, same⟩ := Option.map_eq_some_iff.1 taken
  cases same
  exact ⟨pending, rfl⟩

theorem takeUpload_objects {store closed : Store} {session : String} {upload : PendingUpload}
    (taken : store.takeUpload session = some (upload, closed)) :
    closed.objects = store.objects ∧ closed.nextGeneration = store.nextGeneration := by
  rw [(takeUpload_eq_some taken).2]
  exact ⟨rfl, rfl⟩

/-- The answer to a request, and the store that it leaves behind. -/
inductive Change (store : Store) (now : Timestamp) (request : HttpRequest) (body : Bytes) :
    Option HttpResponse → Store → Prop
  | quiet {answer : Option HttpResponse}
      (harmless : ∀ response, answer = some response →
        response.status ≠ Status.preconditionFailed ∧
          (Status.isSuccess response.status = true → request.method = .get)) :
      Change store now request body answer store
  | opened (bucket : String) (upload : PendingUpload)
      (route : request.route = .announce bucket)
      (announced : readAnnouncement bucket request.parameters request.headers body = .ok upload) :
      Change store now request body
        (some (.ofBytes Status.ok (Headers.empty.insert "location"
          (Bytes.ofText (uploadLocation bucket (store.announce upload).1))) []))
        (store.announce upload).2
  | refused (session : String) (upload : PendingUpload) (closed : Store)
      (route : request.route = .upload)
      (named : request.parameters.get? "upload_id" = some session)
      (taken : store.takeUpload session = some (upload, closed))
      (stale : PendingUpload.admits upload (closed.generationOf upload.bucket upload.resource.name) = false) :
      Change store now request body
        (some (.refusal Status.preconditionFailed "Precondition Failed")) closed
  | written (session : String) (upload : PendingUpload) (closed : Store) (contentType : String)
      (route : request.route = .upload)
      (named : request.parameters.get? "upload_id" = some session)
      (taken : store.takeUpload session = some (upload, closed))
      (admitted : PendingUpload.admits upload (closed.generationOf upload.bucket upload.resource.name) = true) :
      Change store now request body
        (some (.ofJson Status.ok ((closed.write upload contentType body now).1.toResource
          upload.bucket upload.resource.name).toJson))
        (closed.write upload contentType body now).2
  | patched (bucket name : String) (stored changed : StoredObject)
      (changes : List (String × Json.Value))
      (route : request.route = .patch bucket name)
      (parsed : Json.parseObject body = .ok changes)
      (found : store.find? bucket name = some stored)
      (accepted : patchObject stored changes now = .ok changed) :
      Change store now request body
        (some (.ofJson Status.ok (changed.toResource bucket name).toJson))
        (store.put bucket name changed)
  | removed (bucket name : String) (stored : StoredObject)
      (route : request.route = .delete bucket name)
      (found : store.find? bucket name = some stored) :
      Change store now request body (some (.ofBytes Status.noContent .empty []))
        (store.remove bucket name)

theorem Change.quiet_of_get {store : Store} {now : Timestamp} {request : HttpRequest} {body : Bytes}
    {response : HttpResponse} (isGet : request.method = .get)
    (notStale : response.status ≠ Status.preconditionFailed) :
    Change store now request body (some response) store :=
  .quiet fun _ same => by
    cases same
    exact ⟨notStale, fun _ => isGet⟩

theorem Change.quiet_of_refusal {store : Store} {now : Timestamp} {request : HttpRequest} {body : Bytes}
    (status : Nat) (message : String) (failed : Status.isSuccess status = false)
    (notStale : status ≠ Status.preconditionFailed) :
    Change store now request body (some (.refusal status message)) store :=
  .quiet fun _ same => by
    cases same
    exact ⟨notStale, fun succeeded => absurd succeeded (by simp [HttpResponse.refusal, failed])⟩

theorem answerRead_status (store : Store) (bucket name : String) (parameters : Parameters) :
    (store.answerRead bucket name parameters).status ≠ Status.preconditionFailed := by
  unfold answerRead
  split
  · simp
  · dsimp only
    split <;> split <;> simp

theorem answerStat_status (store : Store) (bucket name : String) :
    (store.answerStat bucket name).status ≠ Status.preconditionFailed := by
  unfold answerStat
  split <;> simp

theorem answerList_status {store : Store} {bucket : String} {parameters : Parameters}
    {response : HttpResponse} (answered : store.answerList bucket parameters = some response) :
    response.status ≠ Status.preconditionFailed := by
  obtain ⟨listing, _, rfl⟩ := Option.map_eq_some_iff.1 answered
  simp

theorem answerAnnounce_change (store : Store) (now : Timestamp) (request : HttpRequest) (body : Bytes)
    (bucket : String) (route : request.route = .announce bucket) :
    Change store now request body
      (some (store.answerAnnounce bucket request.parameters request.headers body).1)
      (store.answerAnnounce bucket request.parameters request.headers body).2 := by
  unfold answerAnnounce
  split
  · exact .quiet_of_refusal _ _ (by decide) (by decide)
  · rename_i upload announced
    exact .opened bucket upload route announced

theorem answerUpload_change (store : Store) (now : Timestamp) (request : HttpRequest) (body : Bytes)
    (route : request.route = .upload) :
    Change store now request body
      (some (store.answerUpload now request.parameters request.headers body).1)
      (store.answerUpload now request.parameters request.headers body).2 := by
  unfold answerUpload
  split
  · exact .quiet_of_refusal _ _ (by decide) (by decide)
  · rename_i upload closed found
    obtain ⟨session, named, taken⟩ := Option.bind_eq_some_iff.1 found
    dsimp only
    split
    · rename_i admitted
      exact .written session upload closed _ route named taken admitted
    · rename_i stale
      exact .refused session upload closed route named taken (by simpa using stale)

theorem answerPatch_change (store : Store) (now : Timestamp) (request : HttpRequest) (body : Bytes)
    (bucket name : String) (route : request.route = .patch bucket name) :
    Change store now request body (some (store.answerPatch now bucket name body).1)
      (store.answerPatch now bucket name body).2 := by
  unfold answerPatch
  split
  · exact .quiet_of_refusal _ _ (by decide) (by decide)
  · rename_i changes parsed
    split
    · exact .quiet_of_refusal _ _ (by decide) (by decide)
    · rename_i stored found
      split
      · exact .quiet_of_refusal _ _ (by decide) (by decide)
      · rename_i changed accepted
        exact .patched bucket name stored changed changes route parsed found accepted

theorem answerDelete_change (store : Store) (now : Timestamp) (request : HttpRequest) (body : Bytes)
    (bucket name : String) (route : request.route = .delete bucket name) :
    Change store now request body (some (store.answerDelete bucket name).1)
      (store.answerDelete bucket name).2 := by
  unfold answerDelete
  split
  · rename_i stored found
    exact .removed bucket name stored route found
  · exact .quiet_of_refusal _ _ (by decide) (by decide)

theorem answer_change (store : Store) (now : Timestamp) (request : HttpRequest) (body : Bytes) :
    Change store now request body (store.answer now request body).1
      (store.answer now request body).2 := by
  have byGet {route : Route} (same : request.route = route) (method : route.method? = some .get) :
      request.method = .get := Route.method?_ofRequest (by rw [← same] at method; exact method)
  unfold answer
  dsimp only
  rw [show Route.ofRequest request.method request.url = request.route from rfl]
  cases route : request.route with
  | read bucket name => exact .quiet_of_get (byGet route rfl) (answerRead_status _ _ _ _)
  | announce bucket => exact answerAnnounce_change store now request body bucket route
  | upload => exact answerUpload_change store now request body route
  | list bucket =>
      refine .quiet fun response answered => ⟨answerList_status answered, fun _ => byGet route rfl⟩
  | stat bucket name => exact .quiet_of_get (byGet route rfl) (answerStat_status _ _ _)
  | patch bucket name => exact answerPatch_change store now request body bucket name route
  | delete bucket name => exact answerDelete_change store now request body bucket name route
  | unknownEndpoint => exact .quiet_of_refusal _ _ (by decide) (by decide)
  | unsupported => exact .quiet_of_refusal _ _ (by decide) (by decide)

end Store

namespace Simulation

def reply : Option HttpResponse → Reply
  | some response => .answer (.ok response)
  | none => .fault positionOverflow

/-- A request whose body cannot be read changes nothing, and any other one is answered by the store. -/
theorem transport_cases (request : HttpRequest) (simulation : Simulation) :
    (∃ error, request.body.collect = .error error ∧
      transport request simulation = (.answer (.error error), simulation)) ∨
    ∃ body answer store, request.body.collect = .ok body ∧
      Store.Change simulation.store simulation.clock.now request body answer store ∧
      transport request simulation = (reply answer, { simulation with store }) := by
  unfold transport
  cases read : request.body.collect with
  | error error => exact Or.inl ⟨error, rfl, rfl⟩
  | ok body =>
      have change := Store.answer_change simulation.store simulation.clock.now request body
      refine Or.inr ⟨body, _, _, rfl, change, ?_⟩
      dsimp only
      split <;> rename_i answered <;> rw [answered] <;> rfl

end Simulation

end ObjectStore
