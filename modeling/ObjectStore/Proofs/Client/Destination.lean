import ObjectStore.Proofs.Atomic.Call

/-!
Where the first request of every action goes with the default hosts, whatever the bucket is called. No
name of an object can move it: dots are refused, and all else is one segment. The name of the bucket is
not looked at, so that a bucket of one dot or two drops out of the path.
-/

namespace ObjectStore

open Url (IsHost IsPlaceName IsSegment ofPlace)

/-! ### First requests -/

theorem Operation.map_sending {α β : Type} (change : α → β) (request : Except InvalidRequest HttpRequest)
    (next : Except TransportError HttpResponse → Operation α) :
    (sending request next).map (Except.map change) =
      sending request fun reply => (next reply).map (Except.map change) := by
  cases request <;> rfl

namespace Simulation

def checkAgent (userAgent : String) : Except InvalidRequest Unit :=
  if Headers.isValidValue (Bytes.ofText userAgent) then .ok () else .error .userAgent

namespace Action

variable (config : BucketConfig)

def operation : Action → Operation Outcome
  | .create request => (config.create request).map (.map .object)
  | .read request => (config.read request).map (.map .content)
  | .stat name => (config.stat name).map (.map .object)
  | .update request => (config.update request).map (.map .object)
  | .delete name => (config.delete name).map (.map fun _ => .deleted)
  | .list query => (config.list query).map (.map .page)

def firstRequest : Action → Except InvalidRequest HttpRequest
  | .create request => config.announceRequest request
  | .read request => config.readRequest request
  | .stat name => config.statRequest name
  | .update request => config.updateRequest request
  | .delete name => config.deleteRequest name
  | .list query => config.listRequest query

def checkRequest : Action → Except InvalidRequest Unit
  | .create request => do
      validateName request.attributes.name
      let contentType := request.attributes.effectiveContentType
      if !Headers.isValidValue (Bytes.ofText contentType) then throw (.contentType contentType)
  | .read request => checkSegmentName request.name
  | .stat name | .delete name => checkSegmentName name
  | .update request => checkSegmentName request.name
  | .list _ => pure ()

def check (userAgent : String) (action : Action) : Except InvalidRequest Unit := do
  action.checkRequest
  checkAgent userAgent

def host : Action → String
  | .read _ => "storage.googleapis.com"
  | _ => "www.googleapis.com"

def segments (bucket : String) : Action → List String
  | .create _ => ["upload", "storage", "v1", "b"] ++ [Percent.encodeSegment bucket, "o"]
  | .read request => [Percent.encodeSegment bucket, Percent.encodeSegment request.name]
  | .stat name | .delete name =>
      ["storage", "v1", "b"] ++ [Percent.expandVariable bucket, "o", Percent.expandVariable name]
  | .update request =>
      ["storage", "v1", "b"] ++ [Percent.expandVariable bucket, "o", Percent.expandVariable request.name]
  | .list _ => ["storage", "v1", "b"] ++ [Percent.expandVariable bucket, "o"]

theorem operation_eq (action : Action) :
    ∃ next, action.operation config = Operation.sending (action.firstRequest config) next := by
  cases action <;> exact ⟨_, Operation.map_sending ..⟩

end Action

/-! ### Requests that fail as their check does -/

def FollowsCheck (request : Except InvalidRequest HttpRequest) (check : Except InvalidRequest Unit)
    (isMeant : Url → Prop) : Prop :=
  match check with
  | .error reason => request = .error reason
  | .ok () => ∃ sent, request = .ok sent ∧ isMeant sent.url

namespace FollowsCheck

variable {request : Except InvalidRequest HttpRequest} {check : Except InvalidRequest Unit} {isMeant : Url → Prop}

theorem of_check (first : Except InvalidRequest Unit) (rest : first = .ok () → FollowsCheck request check isMeant) :
    FollowsCheck (first >>= fun _ => request) (first >>= fun _ => check) isMeant := by
  cases first with
  | error reason => exact rfl
  | ok => exact rest rfl

theorem of_request (config : BucketConfig) (method : Method) {url : Url} (meant : isMeant url) :
    FollowsCheck (config.request method url) (checkAgent config.userAgent) isMeant := by
  rw [BucketConfig.request, checkAgent]
  split
  · exact ⟨_, rfl, meant⟩
  · exact rfl

theorem decorated (follows : FollowsCheck request check isMeant) (decorate : HttpRequest → HttpRequest)
    (sameUrl : ∀ sent, (decorate sent).url = sent.url) :
    FollowsCheck (request >>= fun sent => pure (decorate sent)) check isMeant := by
  cases check with
  | error reason => exact congrArg (· >>= _) follows
  | ok =>
      obtain ⟨sent, same, meant⟩ := follows
      refine ⟨decorate sent, ?_, ?_⟩
      · rw [same]
        rfl
      · rwa [sameUrl]

end FollowsCheck

/-! ### Default hosts -/

def defaultConfig (projectId bucket userAgent : String) : BucketConfig :=
  { projectId, name := bucket, userAgent }

theorem apiBase_defaultConfig (projectId bucket userAgent : String) :
    (defaultConfig projectId bucket userAgent).apiBase = "https://" ++ "www.googleapis.com" ++ "/storage/v1/" := by
  apply String.toList_inj.1
  simp [defaultConfig]

theorem isHost_storage : IsHost "storage.googleapis.com" :=
  ⟨List.all_eq_true.1 (by decide), by decide, rfl⟩

theorem isHost_api : IsHost "www.googleapis.com" :=
  ⟨List.all_eq_true.1 (by decide), by decide, rfl⟩

/-- A URL whose path is what the dots among the segments leave of them. -/
def Resolves (host : String) (segments : List String) (url : Url) : Prop :=
  ∃ query, url = ofPlace host (Url.resolveSegments .special [] segments) query

theorem isPlaceName_of_checked {name userAgent : String}
    (checked : (checkSegmentName name >>= fun _ => checkAgent userAgent) = .ok ()) : IsPlaceName name := by
  cases named : checkSegmentName name with
  | error reason =>
      rw [named] at checked
      cases checked
  | ok => exact isPlaceName_of_check named

section Default

variable (projectId bucket userAgent : String)

theorem objectUrl_follows (name : String) (isFull : Bool) (method : Method) :
    FollowsCheck ((defaultConfig projectId bucket userAgent).objectUrl name isFull >>=
        (defaultConfig projectId bucket userAgent).request method)
      (checkSegmentName name >>= fun _ => checkAgent userAgent)
      (Resolves "www.googleapis.com"
        (["storage", "v1", "b"] ++ [Percent.expandVariable bucket, "o", Percent.expandVariable name])) := by
  rw [BucketConfig.objectUrl, bind_assoc]
  refine FollowsCheck.of_check (checkSegmentName name) fun checked => ?_
  have address := Url.keepsSegments_unreserved.parse_address bucket
    (Place.areSegments_object (isPlaceName_of_check checked)) isHost_api (isQuery_full isFull)
  have parsed := parseUrl_text address
    (BucketConfig.objectAddress_eq (apiBase_defaultConfig projectId bucket userAgent) name isFull)
  rw [parsed]
  exact FollowsCheck.of_request (defaultConfig projectId bucket userAgent) method ⟨_, rfl⟩

theorem readRequest_follows (read : ReadRequest) :
    FollowsCheck ((defaultConfig projectId bucket userAgent).readRequest read)
      (checkSegmentName read.name >>= fun _ => checkAgent userAgent)
      (Resolves "storage.googleapis.com"
        [Percent.encodeSegment bucket, Percent.encodeSegment read.name]) := by
  refine FollowsCheck.of_check (checkSegmentName read.name) fun checked => ?_
  have address := Url.keepsSegments_segment.parse_address bucket
    (Place.areSegments_direct (isPlaceName_of_check checked)) isHost_storage (isQuery_read read.generation)
  have parsed := parseUrl_text address (BucketConfig.readAddress_eq (defaultConfig projectId bucket userAgent) read)
  rw [parsed]
  exact FollowsCheck.of_request (defaultConfig projectId bucket userAgent) .get ⟨_, rfl⟩

theorem listRequest_follows (query : Query) :
    FollowsCheck ((defaultConfig projectId bucket userAgent).listRequest query) (checkAgent userAgent)
      (Resolves "www.googleapis.com" (["storage", "v1", "b"] ++ [Percent.expandVariable bucket, "o"])) := by
  have address := Url.keepsSegments_unreserved.parse_address bucket Place.areSegments_bucket isHost_api
    Url.isQuery_none
  have written := BucketConfig.bucketAddress_eq (apiBase_defaultConfig projectId bucket userAgent)
  have parsed := parseUrl_text address written
  have listed : (defaultConfig projectId bucket userAgent).listUrl query =
      .ok (ofPlace "www.googleapis.com"
        (Url.resolveSegments .special [] (["storage", "v1", "b"] ++ [Percent.expandVariable bucket, "o"]))
        (some (Form.joinPairs (BucketConfig.listPairs query)))) := by
    rw [BucketConfig.listUrl, parsed]
    rfl
  rw [BucketConfig.listRequest, listed]
  exact FollowsCheck.of_request (defaultConfig projectId bucket userAgent) .get ⟨_, rfl⟩

theorem announceRequest_follows (create : CreateRequest) :
    FollowsCheck ((defaultConfig projectId bucket userAgent).announceRequest create)
      ((Action.create create).check userAgent)
      (Resolves "www.googleapis.com"
        (["upload", "storage", "v1", "b"] ++ [Percent.encodeSegment bucket, "o"])) := by
  have address := Url.keepsSegments_segment.parse_address bucket Place.areSegments_upload isHost_api
    (Form.isQuery_joinPairs (announcePairs create.precondition))
  have parsed := parseUrl_text address
    (BucketConfig.uploadAddress_eq (defaultConfig projectId bucket userAgent) create.precondition)
  rw [BucketConfig.announceRequest, Action.check, Action.checkRequest, bind_assoc]
  refine FollowsCheck.of_check (validateName create.attributes.name) fun _ => ?_
  rw [parsed]
  by_cases valid : Headers.isValidValue (Bytes.ofText create.attributes.effectiveContentType) = true
  · simp only [valid]
    exact (FollowsCheck.of_request (defaultConfig projectId bucket userAgent) .post
      (⟨_, rfl⟩ : Resolves _ _ _)).decorated _ fun _ => rfl
  · simp only [valid]
    exact rfl

theorem firstRequest_follows (action : Action) :
    FollowsCheck (action.firstRequest (defaultConfig projectId bucket userAgent)) (action.check userAgent)
      (Resolves action.host (action.segments bucket)) := by
  cases action with
  | create create => exact announceRequest_follows projectId bucket userAgent create
  | read read => exact readRequest_follows projectId bucket userAgent read
  | stat name => exact objectUrl_follows projectId bucket userAgent name true .get
  | update request =>
      have follows := (objectUrl_follows projectId bucket userAgent request.name true .patch).decorated
        (fun sent => (sent.withHeader "content-type" jsonContentType).withBody
          (.full (Bytes.ofText request.patch.compact))) fun _ => rfl
      rw [bind_assoc] at follows
      exact follows
  | delete name => exact objectUrl_follows projectId bucket userAgent name false .delete
  | list query => exact listRequest_follows projectId bucket userAgent query

theorem resolveSegments_eq_iff {action : Action} (checked : action.check userAgent = .ok ()) :
    Url.resolveSegments .special [] (action.segments bucket) = action.segments bucket ↔ IsPlaceName bucket := by
  cases action with
  | create create =>
      exact Url.keepsDots_segment.resolveSegments_eq_iff Place.areSegments_upload (by simp) bucket
  | read read =>
      have isName : IsPlaceName read.name := isPlaceName_of_checked checked
      exact Url.keepsDots_segment.resolveSegments_eq_iff (Place.areSegments_direct isName) (by simp) bucket
  | stat name | delete name =>
      have isName : IsPlaceName name := isPlaceName_of_checked checked
      exact Url.keepsDots_unreserved.resolveSegments_eq_iff (Place.areSegments_object isName) (by simp) bucket
  | update request =>
      have isName : IsPlaceName request.name := isPlaceName_of_checked checked
      exact Url.keepsDots_unreserved.resolveSegments_eq_iff (Place.areSegments_object isName) (by simp) bucket
  | list query =>
      exact Url.keepsDots_unreserved.resolveSegments_eq_iff Place.areSegments_bucket (by simp) bucket

theorem operation_of_refused {action : Action} {reason : InvalidRequest}
    (refused : action.check userAgent = .error reason) :
    action.operation (defaultConfig projectId bucket userAgent) = .done (.error (.invalidRequest reason)) := by
  obtain ⟨next, operation⟩ := action.operation_eq (defaultConfig projectId bucket userAgent)
  have follows := firstRequest_follows projectId bucket userAgent action
  rw [refused] at follows
  have invalid : action.firstRequest (defaultConfig projectId bucket userAgent) = .error reason := follows
  rw [operation, invalid]
  rfl

theorem operation_of_checked {action : Action} (checked : action.check userAgent = .ok ()) :
    ∃ request next query, action.operation (defaultConfig projectId bucket userAgent) = .send request next ∧
      request.url = ofPlace action.host (Url.resolveSegments .special [] (action.segments bucket)) query := by
  obtain ⟨next, operation⟩ := action.operation_eq (defaultConfig projectId bucket userAgent)
  have follows := firstRequest_follows projectId bucket userAgent action
  rw [checked] at follows
  obtain ⟨request, accepted, query, meant⟩ := follows
  refine ⟨request, next, query, ?_, meant⟩
  rw [operation, accepted]
  rfl

/-- An action is refused for what it asks, or its first request goes to the place that it is meant for, unless
the bucket is dots: then it goes to another one. -/
theorem requests_keep_their_place_iff (action : Action) :
    match action.check userAgent with
    | .error reason =>
        action.operation (defaultConfig projectId bucket userAgent) = .done (.error (.invalidRequest reason))
    | .ok () => ∃ request next path query,
        action.operation (defaultConfig projectId bucket userAgent) = .send request next ∧
          request.url = ofPlace action.host path query ∧ (path = action.segments bucket ↔ IsPlaceName bucket) := by
  cases checked : action.check userAgent with
  | error reason => exact operation_of_refused projectId bucket userAgent checked
  | ok =>
      obtain ⟨request, next, query, sent, meant⟩ := operation_of_checked projectId bucket userAgent checked
      exact ⟨request, next, _, query, sent, meant, resolveSegments_eq_iff bucket userAgent checked⟩

/-- Through a bucket of dots the place of an object is that of the bucket called as the object is. -/
theorem read_through_dots {bucket : String} (isDots : ¬IsPlaceName bucket) {read : ReadRequest}
    (checked : (Action.read read).check userAgent = .ok ()) :
    ∃ request next query,
      (Action.read read).operation (defaultConfig projectId bucket userAgent) = .send request next ∧
        request.url = ofPlace "storage.googleapis.com" [Percent.encodeSegment read.name] query := by
  have segment : IsSegment (Percent.encodeSegment read.name) :=
    Url.keepsSegments_segment.isSegment (isPlaceName_of_checked checked)
  have kept : Url.resolveSegments .special [] [Percent.encodeSegment read.name] = [Percent.encodeSegment read.name] :=
    Url.resolveSegments_append [] (by simp [segment.notDot, segment.notDoubleDot])
  have path : Url.resolveSegments .special [] ((Action.read read).segments bucket) =
      [Percent.encodeSegment read.name] := by
    rw [Action.segments, Url.resolveSegments_cons _ _ _ (by simp)]
    by_cases double : Url.isDoubleDot (Percent.encodeSegment bucket) = true
    · rw [if_pos double]
      exact kept
    · have single := (Url.keepsDots_segment.isDot_encode isDots).resolve_right double
      rw [if_neg double]
      exact (if_pos single).trans kept
  obtain ⟨request, next, query, sent, meant⟩ := operation_of_checked projectId bucket userAgent checked
  rw [path] at meant
  exact ⟨request, next, query, sent, meant⟩

end Default

end Simulation

end ObjectStore
