import ObjectStore.Proofs.Client.Request
import ObjectStore.Proofs.Client.Response
import ObjectStore.Proofs.Client.Update

/-!
Operations over the simulated service. Each but creation is one request, and does what the bucket
without a wire does at once.
-/

namespace ObjectStore

open Url (IsPlaceName)

/-! ### Answers by route -/

namespace Store

variable (store : Store) (now : Timestamp) {request : HttpRequest} (body : Bytes) {bucket name : String}

theorem answer_read (route : request.route = .read bucket name) :
    store.answer now request body = (some (store.answerRead bucket name request.parameters), store) := by
  rw [HttpRequest.route] at route
  rw [answer, route]
  rfl

theorem answer_stat (route : request.route = .stat bucket name) :
    store.answer now request body = (some (store.answerStat bucket name), store) := by
  rw [HttpRequest.route] at route
  rw [answer, route]

theorem answer_list (route : request.route = .list bucket) :
    store.answer now request body = (store.answerList bucket request.parameters, store) := by
  rw [HttpRequest.route] at route
  rw [answer, route]
  rfl

theorem answer_patch (route : request.route = .patch bucket name) : store.answer now request body =
    (some (store.answerPatch now bucket name body).1, (store.answerPatch now bucket name body).2) := by
  rw [HttpRequest.route] at route
  rw [answer, route]

theorem answer_delete (route : request.route = .delete bucket name) : store.answer now request body =
    (some (store.answerDelete bucket name).1, (store.answerDelete bucket name).2) := by
  rw [HttpRequest.route] at route
  rw [answer, route]

theorem answer_announce (route : request.route = .announce bucket) : store.answer now request body =
    (some (store.answerAnnounce bucket request.parameters request.headers body).1,
      (store.answerAnnounce bucket request.parameters request.headers body).2) := by
  rw [HttpRequest.route] at route
  rw [answer, route]
  rfl

theorem answer_upload (route : request.route = .upload) : store.answer now request body =
    (some (store.answerUpload now request.parameters request.headers body).1,
      (store.answerUpload now request.parameters request.headers body).2) := by
  rw [HttpRequest.route] at route
  rw [answer, route]
  rfl

theorem pageOffset_list (bucket : String) (query : Query) :
    pageOffset (Simulation.Sent.list bucket query).parameters = (Decimal.unsigned? 64 query.cursor).getD 0 := by
  obtain ⟨_, _, cursor, _⟩ := Simulation.get?_listPairs query
  rw [Simulation.parameters_list, pageOffset, cursor]
  by_cases isEmpty : query.cursor = ""
  · rw [isEmpty]
    rfl
  · rw [if_neg isEmpty, Option.bind_some]

theorem pageSize_list (bucket : String) (query : Query) :
    pageSize (Simulation.Sent.list bucket query).parameters =
      if query.maxResults = 0 then defaultPageSize else query.maxResults.toNat := by
  obtain ⟨_, _, _, count⟩ := Simulation.get?_listPairs query
  rw [Simulation.parameters_list, pageSize, count]
  by_cases isZero : query.maxResults = 0
  · rw [if_pos isZero, if_pos isZero]
    rfl
  · have inRange : query.maxResults.toNat < Width.bound 64 := by
      have bound := query.maxResults.toNat_lt
      have size : Width.bound 64 = 2 ^ 64 := rfl
      omega
    have positive : 0 < query.maxResults.toNat := by
      have notZero : query.maxResults.toNat ≠ 0 := fun same => isZero (UInt32.toNat_inj.1 same)
      omega
    rw [if_neg isZero, if_neg isZero, Option.bind_some, Decimal.unsigned?_repr inRange,
      Option.filter_some, decide_eq_true positive]
    rfl

end Store

namespace Simulation

theorem transport_of_collect {request : HttpRequest} {body : Bytes} (read : request.body.collect = .ok body)
    (simulation : Simulation) :
    transport request simulation = (reply (simulation.store.answer simulation.clock.now request body).1,
      { simulation with store := (simulation.store.answer simulation.clock.now request body).2 }) := by
  simp only [transport, read]
  split <;> rename_i answered <;> rw [answered] <;> rfl

theorem run_sending {α : Type} {checked : Except InvalidRequest Unit} {request : HttpRequest}
    {response : HttpResponse} {simulation after : Simulation}
    (answered : transport request simulation = (.answer (.ok response), after))
    (result : Except TransportError HttpResponse → Except Error α) :
    (Operation.sending (checked.map fun _ => request) fun reply => .done (result reply)).run transport simulation =
      match checked with
      | .error reason => (.finished (.error (.invalidRequest reason)), simulation)
      | .ok () => (.finished (result (.ok response)), after) := by
  cases checked with
  | error reason => rfl
  | ok => simp only [Except.map, Operation.sending, Exchange.run, answered]

def shown (bucket : String) (response : HttpResponse) : Except Error Object := do
  let response ← response.check
  response.object bucket

theorem shown_resource (bucket name : String) (object : StoredObject) :
    shown bucket (.ofJson Status.ok (object.toResource bucket name).toJson) = Atomic.view bucket name object := by
  have succeeded : Status.isSuccess
      (HttpResponse.ofJson Status.ok (object.toResource bucket name).toJson).status = true := rfl
  rw [shown, HttpResponse.check_of_success succeeded]
  simp only [bind, Except.bind, HttpResponse.object_ofJson, Atomic.view]

theorem shown_noSuchObject (bucket name : String) :
    shown bucket (.noSuchObject bucket name) = .error (Atomic.missing bucket name) := by
  rw [shown, HttpResponse.check_noSuchObject]
  rfl

theorem shown_refusal {status : Nat} {message : String} (bucket : String) (failed : Status.isSuccess status = false)
    (notEmpty : message ≠ "") : shown bucket (.refusal status message) = .error (Atomic.refusal status message) := by
  rw [shown, HttpResponse.check_refusal failed notEmpty]
  rfl

theorem transport_list (bucket : String) (query : Query) (simulation : Simulation) :
    transport (Sent.list bucket query) simulation =
      (reply ((Store.page bucket (simulation.store.entries bucket query.stem query.delimiter)
        ((Decimal.unsigned? 64 query.cursor).getD 0)
        (if query.maxResults = 0 then Store.defaultPageSize else query.maxResults.toNat)).map
          fun listing => .ofJson Status.ok listing.toJson), simulation) := by
  have sent : transport (Sent.list bucket query) simulation =
      (reply (simulation.store.answerList bucket (Sent.list bucket query).parameters), simulation) := by
    rw [transport_of_collect rfl, Store.answer_list _ _ _ (Sent.route_list bucket query)]
  have offset := Store.pageOffset_list bucket query
  have count := Store.pageSize_list bucket query
  obtain ⟨stem, delimiter, _, _⟩ := get?_listPairs query
  rw [parameters_list] at sent offset count
  simp only [sent, Store.answerList, stem, delimiter, offset, count]

section Bucket

variable {bucket : String} (isBucket : IsPlaceName bucket) (simulation : Simulation)

include isBucket

theorem run_stat (name : String) : ((bucketConfig bucket).stat name).run transport simulation =
    (.finished (Atomic.stat simulation.store bucket name), simulation) := by
  have answered : transport (Sent.stat bucket name) simulation =
      (.answer (.ok (simulation.store.answerStat bucket name)), simulation) := by
    rw [transport_of_collect rfl, Store.answer_stat _ _ _ (Sent.route_stat bucket name)]
    rfl
  rw [BucketConfig.stat, statRequest_eq isBucket, run_sending answered]
  cases checked : checkSegmentName name with
  | error reason => simp [Atomic.stat, Atomic.checkName, checked, Except.mapError, bind, Except.bind]
  | ok =>
      change (Ended.finished (shown bucket (simulation.store.answerStat bucket name)), simulation) = _
      simp only [Store.answerStat, Atomic.stat, Atomic.checkName, checked, Except.mapError, bind, Except.bind]
      cases simulation.store.find? bucket name with
      | some object => rw [shown_resource]
      | none => rw [shown_noSuchObject]

theorem run_read (request : ReadRequest) : ((bucketConfig bucket).read request).run transport simulation =
    (.finished (Atomic.read simulation.store bucket request), simulation) := by
  have answered : transport (Sent.read bucket request) simulation = (.answer (.ok (simulation.store.answerRead
      bucket request.name (Sent.read bucket request).parameters)), simulation) := by
    rw [transport_of_collect rfl, Store.answer_read _ _ _ (Sent.route_read bucket request)]
    rfl
  rw [BucketConfig.read, readRequest_eq isBucket, run_sending answered]
  cases checked : checkSegmentName request.name with
  | error reason => simp [Atomic.read, Atomic.checkName, checked, Except.mapError, bind, Except.bind]
  | ok =>
      have missing : (Operation.accepted (.ok (HttpResponse.noSuchObject bucket request.name))) =
          .error (Atomic.missing bucket request.name) := HttpResponse.check_noSuchObject bucket request.name
      simp only [Store.answerRead, Atomic.read, Atomic.checkName, checked, Except.mapError, bind, Except.bind,
        get?_read]
      cases simulation.store.find? bucket request.name with
      | none => simp only [missing]
      | some object =>
          by_cases latest : request.generation = 0
          · simp only [latest, if_true, true_or]
            rfl
          · simp only [latest, if_false, Decimal.signed?_toInt, false_or]
            by_cases current : request.generation.toInt = object.generation
            · simp [current]
              rfl
            · simp [current, missing]

theorem run_update (request : UpdateRequest) : ((bucketConfig bucket).update request).run transport simulation =
    (.finished (Atomic.update simulation.store simulation.clock.now bucket request).1,
      { simulation with store := (Atomic.update simulation.store simulation.clock.now bucket request).2 }) := by
  have answered : transport (Sent.update bucket request) simulation =
      (.answer (.ok (simulation.store.answerPatch simulation.clock.now bucket request.name
        (Bytes.ofText request.patch.compact)).1), { simulation with store := (simulation.store.answerPatch
          simulation.clock.now bucket request.name (Bytes.ofText request.patch.compact)).2 }) := by
    rw [transport_of_collect (Body.collect_full _), Store.answer_patch _ _ _ (Sent.route_update bucket request)]
    rfl
  rw [BucketConfig.update, updateRequest_eq isBucket, run_sending answered]
  cases checked : checkSegmentName request.name with
  | error reason => simp [Atomic.update, Atomic.checkName, checked, Except.mapError]
  | ok =>
      change (Ended.finished (shown bucket _), _) = _
      simp only [Atomic.update, Atomic.checkName, checked, Except.mapError, Store.answerPatch,
        UpdateRequest.parseObject_patch, Store.patchObject_members]
      cases simulation.store.find? bucket request.name with
      | none => simp only [shown_noSuchObject]
      | some object =>
          by_cases cleared : (Atomic.applyUpdate request object).contentType = ""
          · have failed : Status.isSuccess Status.badRequest = false := by decide
            have notEmpty : Store.PatchFault.noContentType.message ≠ "" := by decide
            simp only [cleared, if_true, shown_refusal bucket failed notEmpty]
            rfl
          · simp only [cleared, if_false, shown_resource]
            rfl

theorem run_delete (name : String) : ((bucketConfig bucket).delete name).run transport simulation =
    (.finished (Atomic.delete simulation.store bucket name).1,
      { simulation with store := (Atomic.delete simulation.store bucket name).2 }) := by
  have answered : transport (Sent.delete bucket name) simulation =
      (.answer (.ok (simulation.store.answerDelete bucket name).1),
        { simulation with store := (simulation.store.answerDelete bucket name).2 }) := by
    rw [transport_of_collect rfl, Store.answer_delete _ _ _ (Sent.route_delete bucket name)]
    rfl
  rw [BucketConfig.delete, deleteRequest_eq isBucket, run_sending answered]
  cases checked : checkSegmentName name with
  | error reason => simp [Atomic.delete, Atomic.checkName, checked, Except.mapError]
  | ok =>
      simp only [Atomic.delete, Atomic.checkName, checked, Except.mapError, Store.answerDelete]
      cases simulation.store.find? bucket name with
      | some object => rfl
      | none => simp only [bind, Except.bind, HttpResponse.check_noSuchObject]

theorem run_list (query : Query) : ((bucketConfig bucket).list query).run transport simulation =
    (Atomic.list simulation.store bucket query, simulation) := by
  have sent := transport_list bucket query simulation
  simp only [Store.page] at sent
  rw [BucketConfig.list, listRequest_eq isBucket]
  simp only [Operation.sending, Exchange.run, Atomic.list]
  generalize (Decimal.unsigned? 64 query.cursor).getD 0 = first at sent ⊢
  generalize (if query.maxResults = 0 then Store.defaultPageSize else query.maxResults.toNat) = size at sent ⊢
  generalize simulation.store.entries bucket query.stem query.delimiter = all at sent ⊢
  by_cases overflows : Width.bound 64 ≤ first + size
  · rw [if_pos overflows] at sent
    simp only [sent, Option.map_none, reply, if_pos overflows]
  · rw [if_neg overflows] at sent
    simp only [sent, Option.map_some, reply, if_neg overflows]
    have succeeded (value : Json.Value) : Status.isSuccess (HttpResponse.ofJson Status.ok value).status = true := rfl
    rw [Operation.accepted]
    simp only [Except.mapError, bind, Except.bind, HttpResponse.check_of_success (succeeded _),
      HttpResponse.page_ofJson, Option.getD_some]
    have bucketName : (bucketConfig bucket).name = bucket := rfl
    have next : ((if first + size < all.length then some (toString (first + size)) else none).filter (· ≠ "")).map
          (fun cursor => { query with cursor }) =
        if first + size < all.length then some { query with cursor := toString (first + size) } else none := by
      split
      · have notEmpty : toString (first + size) ≠ "" := Decimal.repr_ne_empty (first + size)
        rw [Option.filter_some, if_pos (decide_eq_true notEmpty)]
        rfl
      · rfl
    rw [bucketName, next]
    cases (((all.drop first).take size).filterMap (Store.Entry.item? bucket)).mapM (Object.ofResource bucket) <;> rfl

end Bucket

end Simulation

end ObjectStore
