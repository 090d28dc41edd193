import ObjectStore.Proofs.Atomic.Operation

/-!
A creation over the simulated service. Its announcement opens a session that holds what was announced,
and its contents, whenever they are sent, finish that creation as the bucket without a wire would do
it then.
-/

namespace ObjectStore

open Url (IsPlaceName)

theorem Attributes.effectiveContentType_ne_empty (attributes : Attributes) :
    attributes.effectiveContentType ≠ "" := by
  unfold effectiveContentType
  split
  · decide
  · assumption

namespace Atomic

def pending (bucket : String) (request : CreateRequest) : PendingUpload :=
  ⟨bucket, { request.attributes.toResource bucket with contentType := request.attributes.effectiveContentType },
    request.precondition.map Int64.toInt⟩

theorem toObject_pending (bucket : String) (request : CreateRequest) (contentType : String) (contents : Bytes)
    (generation : Nat) (now : Timestamp) :
    Store.PendingUpload.toObject (pending bucket request) contentType contents generation now =
      newObject request.attributes contents generation now := by
  have metadata : (if request.attributes.metadata.isEmpty then none else some request.attributes.metadata).getD ∅ =
      request.attributes.metadata := by
    split
    · rename_i isEmpty
      exact (Dictionary.eq_empty_of_isEmpty isEmpty).symm
    · rfl
  have acl : (if request.attributes.acl.isEmpty then none else some request.attributes.acl).getD [] =
      request.attributes.acl := by
    split
    · rename_i isEmpty
      exact (List.isEmpty_iff.1 isEmpty).symm
    · rfl
  have notEmpty := request.attributes.effectiveContentType_ne_empty
  simp only [Store.PendingUpload.toObject, pending, Attributes.toResource, newObject, metadata, acl, notEmpty, if_false]

theorem create_withUploads (store : Store) (now : Timestamp) (bucket : String) (request : CreateRequest) (number : Nat)
    (uploads : Dictionary PendingUpload) :
    create { store with nextUpload := number, uploads } now bucket request =
      ((create store now bucket request).1,
        { (create store now bucket request).2 with nextUpload := number, uploads }) := by
  have current : Store.generationOf { store with nextUpload := number, uploads } bucket request.attributes.name =
      store.generationOf bucket request.attributes.name := rfl
  simp only [create, current]
  split
  · rfl
  · rfl
  · split <;> rfl

theorem checkCreate_of_valid {request : CreateRequest} (isName : validateName request.attributes.name = .ok ())
    (isHeader : Headers.isValidValue (Bytes.ofText request.attributes.contentType) = true) :
    checkCreate request = .ok () := by
  have isEffective : Headers.isValidValue (Bytes.ofText request.attributes.effectiveContentType) = true := by
    unfold Attributes.effectiveContentType
    split
    · decide
    · exact isHeader
  simp only [checkCreate, isName, isEffective]
  rfl

theorem admits_of_current {precondition : Option Int64} {generation : Nat}
    (current : ∀ expected, precondition = some expected → expected.toInt = generation) :
    admits precondition generation = true := by
  cases precondition with
  | none => rfl
  | some expected => simpa [admits] using current expected rfl

theorem admits_pending (bucket : String) (request : CreateRequest) (current : Nat) :
    Store.PendingUpload.admits (pending bucket request) current = admits request.precondition current := by
  cases precondition : request.precondition with
  | none => simp [Store.PendingUpload.admits, pending, admits, precondition]
  | some expected => simp [Store.PendingUpload.admits, pending, admits, precondition]

end Atomic

namespace Simulation

/-! ### The announcement -/

theorem name_ne_empty {request : CreateRequest} (isValid : Atomic.checkCreate request = .ok ()) :
    request.attributes.name ≠ "" := by
  intro isEmpty
  have refused : Atomic.checkCreate request = .error (.invalidRequest .emptyName) := by
    simp only [Atomic.checkCreate, validateName, checkSegmentName, isEmpty]
    rfl
  rw [refused] at isValid
  cases isValid

theorem readAnnouncement_sent (bucket : String) {request : CreateRequest}
    (isValid : Atomic.checkCreate request = .ok ()) :
    Store.readAnnouncement bucket (Sent.announce bucket request).parameters (Sent.announce bucket request).headers
      (request.attributes.serialize bucket) = .ok (Atomic.pending bucket request) := by
  obtain ⟨kind, carried⟩ := get?_announce bucket request
  have precondition : Store.readPrecondition (Sent.announce bucket request).parameters =
      .ok (request.precondition.map Int64.toInt) := by
    rw [Store.readPrecondition, carried]
    cases request.precondition with
    | none => rfl
    | some generation => simp only [Option.map_some, Decimal.signed?_toInt]
  have contentType : (if (request.attributes.toResource bucket).contentType = "" then
        ((Sent.announce bucket request).headers.getText? "x-upload-content-type").getD ""
      else (request.attributes.toResource bucket).contentType) = request.attributes.effectiveContentType := by
    by_cases absent : request.attributes.contentType = ""
    · have effective : request.attributes.effectiveContentType = defaultContentType := if_pos absent
      have resource : (request.attributes.toResource bucket).contentType = "" := absent
      have visible : Headers.visibleText? (Bytes.ofText defaultContentType) = some defaultContentType :=
        visibleText?_ofText (by decide)
      rw [if_pos resource, Sent.announce, Headers.getText?, Headers.get?_insert, if_pos rfl, Option.bind_some,
        effective, visible, Option.getD_some]
    · have effective : request.attributes.effectiveContentType = request.attributes.contentType := if_neg absent
      have resource : (request.attributes.toResource bucket).contentType ≠ "" := absent
      rw [if_neg resource, effective]
      rfl
  have name : (request.attributes.toResource bucket).name ≠ "" := name_ne_empty isValid
  simp only [Store.readAnnouncement, kind, Attributes.serialize, Resource.parse_toJson, Except.mapError, bind,
    Except.bind, if_neg name, precondition, contentType]
  rfl

theorem transport_announce (bucket : String) {request : CreateRequest}
    (isValid : Atomic.checkCreate request = .ok ()) (simulation : Simulation) :
    transport (Sent.announce bucket request) simulation =
      (.answer (.ok (announced bucket (simulation.store.nextUpload + 1))),
        { simulation with store := (simulation.store.announce (Atomic.pending bucket request)).2 }) := by
  have answer : simulation.store.answerAnnounce bucket (Sent.announce bucket request).parameters
      (Sent.announce bucket request).headers (request.attributes.serialize bucket) =
        (announced bucket (simulation.store.nextUpload + 1),
          (simulation.store.announce (Atomic.pending bucket request)).2) := by
    rw [Store.answerAnnounce, readAnnouncement_sent bucket isValid]
    rfl
  rw [transport_of_collect (Body.collect_full _), Store.answer_announce _ _ _ (Sent.route_announce bucket request)]
  change (reply (some (Store.answerAnnounce _ _ _ _ (request.attributes.serialize bucket)).1),
    Simulation.mk _ (Store.answerAnnounce _ _ _ _ (request.attributes.serialize bucket)).2) = _
  rw [answer]
  rfl

/-! ### The contents -/

def uploading (bucket : String) (request : CreateRequest) (number : Nat) : Operation Object :=
  .send (Sent.upload bucket request number) fun reply => .done do
    let response ← Operation.accepted reply
    response.object bucket

theorem answerUpload_sent {bucket : String} {request : CreateRequest} (isValid : Atomic.checkCreate request = .ok ())
    {number : Nat} {store : Store}
    (isOpen : store.uploads.get? (Store.sessionName number) = some (Atomic.pending bucket request))
    {contents : Bytes} (read : request.contents.collect = .ok contents) (now : Timestamp) {response : HttpResponse}
    {after : Store} (answered : store.answerUpload now (Sent.upload bucket request number).parameters
      (Sent.upload bucket request number).headers contents = (response, after)) :
    shown bucket response = (Atomic.create store now bucket request).1 ∧
      after = { (Atomic.create store now bucket request).2 with
        uploads := store.uploads.erase (Store.sessionName number) } := by
  have taken : store.takeUpload (Store.sessionName number) = some (Atomic.pending bucket request,
      { store with uploads := store.uploads.erase (Store.sessionName number) }) := by
    rw [Store.takeUpload, isOpen]
    rfl
  simp only [Store.answerUpload, get?_upload, Option.bind_some, taken, Atomic.admits_pending] at answered
  simp only [Atomic.create, isValid, read]
  have current : Store.generationOf { store with uploads := store.uploads.erase (Store.sessionName number) }
      (Atomic.pending bucket request).bucket (Atomic.pending bucket request).resource.name =
        store.generationOf bucket request.attributes.name := rfl
  rw [current] at answered
  cases admitted : Atomic.admits request.precondition (store.generationOf bucket request.attributes.name) with
  | false =>
      simp only [admitted, if_false, Bool.false_eq_true] at answered ⊢
      obtain ⟨rfl, rfl⟩ := Prod.mk.inj answered
      have failed : Status.isSuccess Status.preconditionFailed = false := by decide
      have notEmpty : "Precondition Failed" ≠ "" := by decide
      exact ⟨shown_refusal bucket failed notEmpty, rfl⟩
  | true =>
      simp only [admitted, if_true, Store.write, Atomic.toObject_pending] at answered ⊢
      obtain ⟨rfl, rfl⟩ := Prod.mk.inj answered
      exact ⟨shown_resource _ _ _, rfl⟩

theorem run_uploading {bucket : String} {request : CreateRequest} (isValid : Atomic.checkCreate request = .ok ())
    {number : Nat} {simulation : Simulation}
    (isOpen : simulation.store.uploads.get? (Store.sessionName number) = some (Atomic.pending bucket request)) :
    ∃ uploads : Dictionary PendingUpload,
      (∀ session, session ≠ Store.sessionName number →
        uploads.get? session = simulation.store.uploads.get? session) ∧
      (uploading bucket request number).run transport simulation =
        (.finished (Atomic.create simulation.store simulation.clock.now bucket request).1,
          { simulation with store :=
            { (Atomic.create simulation.store simulation.clock.now bucket request).2 with uploads } }) := by
  cases read : request.contents.collect with
  | error failure =>
      refine ⟨simulation.store.uploads, fun _ _ => rfl, ?_⟩
      have unread : (Sent.upload bucket request number).body.collect = .error failure.toTransportError := by
        change Except.mapError _ request.contents.collect = _
        rw [read]
        rfl
      simp only [uploading, Exchange.run, transport, unread, Atomic.create, isValid, read]
      rfl
  | ok contents =>
      have arrived : (Sent.upload bucket request number).body.collect = .ok contents := by
        change Except.mapError _ request.contents.collect = _
        rw [read]
        rfl
      cases answered : simulation.store.answerUpload simulation.clock.now
        (Sent.upload bucket request number).parameters (Sent.upload bucket request number).headers contents with
      | mk response after =>
          obtain ⟨result, left⟩ := answerUpload_sent isValid isOpen read _ answered
          have replied : transport (Sent.upload bucket request number) simulation =
              (.answer (.ok response), { simulation with store := after }) := by
            rw [transport_of_collect arrived, Store.answer_upload _ _ _ (Sent.route_upload bucket request number),
              answered]
            rfl
          refine ⟨simulation.store.uploads.erase (Store.sessionName number), fun session differs => ?_, ?_⟩
          · rw [Dictionary.get?_erase, if_neg differs]
          · simp only [uploading, Exchange.run, replied]
            change (Ended.finished (shown bucket response), _) = _
            rw [result, left]

/-! ### The whole creation -/

theorem create_invalid {bucket : String} (isBucket : IsPlaceName bucket) {request : CreateRequest} {error : Error}
    (isInvalid : Atomic.checkCreate request = .error error) :
    (bucketConfig bucket).create request = .done (.error error) := by
  have announced := announceRequest_eq isBucket request
  rw [isInvalid] at announced
  rw [BucketConfig.create]
  cases checked : (bucketConfig bucket).announceRequest request with
  | ok sent =>
      rw [checked] at announced
      cases announced
  | error reason =>
      rw [checked] at announced
      cases announced
      rfl

theorem announceRequest_of_valid {bucket : String} (isBucket : IsPlaceName bucket) {request : CreateRequest}
    (isValid : Atomic.checkCreate request = .ok ()) :
    (bucketConfig bucket).announceRequest request = .ok (Sent.announce bucket request) := by
  have checked := announceRequest_eq isBucket request
  rw [isValid] at checked
  cases sent : (bucketConfig bucket).announceRequest request with
  | error reason =>
      rw [sent] at checked
      cases checked
  | ok first =>
      rw [sent] at checked
      cases checked
      rfl

theorem create_valid {bucket : String} (isBucket : IsPlaceName bucket) {request : CreateRequest}
    (isValid : Atomic.checkCreate request = .ok ()) :
    ∃ next, (bucketConfig bucket).create request = .send (Sent.announce bucket request) next ∧
      ∀ number, next (.ok (announced bucket number)) = uploading bucket request number := by
  have sent := announceRequest_of_valid isBucket isValid
  refine ⟨_, by rw [BucketConfig.create, sent]; rfl, fun number => ?_⟩
  have place := uploadUrl_eq isBucket number
  have located : (BucketConfig.uploadUrl (.ok (announced bucket number)) >>=
      (bucketConfig bucket).uploadRequest request) = .ok (Sent.upload bucket request number) := by
    rw [place]
    exact uploadRequest_eq bucket request number
  simp only [located]
  rfl

theorem state_of_uploading (bucket : String) (request : CreateRequest) (number : Nat) (simulation : Simulation) :
    ((uploading bucket request number).run transport simulation).2 =
      (transport (Sent.upload bucket request number) simulation).2 := by
  simp only [uploading, Exchange.run]
  rcases transport (Sent.upload bucket request number) simulation with ⟨_ | _ | _, after⟩ <;> rfl

theorem run_announced (bucket : String) {request : CreateRequest} (isValid : Atomic.checkCreate request = .ok ())
    (simulation : Simulation) :
    ∃ uploads : Dictionary PendingUpload,
      (uploading bucket request (simulation.store.nextUpload + 1)).run transport
          { simulation with store := (simulation.store.announce (Atomic.pending bucket request)).2 } =
        (.finished (Atomic.create simulation.store simulation.clock.now bucket request).1,
          { simulation with store :=
            { (Atomic.create simulation.store simulation.clock.now bucket request).2 with
              nextUpload := simulation.store.nextUpload + 1, uploads } }) := by
  let opened : Simulation :=
    { simulation with store := (simulation.store.announce (Atomic.pending bucket request)).2 }
  have isOpen : opened.store.uploads.get? (Store.sessionName (simulation.store.nextUpload + 1)) =
      some (Atomic.pending bucket request) := by
    change (simulation.store.uploads.insert _ _).get? _ = _
    rw [Dictionary.get?_insert, if_pos rfl]
  have done : Atomic.create opened.store opened.clock.now bucket request =
      ((Atomic.create simulation.store simulation.clock.now bucket request).1,
        { (Atomic.create simulation.store simulation.clock.now bucket request).2 with
          nextUpload := opened.store.nextUpload, uploads := opened.store.uploads }) :=
    Atomic.create_withUploads ..
  obtain ⟨uploads, _, finished⟩ := run_uploading isValid isOpen
  rw [done] at finished
  exact ⟨uploads, finished⟩

/-- A creation does what it does at once, but for the session that it leaves behind. -/
theorem run_create {bucket : String} (isBucket : IsPlaceName bucket) (request : CreateRequest)
    (simulation : Simulation) :
    ∃ (number : Nat) (uploads : Dictionary PendingUpload),
      ((bucketConfig bucket).create request).run transport simulation =
        (.finished (Atomic.create simulation.store simulation.clock.now bucket request).1,
          { simulation with store :=
            { (Atomic.create simulation.store simulation.clock.now bucket request).2 with
              nextUpload := number, uploads } }) := by
  cases checked : Atomic.checkCreate request with
  | error error =>
      refine ⟨simulation.store.nextUpload, simulation.store.uploads, ?_⟩
      rw [create_invalid isBucket checked]
      simp only [Atomic.create, checked]
      rfl
  | ok =>
      obtain ⟨next, created, rest⟩ := create_valid isBucket checked
      obtain ⟨uploads, finished⟩ := run_announced bucket checked simulation
      refine ⟨simulation.store.nextUpload + 1, uploads, ?_⟩
      simp only [created, Exchange.run, transport_announce bucket checked, rest]
      exact finished

end Simulation

end ObjectStore
