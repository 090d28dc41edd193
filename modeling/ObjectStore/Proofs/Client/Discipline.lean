import ObjectStore.Proofs.Client.Taxonomy

/-!
What an operation sends, whatever the answers. A request that is invalid is found before anything is sent, no
request is sent twice, and the contents of an object go to the place that its announcement was answered with.
-/

namespace ObjectStore

open Simulation (isVisible isVisible_iff visibleText?_ofText)

variable {σ : Type}

/-! ### Places for contents -/

theorem Headers.visibleText?_eq_some_iff {value : Bytes} {text : String} :
    visibleText? value = some text ↔ value = Bytes.ofText text ∧ (Bytes.ofText text).all isVisible = true := by
  have shown : visibleText? value =
      if value.all isVisible = true then some (String.ofList (Bytes.toChars value)) else none := rfl
  constructor
  · intro read
    by_cases visible : value.all isVisible = true
    · have isAscii : Bytes.IsAscii value := by
        intro byte member
        have bounds := isVisible_iff.1 (List.all_eq_true.1 visible byte member)
        apply Bytes.lt_of_toNat_lt
        omega
      rw [shown, if_pos visible] at read
      have same : Bytes.ofText text = value := by
        rw [← Option.some.inj read, Bytes.ofText_ofList, Bytes.flatMap_toChars isAscii]
      rw [same]
      exact ⟨rfl, visible⟩
    · rw [shown, if_neg visible] at read
      cases read
  · rintro ⟨rfl, visible⟩
    exact visibleText?_ofText visible

def Reply.Names (reply : Reply) (url : Url) : Prop :=
  ∃ response text, reply = .answer (.ok response) ∧ Status.isSuccess response.status = true ∧
    response.headers.get? "location" = some (Bytes.ofText text) ∧ text ≠ "" ∧
    (∀ byte ∈ Bytes.ofText text, (0x20 ≤ byte.toNat ∧ byte.toNat < 0x7F) ∨ byte.toNat = 0x09) ∧
    Url.parse text = .ok url

theorem success_of_accepted {answer : Except TransportError HttpResponse} {response : HttpResponse}
    (accepted : Operation.accepted answer = .ok response) :
    answer = .ok response ∧ Status.isSuccess response.status = true := by
  cases answer with
  | error error => cases accepted
  | ok given =>
      cases succeeded : Status.isSuccess given.status with
      | true =>
          rw [Operation.accepted_of_success succeeded] at accepted
          cases accepted
          exact ⟨rfl, succeeded⟩
      | false =>
          rw [Operation.accepted_of_refused succeeded] at accepted
          cases accepted

theorem BucketConfig.uploadUrl_eq_ok_iff {answer : Except TransportError HttpResponse} {url : Url} :
    uploadUrl answer = .ok url ↔ (Reply.answer answer).Names url := by
  constructor
  · intro placed
    cases accepted : Operation.accepted answer with
    | error error =>
        rw [uploadUrl, accepted] at placed
        cases placed
    | ok response =>
        obtain ⟨answered, succeeded⟩ := success_of_accepted accepted
        rw [uploadUrl, accepted] at placed
        simp only [bind, Except.bind] at placed
        split at placed
        · cases placed
        · rename_i text located
          obtain ⟨isText, notEmpty⟩ := Option.filter_eq_some_iff.1 located
          obtain ⟨value, first, read⟩ := Option.bind_eq_some_iff.1 isText
          obtain ⟨isValue, visible⟩ := Headers.visibleText?_eq_some_iff.1 read
          refine ⟨response, text, congrArg Reply.answer answered, succeeded, ?_, by simpa using notEmpty, ?_, ?_⟩
          · rw [first, isValue]
          · intro byte member
            exact isVisible_iff.1 (List.all_eq_true.1 visible byte member)
          · cases parsed : Url.parse text with
            | error fault =>
                rw [parsed] at placed
                cases placed
            | ok other =>
                rw [parsed] at placed
                cases placed
                rfl
  · rintro ⟨response, text, answered, succeeded, first, notEmpty, visible, parsed⟩
    have readable : (Bytes.ofText text).all isVisible = true :=
      List.all_eq_true.2 fun byte member => isVisible_iff.2 (visible byte member)
    have located : response.headers.getText? "location" = some text := by
      rw [Headers.getText?, first, Option.bind_some, visibleText?_ofText readable]
    cases answered
    rw [uploadUrl, Operation.accepted_of_success succeeded]
    simp only [bind, Except.bind, located, Option.filter_some, decide_eq_true notEmpty, if_true, parsed]
    rfl

/-! ### What is sent -/

structure HttpRequest.Uploads (request announcement : HttpRequest) (create : CreateRequest) (url : Url) : Prop where
  method : request.method = .put
  url : request.url = url
  contentType : request.headers.get? "content-type" = announcement.headers.get? "x-upload-content-type"
  body : request.body = .stream create.contents

theorem BucketConfig.uploads_of_ok {config : BucketConfig} {create : CreateRequest} {announcement put : HttpRequest}
    {url : Url} (announced : config.IsAnnouncement create announcement)
    (sent : config.uploadRequest create url = .ok put) : put.Uploads announcement create url := by
  rw [uploadRequest_of_agent announced.agent] at sent
  cases sent
  constructor
  case method => rfl
  case url => rfl
  case contentType =>
    rw [announced.contentType]
    simp [HttpRequest.withHeader, HttpRequest.withBody]
  case body => rfl

namespace Simulation.Action

variable {config : BucketConfig}

structure Creates (config : BucketConfig) (create : CreateRequest) (announcement : HttpRequest) (reply : Reply)
    (rest : Log) : Prop where
  announces : config.IsAnnouncement create announcement
  uploads : ∀ url, reply.Names url → ∃ put last, rest = [(put, last)] ∧ put.Uploads announcement create url
  stops : (∀ url, ¬reply.Names url) → rest = []

structure Disciplined (config : BucketConfig) (action : Action) (log : Log) (ended : Ended (Except Error Outcome)) :
    Prop where
  refused : (∃ reason, ended = .finished (.error (.invalidRequest reason))) ↔ log = []
  once : action.isCreation = false → log.length ≤ 1
  creates : ∀ create, action = .create create → log ≠ [] →
    ∃ announcement reply rest, log = (announcement, reply) :: rest ∧ Creates config create announcement reply rest
  succeeded : ∀ outcome, ended = .finished (.ok outcome) →
    ∀ entry ∈ log, ∃ response, entry.2 = .answer (.ok response) ∧ Status.isSuccess response.status = true

theorem Verdict.success {action : Action} {request : HttpRequest} {answer : Except TransportError HttpResponse}
    {outcome : Outcome} (verdict : action.Verdict request answer (.ok outcome)) :
    ∃ response, answer = .ok response ∧ Status.isSuccess response.status = true := by
  cases answer with
  | error error => cases verdict.failed error rfl
  | ok response =>
      cases succeeded : Status.isSuccess response.status with
      | true => exact ⟨response, rfl, succeeded⟩
      | false =>
          obtain ⟨error, _, ended⟩ := verdict.refused response rfl succeeded
          cases ended

theorem Verdict.not_invalid {action : Action} {request : HttpRequest} {answer : Except TransportError HttpResponse}
    {reason : InvalidRequest} (verdict : action.Verdict request answer (.error (.invalidRequest reason))) : False := by
  cases answer with
  | error error =>
      have ended := verdict.failed error rfl
      split at ended <;> cases ended
  | ok response =>
      cases succeeded : Status.isSuccess response.status with
      | true =>
          rcases verdict.accepted response rfl succeeded with gives | ⟨_, _, _, ended⟩
          · cases gives
          · cases ended
      | false =>
          obtain ⟨error, _, ended⟩ := verdict.refused response rfl succeeded
          split at ended
          · cases ended
          · split at ended <;> cases ended

theorem EndsAs.of_finished {action : Action} {request : HttpRequest} {reply : Reply} {result : Except Error Outcome}
    (ends : action.EndsAs request reply (.finished result)) :
    ∃ answer, reply = .answer answer ∧ action.Verdict request answer result := by
  cases reply with
  | answer answer =>
      obtain ⟨other, ended, verdict⟩ := ends.answered answer rfl
      cases ended
      exact ⟨answer, rfl, verdict⟩
  | silence => cases ends.silent rfl
  | fault message => cases ends.broken message rfl

namespace Course

variable {action : Action} {log : Log} {ended : Ended (Except Error Outcome)}

theorem refused_iff (course : action.Course config log ended) :
    (∃ reason, ended = .finished (.error (.invalidRequest reason))) ↔ log = [] := by
  constructor
  · rintro ⟨reason, rfl⟩
    by_contra sent
    obtain ⟨request, reply, _, ends⟩ := course.endsAs sent
    obtain ⟨answer, _, verdict⟩ := ends.of_finished
    exact verdict.not_invalid
  · intro unsent
    cases course with
    | refused reason invalid => exact ⟨reason, rfl⟩
    | single | announced | uploaded => cases unsent

theorem length_le_one (course : action.Course config log ended) (short : action.isCreation = false) :
    log.length ≤ 1 := by
  cases course with
  | refused | single | announced => simp
  | uploaded create request put answer url reply creates =>
      subst creates
      cases short

theorem creates {create : CreateRequest} (course : (Action.create create).Course config log ended) (sent : log ≠ []) :
    ∃ announcement reply rest, log = (announcement, reply) :: rest ∧
      Creates config create announcement reply rest := by
  cases course with
  | refused => exact absurd rfl sent
  | single request reply short => cases short
  | announced other request reply error creates valid unplaced =>
      cases creates
      have nowhere : ∀ url, ¬reply.Names url := by
        intro url names
        obtain ⟨response, text, rfl, _⟩ := id names
        have placed := BucketConfig.uploadUrl_eq_ok_iff.2 names
        rw [unplaced _ rfl] at placed
        cases placed
      refine ⟨request, reply, [], rfl, BucketConfig.isAnnouncement_of_ok valid, ?_, fun _ => rfl⟩
      intro url names
      exact absurd names (nowhere url)
  | uploaded other request put answer url last creates valid placed sent =>
      cases creates
      have announced := BucketConfig.isAnnouncement_of_ok valid
      refine ⟨request, .answer answer, [(put, last)], rfl, announced, ?_, ?_⟩
      · intro named names
        have same := BucketConfig.uploadUrl_eq_ok_iff.2 names
        rw [placed] at same
        cases same
        exact ⟨put, last, rfl, BucketConfig.uploads_of_ok announced sent⟩
      · intro nowhere
        exact absurd (BucketConfig.uploadUrl_eq_ok_iff.1 placed) (nowhere url)

variable {outcome : Outcome}

theorem last_succeeded (course : action.Course config log ended) (isOk : ended = .finished (.ok outcome))
    {entry : HttpRequest × Reply} (isLast : log.getLast? = some entry) :
    ∃ response, entry.2 = .answer (.ok response) ∧ Status.isSuccess response.status = true := by
  have sent : log ≠ [] := by
    rintro rfl
    cases isLast
  obtain ⟨request, reply, same, ends⟩ := course.endsAs sent
  rw [isLast] at same
  cases same
  rw [isOk] at ends
  obtain ⟨answer, rfl, verdict⟩ := ends.of_finished
  obtain ⟨response, rfl, succeeded⟩ := verdict.success
  exact ⟨response, rfl, succeeded⟩

theorem succeeded (course : action.Course config log ended) (isOk : ended = .finished (.ok outcome))
    {entry : HttpRequest × Reply} (member : entry ∈ log) :
    ∃ response, entry.2 = .answer (.ok response) ∧ Status.isSuccess response.status = true := by
  have lastOne : log.getLast? = some entry →
      ∃ response, entry.2 = .answer (.ok response) ∧ Status.isSuccess response.status = true :=
    course.last_succeeded isOk
  cases course with
  | refused => cases member
  | single | announced =>
      cases List.mem_singleton.1 member
      exact lastOne rfl
  | uploaded create request put answer url reply creates valid placed =>
      -- A second request is there because the announcement was answered with success.
      rcases List.mem_cons.1 member with rfl | member
      · obtain ⟨response, text, answered, succeeded, _⟩ := BucketConfig.uploadUrl_eq_ok_iff.1 placed
        exact ⟨response, answered, succeeded⟩
      · cases List.mem_singleton.1 member
        exact lastOne rfl

theorem disciplined (course : action.Course config log ended) : action.Disciplined config log ended := by
  constructor
  case refused => exact course.refused_iff
  case once => exact course.length_le_one
  case creates =>
    rintro create rfl sent
    exact course.creates sent
  case succeeded =>
    intro outcome isOk entry member
    exact course.succeeded isOk member

end Course

/-! ### Contents -/

section Contents

variable (transport : Transport σ) (state : σ) {create : CreateRequest}

theorem log_of_placed {request : HttpRequest} {answer : Except TransportError HttpResponse} {url : Url}
    (announced : config.announceRequest create = .ok request) (answered : (transport request state).1 = .answer answer)
    (placed : BucketConfig.uploadUrl answer = .ok url) :
    ∃ put last, put.method = .put ∧
      (Action.create create).log config transport state = [(request, .answer answer), (put, last)] := by
  have announces := BucketConfig.isAnnouncement_of_ok announced
  obtain ⟨put, sent⟩ : ∃ put, config.uploadRequest create url = .ok put :=
    ⟨_, BucketConfig.uploadRequest_of_agent announces.agent create url⟩
  rcases replied : transport request state with ⟨reply, after⟩
  rw [replied] at answered
  subst answered
  refine ⟨put, (transport put after).1, (BucketConfig.uploads_of_ok announces sent).method, ?_⟩
  rw [log, operation_create, announced]
  simp only [Operation.sending, Exchange.run, Transport.logged, replied, placed, bind, Except.bind, sent]
  rcases transport put after with ⟨answer | _ | message, last⟩ <;> rfl

theorem run_of_unplaced (contents : Content)
    (unplaced : ∀ request answer, config.announceRequest create = .ok request →
      (transport request state).1 = .answer answer → ∀ url, BucketConfig.uploadUrl answer ≠ .ok url) :
    ((Action.create { create with contents }).operation config).run transport state =
      ((Action.create create).operation config).run transport state := by
  have same : config.announceRequest { create with contents } = config.announceRequest create := rfl
  rw [operation_create, operation_create, same]
  cases announced : config.announceRequest create with
  | error reason => rfl
  | ok request =>
      simp only [Operation.sending, Exchange.run]
      rcases replied : transport request state with ⟨answer | _ | message, after⟩
      · cases place : BucketConfig.uploadUrl answer with
        | error error => simp only [place, bind, Except.bind]
        | ok url => exact absurd place (unplaced request answer announced (by rw [replied]) url)
      · rfl
      · rfl

end Contents

/-- Nothing is sent for a request that is refused. Any other is one request, or for a creation an announcement and
then, to the place that its answer names, the contents; they are looked at for nothing else. -/
theorem requests_are_disciplined (action : Action) (config : BucketConfig) (transport : Transport σ) (state : σ) :
    action.Disciplined config (action.log config transport state) ((action.operation config).run transport state).1 ∧
      ∀ create contents, action = .create create →
        (∀ entry ∈ action.log config transport state, entry.1.method ≠ .put) →
        (Action.create { create with contents }).log config transport state = action.log config transport state ∧
          ((Action.create { create with contents }).operation config).run transport state =
            (action.operation config).run transport state := by
  refine ⟨(course_of_run transport state action).disciplined, ?_⟩
  rintro create contents rfl unsent
  have unplaced : ∀ request answer, config.announceRequest create = .ok request →
      (transport request state).1 = .answer answer → ∀ url, BucketConfig.uploadUrl answer ≠ .ok url := by
    intro request answer announced answered url placed
    obtain ⟨put, last, isPut, logged⟩ := log_of_placed transport state announced answered placed
    exact unsent (put, last) (by simp [logged]) isPut
  have logged := run_of_unplaced transport.logged (state, []) contents unplaced
  refine ⟨?_, run_of_unplaced transport state contents unplaced⟩
  rw [log, log, logged]

end Simulation.Action

end ObjectStore
