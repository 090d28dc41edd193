import ObjectStore.Proofs.Client.Conversation

/-!
How an operation ends, told from the last answer that it got. A transport that fails, a response that is no
success and one that is are told apart first, and only the first two depend on nothing but the answer.
-/

namespace ObjectStore

variable {σ : Type}

structure ServiceError.Tells (error : ServiceError) (response : HttpResponse) : Prop where
  code : error.code = response.status
  readable : ∀ bytes, response.body.collect = .ok bytes → error.body = Bytes.toTextLossy bytes
  unreadable : ∀ failure, response.body.collect = .error failure →
    error.body = "<unreadable body: " ++ failure.toTransportError.message ++ ">"
  envelope : ∀ envelope, ErrorEnvelope.parse (Bytes.ofText error.body) = .ok envelope → envelope.message ≠ "" →
    error.message = envelope.message
  plain : (∀ envelope, ErrorEnvelope.parse (Bytes.ofText error.body) = .ok envelope → envelope.message = "") →
    error.message = error.body

theorem ServiceError.tells_ofResponse (response : HttpResponse) : (ofResponse response).Tells response := by
  constructor
  case code => rfl
  case readable =>
    intro bytes read
    simp only [ofResponse, HttpResponse.refusalText, HttpResponse.collect, read, Except.mapError]
  case unreadable =>
    intro failure read
    simp only [ofResponse, HttpResponse.refusalText, HttpResponse.collect, read, Except.mapError]
  case envelope =>
    intro envelope parsed notEmpty
    have inBody : ErrorEnvelope.parse (Bytes.ofText response.refusalText) = .ok envelope := parsed
    simp only [ofResponse, inBody, if_neg notEmpty]
  case plain =>
    intro noMessage
    cases inBody : ErrorEnvelope.parse (Bytes.ofText response.refusalText) with
    | error fault => simp only [ofResponse, inBody]
    | ok envelope =>
        have isEmpty : envelope.message = "" := noMessage envelope inBody
        simp only [ofResponse, inBody, if_pos isEmpty]

theorem ServiceError.classify_eq (error : ServiceError) : error.classify =
    if error.code = 404 then .notFound (.service error)
    else if error.code = 412 then .precondition (.service error)
    else .service error := by
  simp only [classify, Status.notFound, Status.preconditionFailed, beq_iff_eq]

/-! ### Bodies that are decoded -/

inductive Content.Gives {α : Type} (content : Content) : Except Error α → Prop
  | value (value : α) : Gives content (.ok value)
  | unreadable (failure : ReadFailure) (read : content.collect = .error failure) :
      Gives content (.error (.transport failure.toTransportError))
  | notJson (bytes : Bytes) (fault : Json.Fault) (read : content.collect = .ok bytes) :
      Gives content (.error (.json bytes fault))
  | undecoded (error : DecodeError) : Gives content (.error (.decode error))

namespace HttpResponse

variable {α β : Type} (response : HttpResponse)

theorem gives_decoded (parse : Bytes → Except Json.Fault α) (decode : α → Except DecodeError β) :
    response.body.Gives (response.bytes >>= fun bytes => (parse bytes).mapError (Error.json bytes) >>= fun value =>
      (decode value).mapError Error.decode) := by
  cases read : response.body.collect with
  | error failure =>
      have unread : response.bytes = .error (.transport failure.toTransportError) := by
        rw [bytes, collect, read]
        rfl
      rw [unread]
      exact .unreadable failure read
  | ok bytes =>
      have readable : response.bytes = .ok bytes := by
        rw [HttpResponse.bytes, collect, read]
        rfl
      rw [readable]
      simp only [bind, Except.bind]
      cases parsed : parse bytes with
      | error fault => exact .notJson bytes fault read
      | ok value =>
          simp only [Except.mapError]
          cases decode value with
          | error error => exact .undecoded error
          | ok result => exact .value result

theorem gives_object (bucket : String) : response.body.Gives (response.object bucket) :=
  response.gives_decoded Resource.parse (Object.ofResource bucket)

theorem gives_page (bucket : String) (query : Query) : response.body.Gives (response.page bucket query) := by
  have page : response.page bucket query = (response.bytes >>= fun bytes =>
      (ResourceList.parse bytes).mapError (Error.json bytes) >>= fun listing =>
        (((listing.items.getD []).mapM (Object.ofResource bucket)).map fun results =>
          (⟨results, listing.prefixes.getD [],
            (listing.nextPageToken.filter (· ≠ "")).map fun cursor => { query with cursor }⟩ : Page)).mapError
              Error.decode) := by
    rw [HttpResponse.page]
    congr 1
    funext bytes
    congr 1
    funext listing
    cases (listing.items.getD []).mapM (Object.ofResource bucket) <;> rfl
  rw [page]
  exact response.gives_decoded ResourceList.parse _

end HttpResponse

theorem Content.Gives.map {α β : Type} {content : Content} {result : Except Error α} (gives : content.Gives result)
    (change : α → β) : content.Gives (result.map change) := by
  cases gives with
  | value value => exact .value (change value)
  | unreadable failure read => exact .unreadable failure read
  | notJson bytes fault read => exact .notJson bytes fault read
  | undecoded error => exact .undecoded error

/-! ### Verdicts -/

namespace Operation

variable {response : HttpResponse}

theorem accepted_of_success (succeeded : Status.isSuccess response.status = true) :
    accepted (.ok response) = .ok response :=
  HttpResponse.check_of_success succeeded

theorem accepted_of_refused (refused : Status.isSuccess response.status = false) :
    accepted (.ok response) = .error (ServiceError.ofResponse response).classify :=
  if_neg (by simp [refused])

end Operation

namespace Simulation.Action

def isDeletion : Action → Bool
  | .delete _ => true
  | _ => false

structure Verdict (action : Action) (request : HttpRequest) (answer : Except TransportError HttpResponse)
    (result : Except Error Outcome) : Prop where
  notFound : (∃ cause, result = .error (.notFound cause)) ↔
    (∃ response, answer = .ok response ∧ response.status = 404) ∨
      (action.isDeletion = true ∧ ∃ error, answer = .error error ∧ error.status = some 404)
  precondition : (∃ cause, result = .error (.precondition cause)) ↔
    ∃ response, answer = .ok response ∧ response.status = 412
  failed : ∀ error, answer = .error error → result = .error
    (if action.isDeletion = true ∧ error.status = some 404 then .notFound (.transport error) else .transport error)
  refused : ∀ response, answer = .ok response → Status.isSuccess response.status = false →
    ∃ error : ServiceError, error.Tells response ∧ result = .error
      (if response.status = 404 then .notFound (.service error)
      else if response.status = 412 then .precondition (.service error)
      else .service error)
  accepted : ∀ response, answer = .ok response → Status.isSuccess response.status = true →
    response.body.Gives result ∨
      (action.isCreation = true ∧ request.method = .post ∧ ∃ violation, result = .error (.protocol violation))

namespace Verdict

variable {action : Action} {request : HttpRequest} {result : Except Error Outcome}

theorem of_failure {error : TransportError}
    (ended : result = .error (if action.isDeletion = true then error.classify else .transport error)) :
    action.Verdict request (.error error) result := by
  have failed : result = .error (if action.isDeletion = true ∧ error.status = some 404 then
      .notFound (.transport error) else .transport error) := by
    rw [ended]
    cases action.isDeletion with
    | false => simp
    | true =>
        simp only [true_and, if_true]
        rfl
  constructor
  case notFound =>
    rw [failed]
    by_cases missing : action.isDeletion = true ∧ error.status = some 404 <;> simp [missing]
  case precondition =>
    rw [failed]
    split <;> simp
  case failed =>
    rintro _ ⟨⟩
    exact failed
  case refused => exact fun _ => nofun
  case accepted => exact fun _ => nofun

theorem of_refusal {response : HttpResponse} (refused : Status.isSuccess response.status = false)
    (ended : result = .error (ServiceError.ofResponse response).classify) :
    action.Verdict request (.ok response) result := by
  have code : (ServiceError.ofResponse response).code = response.status := rfl
  rw [ServiceError.classify_eq, code] at ended
  constructor
  case notFound =>
    rw [ended]
    split
    · simp_all
    · split <;> simp_all
  case precondition =>
    rw [ended]
    split
    · simp_all
    · split <;> simp_all
  case failed => exact fun _ => nofun
  case refused =>
    rintro _ ⟨⟩ -
    exact ⟨_, ServiceError.tells_ofResponse response, ended⟩
  case accepted =>
    rintro _ ⟨⟩ succeeded
    rw [succeeded] at refused
    cases refused

theorem of_success {response : HttpResponse} (succeeded : Status.isSuccess response.status = true)
    (ended : response.body.Gives result ∨
      (action.isCreation = true ∧ request.method = .post ∧ ∃ violation, result = .error (.protocol violation))) :
    action.Verdict request (.ok response) result := by
  have range : 200 ≤ response.status ∧ response.status < 300 := by
    simpa [Status.isSuccess] using succeeded
  constructor
  case notFound =>
    constructor
    · rintro ⟨cause, rfl⟩
      rcases ended with ⟨⟨⟩⟩ | ⟨_, _, _, ⟨⟩⟩
    · rintro (⟨_, ⟨⟩, status⟩ | ⟨_, _, ⟨⟩, _⟩)
      omega
  case precondition =>
    constructor
    · rintro ⟨cause, rfl⟩
      rcases ended with ⟨⟨⟩⟩ | ⟨_, _, _, ⟨⟩⟩
    · rintro ⟨_, ⟨⟩, status⟩
      omega
  case failed => exact fun _ => nofun
  case refused =>
    rintro _ ⟨⟩ refused
    rw [succeeded] at refused
    cases refused
  case accepted =>
    rintro _ ⟨⟩ -
    exact ended

theorem of_conclude (config : BucketConfig) (action : Action) (request : HttpRequest)
    (answer : Except TransportError HttpResponse) :
    action.Verdict request answer (action.conclude config answer) := by
  cases answer with
  | error error =>
      apply of_failure
      cases action <;> rfl
  | ok response =>
      cases succeeded : Status.isSuccess response.status with
      | false =>
          apply of_refusal succeeded
          have refused := Operation.accepted_of_refused succeeded
          have checked : response.check = .error (ServiceError.ofResponse response).classify := refused
          cases action with
          | delete name =>
              simp only [conclude, Except.mapError, bind, Except.bind, checked]
              rfl
          | create | read | stat | update | list =>
              simp only [conclude, refused]
              rfl
      | true =>
          have accepted := Operation.accepted_of_success succeeded
          apply of_success succeeded
          left
          cases action with
          | create | stat | update =>
              rw [conclude, accepted]
              exact (response.gives_object config.name).map _
          | list query =>
              rw [conclude, accepted]
              exact (response.gives_page config.name query).map _
          | read read =>
              rw [conclude, accepted]
              exact .value _
          | delete name =>
              simp only [conclude, Except.mapError, bind, Except.bind, HttpResponse.check_of_success succeeded]
              exact .value _

theorem of_unplaced {action : Action} {request : HttpRequest} {answer : Except TransportError HttpResponse}
    {error : Error} (creates : action.isCreation = true) (announces : request.method = .post)
    (unplaced : BucketConfig.uploadUrl answer = .error error) :
    action.Verdict request answer (.error error) := by
  cases answer with
  | error failure =>
      have kept : action.isDeletion = false := by
        cases action <;> first | rfl | cases creates
      cases unplaced
      apply of_failure
      rw [kept]
      rfl
  | ok response =>
      cases succeeded : Status.isSuccess response.status with
      | false =>
          rw [BucketConfig.uploadUrl, Operation.accepted_of_refused succeeded] at unplaced
          cases unplaced
          exact of_refusal succeeded rfl
      | true =>
          rw [BucketConfig.uploadUrl, Operation.accepted_of_success succeeded] at unplaced
          apply of_success succeeded
          right
          refine ⟨creates, announces, ?_⟩
          simp only [bind, Except.bind] at unplaced
          split at unplaced
          · cases unplaced
            exact ⟨_, rfl⟩
          · rename_i location _
            cases parsed : Url.parse location with
            | error fault =>
                rw [parsed] at unplaced
                cases unplaced
                exact ⟨_, rfl⟩
            | ok url =>
                rw [parsed] at unplaced
                cases unplaced

end Verdict

/-! ### Runs -/

/-- What the last reply of a log says is how the run ended. -/
structure EndsAs (action : Action) (request : HttpRequest) (reply : Reply) (ended : Ended (Except Error Outcome)) :
    Prop where
  answered : ∀ answer, reply = .answer answer →
    ∃ result, ended = .finished result ∧ action.Verdict request answer result
  silent : reply = .silence → ended = .pending
  broken : ∀ message, reply = .fault message → ended = .broken message

theorem EndsAs.of_conclude {action : Action} {request : HttpRequest} {reply : Reply}
    {result : Except TransportError HttpResponse → Except Error Outcome}
    (verdict : ∀ answer, reply = .answer answer → action.Verdict request answer (result answer)) :
    action.EndsAs request reply (reply.conclude result) := by
  constructor
  case answered =>
    rintro answer rfl
    exact ⟨result answer, rfl, verdict answer rfl⟩
  case silent =>
    rintro rfl
    rfl
  case broken =>
    rintro message rfl
    rfl

variable {config : BucketConfig} {action : Action}

theorem Course.endsAs {log : Log} {ended : Ended (Except Error Outcome)} (course : action.Course config log ended)
    (sent : log ≠ []) :
    ∃ request reply, log.getLast? = some (request, reply) ∧ action.EndsAs request reply ended := by
  cases course with
  | refused reason invalid => exact absurd rfl sent
  | single request reply short valid =>
      exact ⟨request, reply, rfl, .of_conclude fun answer _ => .of_conclude config action request answer⟩
  | announced create request reply error creates valid unplaced =>
      refine ⟨request, reply, rfl, .of_conclude fun answer answered => ?_⟩
      subst creates
      exact .of_unplaced rfl (BucketConfig.isAnnouncement_of_ok valid).method (unplaced answer answered)
  | uploaded create request put answer url reply =>
      exact ⟨put, reply, rfl, .of_conclude fun answer _ => .of_conclude config action put answer⟩

/-- Once something was sent, the answer to the last request alone tells which kind of result there is. -/
theorem last_answer_decides (transport : Transport σ) (state : σ) (sent : action.log config transport state ≠ []) :
    ∃ request reply, (action.log config transport state).getLast? = some (request, reply) ∧
      action.EndsAs request reply ((action.operation config).run transport state).1 :=
  (course_of_run transport state action).endsAs sent

theorem last_answer_decides_of_failed_deletion :
    let action := Action.delete "a"
    let gone : TransportError := ⟨"gone", some 404, []⟩
    let transport : Transport Unit := fun _ state => (.answer (.error gone), state)
    action.log (bucketConfig "photos") transport () ≠ [] ∧
      ((action.operation (bucketConfig "photos")).run transport ()).1 =
        .finished (.error (.notFound (.transport gone))) := by
  intro action gone transport
  have isBucket : Url.IsPlaceName "photos" := ⟨by decide, by decide⟩
  have valid : action.firstRequest (bucketConfig "photos") = .ok (Sent.delete "photos" "a") :=
    deleteRequest_eq isBucket "a"
  have logged : action.log (bucketConfig "photos") transport () =
      [(Sent.delete "photos" "a", .answer (.error gone))] := by
    rw [log, operation_of_not_creation (bucketConfig "photos") rfl, valid]
    rfl
  have sent : action.log (bucketConfig "photos") transport () ≠ [] := by
    rw [logged]
    exact List.cons_ne_nil _ _
  obtain ⟨request, reply, isLast, ends⟩ := last_answer_decides transport () sent
  rw [logged] at isLast
  cases isLast
  obtain ⟨result, ended, verdict⟩ := ends.answered _ rfl
  refine ⟨sent, ?_⟩
  rw [ended, verdict.failed gone rfl, if_pos ⟨rfl, rfl⟩]

end Simulation.Action

end ObjectStore
