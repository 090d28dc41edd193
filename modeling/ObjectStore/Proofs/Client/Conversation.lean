import ObjectStore.Proofs.Client.Destination

/-!
What an operation and a transport say to each other. A log holds every request with what became of it, and
the log of an operation follows one of four courses: nothing is sent, one request is, a creation stops after
its announcement, or it sends the contents as well. Over each course the result comes from the last reply.
-/

namespace ObjectStore

open Simulation (Action Outcome)

variable {α β σ : Type}

/-! ### Logs -/

abbrev Log := List (HttpRequest × Reply)

def Transport.logged (transport : Transport σ) : Transport (σ × Log) := fun request state =>
  let (reply, after) := transport request state.1
  (reply, (after, state.2 ++ [(request, reply)]))

def Reply.conclude (reply : Reply) (result : Except TransportError HttpResponse → α) : Ended α :=
  match reply with
  | .answer given => .finished (result given)
  | .silence => .pending
  | .fault message => .broken message

namespace Exchange

/-- The logs that an exchange can have, whatever carries its requests, and how it ends over each. -/
inductive Yields : Exchange α → Log → Ended α → Prop
  | done (result : α) : Yields (.done result) [] (.finished result)
  | answered {request : HttpRequest} {next : Except TransportError HttpResponse → Exchange α} {log : Log}
      {ended : Ended α} (answer : Except TransportError HttpResponse) (rest : Yields (next answer) log ended) :
      Yields (.send request next) ((request, .answer answer) :: log) ended
  | silent {request : HttpRequest} {next : Except TransportError HttpResponse → Exchange α} :
      Yields (.send request next) [(request, .silence)] .pending
  | broken {request : HttpRequest} {next : Except TransportError HttpResponse → Exchange α} (message : String) :
      Yields (.send request next) [(request, .fault message)] (.broken message)

theorem run_logged (transport : Transport σ) (exchange : Exchange α) (state : σ) (before : Log) :
    ∃ log, exchange.run transport.logged (state, before) =
        ((exchange.run transport state).1, ((exchange.run transport state).2, before ++ log)) ∧
      exchange.Yields log (exchange.run transport state).1 := by
  induction exchange generalizing state before with
  | done result => exact ⟨[], by rw [List.append_nil]; rfl, .done result⟩
  | send request next ih =>
      simp only [run, Transport.logged]
      rcases transport request state with ⟨answer | _ | message, after⟩
      · obtain ⟨log, ran, yields⟩ := ih answer after (before ++ [(request, .answer answer)])
        refine ⟨(request, .answer answer) :: log, ?_, .answered answer yields⟩
        rw [List.append_assoc] at ran
        exact ran
      · exact ⟨_, rfl, .silent⟩
      · exact ⟨_, rfl, .broken message⟩

theorem Yields.of_done {result : α} {log : Log} {ended : Ended α} (yields : (Exchange.done result).Yields log ended) :
    log = [] ∧ ended = .finished result := by
  cases yields
  exact ⟨rfl, rfl⟩

theorem Yields.of_last {request : HttpRequest} {result : Except TransportError HttpResponse → α} {log : Log}
    {ended : Ended α} (yields : (Exchange.send request fun reply => .done (result reply)).Yields log ended) :
    ∃ reply, log = [(request, reply)] ∧ ended = reply.conclude result := by
  cases yields with
  | answered answer rest =>
      obtain ⟨rfl, rfl⟩ := rest.of_done
      exact ⟨.answer answer, rfl, rfl⟩
  | silent => exact ⟨.silence, rfl, rfl⟩
  | broken message => exact ⟨.fault message, rfl, rfl⟩

end Exchange

/-! ### Requests that can be sent -/

namespace BucketConfig

variable {config : BucketConfig}

theorem request_eq_ok {method : Method} {url : Url} {request : HttpRequest}
    (accepted : config.request method url = .ok request) :
    Headers.isValidValue (Bytes.ofText config.userAgent) = true ∧ request.method = method ∧ request.url = url := by
  unfold BucketConfig.request at accepted
  dsimp only at accepted
  split at accepted
  · rename_i valid
    cases accepted
    exact ⟨valid, rfl, rfl⟩
  · cases accepted

structure IsAnnouncement (config : BucketConfig) (create : CreateRequest) (request : HttpRequest) : Prop where
  method : request.method = .post
  place : parseUrl (config.uploadAddress create.precondition) = .ok request.url
  body : request.body = .full (create.attributes.serialize config.name)
  contentType : request.headers.get? "x-upload-content-type" =
    some (Bytes.ofText create.attributes.effectiveContentType)
  agent : Headers.isValidValue (Bytes.ofText config.userAgent) = true

theorem isAnnouncement_of_ok {create : CreateRequest} {request : HttpRequest}
    (accepted : config.announceRequest create = .ok request) : config.IsAnnouncement create request := by
  simp only [announceRequest, bind, Except.bind, pure, Except.pure, throw, throwThe, MonadExceptOf.throw] at accepted
  split at accepted
  · cases accepted
  · split at accepted
    · cases accepted
    · split at accepted
      · cases accepted
      · split at accepted
        · cases accepted
        · rename_i url parsed _ request isRequest
          cases accepted
          obtain ⟨agent, method, sameUrl⟩ := request_eq_ok isRequest
          constructor
          case method => exact method
          case place =>
            rw [parsed, ← sameUrl]
            rfl
          case body => rfl
          case contentType => simp [HttpRequest.withHeader, HttpRequest.withBody]
          case agent => exact agent

theorem uploadRequest_of_agent (agent : Headers.isValidValue (Bytes.ofText config.userAgent) = true)
    (create : CreateRequest) (url : Url) :
    config.uploadRequest create url = .ok
      (((HttpRequest.mk .put url (Headers.empty.insert "user-agent" (Bytes.ofText config.userAgent)) .empty).withHeader
        "content-type" (Bytes.ofText create.attributes.effectiveContentType)).withBody (.stream create.contents)) := by
  simp only [uploadRequest, request, agent, if_true]
  rfl

end BucketConfig

/-! ### Courses -/

namespace Simulation.Action

variable (config : BucketConfig)

def isCreation : Action → Bool
  | .create _ => true
  | _ => false

def conclude : Action → Except TransportError HttpResponse → Except Error Outcome
  | .create _, reply | .stat _, reply | .update _, reply =>
      (Operation.accepted reply >>= fun response => response.object config.name).map .object
  | .read _, reply => (Operation.accepted reply >>= fun response => pure response.body).map .content
  | .delete _, reply =>
      (reply.mapError TransportError.classify >>= fun response => response.check >>= fun _ => pure ()).map
        fun _ => .deleted
  | .list query, reply => (Operation.accepted reply >>= fun response => response.page config.name query).map .page

inductive Course (action : Action) : Log → Ended (Except Error Outcome) → Prop
  | refused (reason : InvalidRequest) (invalid : action.firstRequest config = .error reason) :
      Course action [] (.finished (.error (.invalidRequest reason)))
  | single (request : HttpRequest) (reply : Reply) (short : action.isCreation = false)
      (valid : action.firstRequest config = .ok request) :
      Course action [(request, reply)] (reply.conclude (action.conclude config))
  | announced (create : CreateRequest) (request : HttpRequest) (reply : Reply) (error : Error)
      (creates : action = .create create) (valid : config.announceRequest create = .ok request)
      (unplaced : ∀ answer, reply = .answer answer → BucketConfig.uploadUrl answer = .error error) :
      Course action [(request, reply)] (reply.conclude fun _ => .error error)
  | uploaded (create : CreateRequest) (request put : HttpRequest) (answer : Except TransportError HttpResponse)
      (url : Url) (reply : Reply) (creates : action = .create create)
      (valid : config.announceRequest create = .ok request) (placed : BucketConfig.uploadUrl answer = .ok url)
      (sent : config.uploadRequest create url = .ok put) :
      Course action [(request, .answer answer), (put, reply)] (reply.conclude (action.conclude config))

theorem operation_of_not_creation {action : Action} (short : action.isCreation = false) :
    action.operation config =
      Operation.sending (action.firstRequest config) fun reply => .done (action.conclude config reply) := by
  cases action with
  | create create => cases short
  | read | stat | update | delete | list => exact Operation.map_sending ..

theorem operation_create (create : CreateRequest) :
    (Action.create create).operation config =
      Operation.sending (config.announceRequest create) fun reply =>
        match BucketConfig.uploadUrl reply >>= config.uploadRequest create with
        | .error error => .done (.error error)
        | .ok request => .send request fun reply => .done ((Action.create create).conclude config reply) := by
  rw [operation, BucketConfig.create, Operation.map_sending]
  congr 1
  funext reply
  cases BucketConfig.uploadUrl reply >>= config.uploadRequest create <;> rfl

variable {config}

theorem course_of_sending {action : Action} (short : action.isCreation = false) {log : Log}
    {ended : Ended (Except Error Outcome)} (yields : (action.operation config).Yields log ended) :
    action.Course config log ended := by
  rw [operation_of_not_creation config short] at yields
  cases first : action.firstRequest config with
  | error reason =>
      rw [first] at yields
      obtain ⟨rfl, rfl⟩ := yields.of_done
      exact .refused reason first
  | ok request =>
      rw [first] at yields
      obtain ⟨reply, rfl, rfl⟩ := yields.of_last
      exact .single request reply short first

theorem course_of_creation {create : CreateRequest} {log : Log} {ended : Ended (Except Error Outcome)}
    (yields : ((Action.create create).operation config).Yields log ended) :
    (Action.create create).Course config log ended := by
  rw [operation_create] at yields
  cases first : config.announceRequest create with
  | error reason =>
      rw [first] at yields
      obtain ⟨rfl, rfl⟩ := yields.of_done
      exact .refused reason first
  | ok request =>
      have agent := (BucketConfig.isAnnouncement_of_ok first).agent
      rw [first] at yields
      cases yields with
      | silent => exact .announced create request .silence (.protocol .missingLocation) rfl first (fun _ => nofun)
      | broken message =>
          exact .announced create request (.fault message) (.protocol .missingLocation) rfl first (fun _ => nofun)
      | answered answer rest =>
          cases place : BucketConfig.uploadUrl answer with
          | error error =>
              simp only [place, bind, Except.bind] at rest
              obtain ⟨rfl, rfl⟩ := rest.of_done
              refine .announced create request (.answer answer) error rfl first ?_
              rintro _ ⟨⟩
              exact place
          | ok url =>
              -- The agent of the announcement was valid, so that the second request is.
              have sent := BucketConfig.uploadRequest_of_agent agent create url
              simp only [place, bind, Except.bind, sent] at rest
              obtain ⟨reply, rfl, rfl⟩ := rest.of_last
              exact .uploaded create request _ answer url reply rfl first place sent

theorem course_of_yields {action : Action} {log : Log} {ended : Ended (Except Error Outcome)}
    (yields : (action.operation config).Yields log ended) : action.Course config log ended := by
  cases creates : action.isCreation with
  | false => exact course_of_sending creates yields
  | true =>
      cases action with
      | create create => exact course_of_creation yields
      | read | stat | update | delete | list => cases creates

variable (transport : Transport σ) (state : σ)

def log (config : BucketConfig) (action : Action) (transport : Transport σ) (state : σ) : Log :=
  ((action.operation config).run transport.logged (state, [])).2.2

theorem course_of_run (action : Action) :
    action.Course config (action.log config transport state) ((action.operation config).run transport state).1 := by
  obtain ⟨log, ran, yields⟩ := (action.operation config).run_logged transport state []
  have logged : action.log config transport state = log := by
    rw [Action.log, ran]
    rfl
  rw [logged]
  exact course_of_yields yields

end Simulation.Action

end ObjectStore
