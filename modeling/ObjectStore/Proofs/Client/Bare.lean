import ObjectStore.Proofs.Client.Conversation

/-!
Operations name no credentials. Every request that one of them sends is made by the client from its settings, with
headers of its own choosing, and the header for authorization is none of them.
-/

namespace ObjectStore

open Simulation (Action)

variable {α β ε : Type}

/-! ### Requests -/

def HttpRequest.IsBare (request : HttpRequest) : Prop :=
  request.headers.get? "authorization" = none

theorem HttpRequest.IsBare.withHeader {request : HttpRequest} (bare : request.IsBare) {name : String}
    (differs : name ≠ "authorization") (value : Bytes) : (request.withHeader name value).IsBare := by
  rw [IsBare, HttpRequest.withHeader, Headers.get?_insert, if_neg differs.symm]
  exact bare

def BareIfValid (checked : Except ε HttpRequest) : Prop :=
  ∀ request, checked = .ok request → request.IsBare

namespace BareIfValid

theorem after (first : Except ε α) {next : α → Except ε HttpRequest}
    (bare : ∀ result, BareIfValid (next result)) : BareIfValid (first >>= next) := by
  cases first with
  | error error => exact fun request valid => nomatch valid
  | ok result => exact bare result

theorem decorated {checked : Except ε HttpRequest} (bare : BareIfValid checked)
    {decorate : HttpRequest → HttpRequest} (keeps : ∀ request, request.IsBare → (decorate request).IsBare) :
    BareIfValid (checked >>= fun request => pure (decorate request)) := by
  cases checked with
  | error error => exact fun request valid => nomatch valid
  | ok request =>
      rintro _ ⟨⟩
      exact keeps request (bare request rfl)

theorem mapError {checked : Except ε HttpRequest} (bare : BareIfValid checked) (change : ε → β) :
    BareIfValid (checked.mapError change) := by
  cases checked with
  | error error => exact fun request valid => nomatch valid
  | ok request =>
      rintro _ ⟨⟩
      exact bare request rfl

variable (config : BucketConfig)

theorem request (method : Method) (url : Url) : BareIfValid (config.request method url) := by
  intro request valid
  unfold BucketConfig.request at valid
  dsimp only at valid
  split at valid
  · cases valid
    rfl
  · cases valid

theorem announceRequest (create : CreateRequest) : BareIfValid (config.announceRequest create) := by
  have sent : BareIfValid (do
      let url ← parseUrl (config.uploadAddress create.precondition)
      let request ← config.request .post url
      pure (((request.withHeader "content-type" jsonContentType).withHeader "x-upload-content-type"
        (Bytes.ofText create.attributes.effectiveContentType)).withBody
          (.full (create.attributes.serialize config.name)))) := by
    refine after _ fun url => (request config .post url).decorated ?_
    intro request bare
    exact (bare.withHeader (by decide) _).withHeader (by decide) _
  unfold BucketConfig.announceRequest
  refine after _ fun _ => ?_
  dsimp only
  split
  · exact after _ fun _ => sent
  · exact sent

theorem uploadRequest (create : CreateRequest) (url : Url) : BareIfValid (config.uploadRequest create url) := by
  refine ((request config .put url).mapError _).decorated ?_
  intro request bare
  exact bare.withHeader (by decide) _

theorem updateRequest (update : UpdateRequest) : BareIfValid (config.updateRequest update) := by
  refine after _ fun url => (request config .patch url).decorated ?_
  intro request bare
  exact bare.withHeader (by decide) _

theorem firstRequest (action : Action) : BareIfValid (action.firstRequest config) := by
  cases action with
  | create create => exact announceRequest config create
  | update update => exact updateRequest config update
  | read | stat | delete | list =>
      unfold Action.firstRequest
      repeat' refine after _ fun _ => ?_
      all_goals exact request config _ _

end BareIfValid

/-! ### Operations -/

namespace Exchange

/-- Every request of an exchange is of a kind, whatever the replies are. -/
inductive Asks (kind : HttpRequest → Prop) : Exchange α → Prop
  | done (result : α) : Asks kind (.done result)
  | send {request : HttpRequest} {next : Except TransportError HttpResponse → Exchange α} (isKind : kind request)
      (rest : ∀ reply, Asks kind (next reply)) : Asks kind (.send request next)

theorem asks_sending {request : Except InvalidRequest HttpRequest}
    {next : Except TransportError HttpResponse → Operation α} (bare : BareIfValid request)
    (rest : ∀ reply, (next reply).Asks HttpRequest.IsBare) :
    (Operation.sending request next).Asks HttpRequest.IsBare := by
  cases request with
  | error reason => exact .done _
  | ok request => exact .send (bare request rfl) rest

end Exchange

theorem Simulation.Action.asks_bare (config : BucketConfig) (action : Action) :
    (action.operation config).Asks HttpRequest.IsBare := by
  cases creates : action.isCreation with
  | false =>
      rw [operation_of_not_creation config creates]
      exact Exchange.asks_sending (.firstRequest config action) fun reply => .done _
  | true =>
      cases action with
      | create create =>
          rw [operation_create]
          refine Exchange.asks_sending (.announceRequest config create) fun reply => ?_
          cases second : BucketConfig.uploadUrl reply >>= config.uploadRequest create with
          | error error => exact .done _
          | ok put =>
              have bare : BareIfValid (BucketConfig.uploadUrl reply >>= config.uploadRequest create) :=
                .after _ fun url => .uploadRequest config create url
              exact .send (bare put second) fun reply => .done _
      | read | stat | update | delete | list => cases creates

end ObjectStore
