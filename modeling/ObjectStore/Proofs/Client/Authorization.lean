import Mathlib.Data.List.Forall2
import ObjectStore.CommandLine.Run
import ObjectStore.Proofs.Client.Bare
import ObjectStore.Transport.Scripted

/-!
A token changes nothing but the requests that carry it. A run with a token and the run without one stay related
from request to request: both are answered alike, and what the scripts remember differs by one header.
-/

namespace ObjectStore

open Simulation (Action Outcome)

variable {α σ τ : Type}

/-! ### One more header -/

namespace Headers

variable {name : String} {headers : Headers}

theorem ne_of_absent (absent : headers.get? name = none) : ∀ entry ∈ headers.entries, entry.1 ≠ name := by
  intro entry member same
  have differs := List.lookup_eq_none_iff.1 absent entry member
  simp [same] at differs

theorem insertEntry_of_ne (value : Bytes) {entries : List (String × Bytes)}
    (others : ∀ entry ∈ entries, entry.1 ≠ name) : insertEntry name value entries = entries ++ [(name, value)] := by
  induction entries with
  | nil => rfl
  | cons first rest ih =>
      have differs : first.1 ≠ name := others first List.mem_cons_self
      have inRest : insertEntry name value rest = rest ++ [(name, value)] :=
        ih fun entry member => others entry (List.mem_cons_of_mem _ member)
      rw [insertEntry, if_neg differs, inRest, List.cons_append]

theorem entries_insert_of_absent (absent : headers.get? name = none) (value : Bytes) :
    (headers.insert name value).entries = headers.entries ++ [(name, value)] :=
  insertEntry_of_ne value (ne_of_absent absent)

end Headers

/-! ### Two runs side by side -/

def Transport.Follows (second : Transport τ) (first : Transport σ) (kind : HttpRequest → Prop)
    (related : σ → τ → Prop) : Prop :=
  ∀ request state other, kind request → related state other →
    (second request other).1 = (first request state).1 ∧ related (first request state).2 (second request other).2

theorem Exchange.run_of_follows {first : Transport σ} {second : Transport τ} {kind : HttpRequest → Prop}
    {related : σ → τ → Prop} (follows : second.Follows first kind related) {exchange : Exchange α}
    (asks : exchange.Asks kind) {state : σ} {other : τ} (begins : related state other) :
    (exchange.run second other).1 = (exchange.run first state).1 ∧
      related (exchange.run first state).2 (exchange.run second other).2 := by
  induction asks generalizing state other with
  | done result => exact ⟨rfl, begins⟩
  | @send request next isKind rest ih =>
      obtain ⟨sameReply, after⟩ := follows request state other isKind begins
      rcases left : first request state with ⟨reply, next⟩
      rcases right : second request other with ⟨otherReply, otherNext⟩
      rw [left, right] at sameReply after
      subst sameReply
      simp only [run, left, right]
      cases otherReply with
      | answer answer => exact ih answer after
      | silence => exact ⟨rfl, after⟩
      | fault message => exact ⟨rfl, after⟩

/-- Actions in a row. One that hears nothing is given up, and a transport that breaks ends them all. -/
def BucketConfig.perform (config : BucketConfig) (transport : Transport σ) :
    List Action → σ → List (Ended (Except Error Outcome)) × σ
  | [], state => ([], state)
  | action :: rest, state =>
      match (action.operation config).run transport state with
      | (.broken message, after) => ([.broken message], after)
      | (ended, after) =>
          let (results, last) := perform config transport rest after
          (ended :: results, last)

theorem BucketConfig.perform_of_follows {first : Transport σ} {second : Transport τ} {related : σ → τ → Prop}
    (follows : second.Follows first HttpRequest.IsBare related) (config : BucketConfig) (actions : List Action)
    {state : σ} {other : τ} (begins : related state other) :
    (config.perform second actions other).1 = (config.perform first actions state).1 ∧
      related (config.perform first actions state).2 (config.perform second actions other).2 := by
  induction actions generalizing state other with
  | nil => exact ⟨rfl, begins⟩
  | cons action rest ih =>
      obtain ⟨sameEnd, after⟩ := Exchange.run_of_follows follows (action.asks_bare config) begins
      rcases left : (action.operation config).run first state with ⟨ended, next⟩
      rcases right : (action.operation config).run second other with ⟨otherEnded, otherNext⟩
      rw [left, right] at sameEnd after
      subst sameEnd
      obtain ⟨sameRest, last⟩ := ih after
      simp only [perform, left, right]
      cases otherEnded with
      | broken message => exact ⟨rfl, after⟩
      | finished result => exact ⟨congrArg _ sameRest, last⟩
      | pending => exact ⟨congrArg _ sameRest, last⟩

/-! ### What a script remembers -/

namespace ReceivedRequest

def authorized (value : Bytes) (request : ReceivedRequest) : ReceivedRequest :=
  { request with headers := request.headers.insert "authorization" value }

def reissued (token : String) (request : ReceivedRequest) : ReceivedRequest :=
  { request with
    headers := ⟨request.headers.entries.map fun entry =>
      if entry.1 = "authorization" then (entry.1, Bytes.ofText ("Bearer " ++ token)) else entry⟩ }

structure Bears (token : String) (bare request : ReceivedRequest) : Prop where
  method : request.method = bare.method
  url : request.url = bare.url
  body : request.body = bare.body
  once : (request.headers.entries.filter fun entry => entry.1 == "authorization") =
    [("authorization", Bytes.ofText ("Bearer " ++ token))]
  others : (request.headers.entries.filter fun entry => entry.1 != "authorization") = bare.headers.entries

variable {request : ReceivedRequest}

theorem bears_authorized (absent : request.headers.get? "authorization" = none) (token : String) :
    request.Bears token (request.authorized (Bytes.ofText ("Bearer " ++ token))) := by
  have differs := Headers.ne_of_absent absent
  constructor
  case method => rfl
  case url => rfl
  case body => rfl
  case once =>
    rw [authorized, Headers.entries_insert_of_absent absent, List.filter_append]
    have none : (request.headers.entries.filter fun entry => entry.1 == "authorization") = [] := by
      simpa using differs
    rw [none]
    rfl
  case others =>
    rw [authorized, Headers.entries_insert_of_absent absent, List.filter_append]
    have all : (request.headers.entries.filter fun entry => entry.1 != "authorization") = request.headers.entries := by
      simpa using differs
    rw [all]
    exact List.append_nil _

theorem reissued_authorized (absent : request.headers.get? "authorization" = none) (value : Bytes) (token : String) :
    (request.authorized value).reissued token = request.authorized (Bytes.ofText ("Bearer " ++ token)) := by
  have kept : (request.headers.entries.map fun entry =>
      if entry.1 = "authorization" then (entry.1, Bytes.ofText ("Bearer " ++ token)) else entry) =
        request.headers.entries := by
    rw [List.map_congr_left fun entry member => if_neg (Headers.ne_of_absent absent entry member)]
    exact List.map_id' _
  have same : ((request.authorized value).reissued token).headers =
      (request.authorized (Bytes.ofText ("Bearer " ++ token))).headers := by
    apply congrArg Headers.mk
    rw [authorized, Headers.entries_insert_of_absent absent, List.map_append, kept]
    exact (Headers.entries_insert_of_absent absent _).symm
  exact congrArg (fun headers => { request with headers }) same

end ReceivedRequest

namespace Script

/-- The second script heard the same requests as the first, but for the token. -/
structure Authorizes (value : Bytes) (bare authorized : Script) : Prop where
  remaining : authorized.remaining = bare.remaining
  received : authorized.received = bare.received.map (ReceivedRequest.authorized value)
  absent : ∀ request ∈ bare.received, request.headers.get? "authorization" = none

namespace Authorizes

variable {value : Bytes} {bare authorized : Script}

theorem receive (authorizes : Authorizes value bare authorized) {request : HttpRequest} (isBare : request.IsBare)
    (body : Option Bytes) :
    Authorizes value (bare.receive request body)
      (authorized.receive (request.withHeader "authorization" value) body) := by
  constructor
  case remaining => exact authorizes.remaining
  case received =>
    simp only [Script.receive, authorizes.received, List.map_append, List.map_singleton]
    rfl
  case absent =>
    intro received member
    rcases List.mem_append.1 member with before | isLast
    · exact authorizes.absent received before
    · rw [List.mem_singleton.1 isLast]
      exact isBare

theorem answer (authorizes : Authorizes value bare authorized) (rest : List ScriptedOutcome) :
    Authorizes value { bare with remaining := rest } { authorized with remaining := rest } :=
  ⟨rfl, authorizes.received, authorizes.absent⟩

end Authorizes

def IsPlayed (transport : Transport Script) : Prop :=
  transport = Script.transport ∨ transport = Script.strictTransport

theorem IsPlayed.follows {transport : Transport Script} (played : IsPlayed transport) (authorization : Authorization) :
    (authorization.transport transport).Follows transport HttpRequest.IsBare (Authorizes authorization.value) := by
  intro request bare authorized isBare authorizes
  have heard := authorizes.receive isBare
  have collected : (authorization.authorize request).body.collect = request.body.collect := rfl
  rcases played with rfl | rfl
  · simp only [Authorization.transport, Script.transport, collected, authorizes.remaining]
    cases request.body.collect with
    | error error => exact ⟨rfl, heard none⟩
    | ok bytes =>
        cases bare.remaining with
        | nil => exact ⟨rfl, heard (some bytes)⟩
        | cons outcome rest => exact ⟨rfl, (heard (some bytes)).answer rest⟩
  · simp only [Authorization.transport, Script.strictTransport, collected, authorizes.remaining]
    cases request.body.collect with
    | error error => exact ⟨rfl, authorizes⟩
    | ok bytes =>
        cases bare.remaining with
        | nil => exact ⟨rfl, heard (some bytes)⟩
        | cons outcome rest => exact ⟨rfl, (heard (some bytes)).answer rest⟩

theorem perform_authorized {transport : Transport Script} (played : IsPlayed transport) (config : BucketConfig)
    (actions : List Action) (outcomes : List ScriptedOutcome) (authorization : Authorization) :
    let bare := config.perform transport actions (start outcomes)
    config.perform (authorization.transport transport) actions (start outcomes) =
        (bare.1, ⟨bare.2.remaining, bare.2.received.map (ReceivedRequest.authorized authorization.value)⟩) ∧
      ∀ request ∈ bare.2.received, request.headers.get? "authorization" = none := by
  intro bare
  have begins : Authorizes authorization.value (start outcomes) (start outcomes) := ⟨rfl, rfl, by simp [start]⟩
  obtain ⟨sameResults, ends⟩ :=
    BucketConfig.perform_of_follows (played.follows authorization) config actions begins
  refine ⟨?_, ends.absent⟩
  rcases ran : config.perform (authorization.transport transport) actions (start outcomes) with ⟨results, last⟩
  rw [ran] at sameResults ends
  obtain ⟨remaining, received⟩ := last
  have sameRemaining : remaining = bare.2.remaining := ends.remaining
  have sameReceived : received = _ := ends.received
  rw [sameRemaining, sameReceived]
  exact congrArg (fun results => (results, _)) sameResults

end Script

/-! ### Tokens -/

namespace Authorization

variable {token : String}

theorem not_isValidValue_iff {value : Bytes} : Headers.isValidValue value = false ↔
    ∃ byte ∈ value, byte = 0x7F ∨ (byte < 0x20 ∧ byte ≠ 0x09) := by
  rw [Headers.isValidValue, List.all_eq_false]
  apply exists_congr
  intro byte
  simp only [Bool.or_eq_true, Bool.and_eq_true, decide_eq_true_eq, bne_iff_ne, beq_iff_eq, ← UInt8.not_lt]
  grind

theorem isValidValue_bearer (token : String) :
    Headers.isValidValue (Bytes.ofText ("Bearer " ++ token)) = Headers.isValidValue (Bytes.ofText token) := by
  have word : (Bytes.ofText "Bearer ").all (fun byte => (0x20 ≤ byte && byte != 0x7F) || byte == 0x09) = true := by
    decide
  rw [Headers.isValidValue, Bytes.ofText_append, List.all_append, word, Bool.true_and, Headers.isValidValue]

theorem ofToken_eq (token : String) : ofToken token =
    if Headers.isValidValue (Bytes.ofText token) then .ok ⟨Bytes.ofText ("Bearer " ++ token)⟩
    else .error (.ofMessage "access token is not a valid header value") := by
  rw [← isValidValue_bearer]
  rfl

theorem refused_iff : (∃ error, ofToken token = .error error) ↔
    ∃ byte ∈ Bytes.ofText token, byte = 0x7F ∨ (byte < 0x20 ∧ byte ≠ 0x09) := by
  rw [← not_isValidValue_iff, ofToken_eq]
  cases Headers.isValidValue (Bytes.ofText token) <;> simp

theorem text_of_refused {error : TransportError} (refused : ofToken token = .error error) :
    error = .ofMessage "access token is not a valid header value" := by
  rw [ofToken_eq] at refused
  split at refused
  · cases refused
  · exact (Except.error.inj refused).symm

theorem value_of_accepted {authorization : Authorization} (accepted : ofToken token = .ok authorization) :
    authorization.value = Bytes.ofText ("Bearer " ++ token) := by
  rw [ofToken_eq] at accepted
  split at accepted
  · exact congrArg Authorization.value (Except.ok.inj accepted).symm
  · cases accepted

end Authorization

namespace CommandLine

variable {settings : Settings} {token : String} {error : TransportError}

theorem errand_of_refused (isToken : settings.accessToken = some token)
    (refused : Authorization.ofToken token = .error error) (contents : Except String Content) (command : Command) :
    ∃ failure, command.errand settings contents = .error failure := by
  have noHandle (bucket : String) : Handle.forBucket settings bucket = .error (.accessToken error) := by
    simp only [Handle.forBucket, isToken, refused]
  cases command with
  | stat uri | cat uri | put source uri | set uri | rm uri =>
      simp only [Command.errand, noHandle]
      cases objectTarget uri <;> exact ⟨_, rfl⟩
  | ls uri =>
      simp only [Command.errand, noHandle]
      cases parseTarget uri <;> exact ⟨_, rfl⟩

theorem run_of_refused (isToken : settings.accessToken = some token)
    (refused : Authorization.ofToken token = .error error) (transport : Transport σ)
    (contents : Except String Content) (command : Command) (state : σ) :
    ∃ failure, command.run transport settings contents state = (.finished (.failed failure), state) := by
  obtain ⟨failure, failed⟩ := errand_of_refused isToken refused contents command
  exact ⟨failure, by rw [Command.run, failed]⟩

end CommandLine

/-- A token is refused for its bytes alone and before anything is sent. Any other is on every request once, and
neither the results nor anything else of the requests depends on it. -/
theorem authorization_is_transparent {transport : Transport Script} (played : Script.IsPlayed transport)
    (config : BucketConfig) (actions : List Action) (outcomes : List ScriptedOutcome) (token : String) :
    let bare := config.perform transport actions (Script.start outcomes)
    ((∃ error, Authorization.ofToken token = .error error) ↔
        ∃ byte ∈ Bytes.ofText token, byte = 0x7F ∨ (byte < 0x20 ∧ byte ≠ 0x09)) ∧
      (∀ error, Authorization.ofToken token = .error error →
        error = .ofMessage "access token is not a valid header value" ∧
          ∀ settings contents (command : CommandLine.Command) script,
            settings.accessToken = some token →
            ∃ failure, command.run transport settings contents script = (.finished (.failed failure), script)) ∧
      ∀ authorization, Authorization.ofToken token = .ok authorization →
        ∃ received, config.perform (authorization.transport transport) actions (Script.start outcomes) =
            (bare.1, ⟨bare.2.remaining, received⟩) ∧
          List.Forall₂ (ReceivedRequest.Bears token) bare.2.received received ∧
          ∀ otherToken other, Authorization.ofToken otherToken = .ok other →
            config.perform (other.transport transport) actions (Script.start outcomes) =
              (bare.1, ⟨bare.2.remaining, received.map (ReceivedRequest.reissued otherToken)⟩) := by
  intro bare
  refine ⟨Authorization.refused_iff, ?refused, ?accepted⟩
  case refused =>
    intro error refused
    refine ⟨Authorization.text_of_refused refused, ?_⟩
    intro settings contents command script isToken
    exact CommandLine.run_of_refused isToken refused transport contents command script
  case accepted =>
    intro authorization accepted
    have isBearer := Authorization.value_of_accepted accepted
    obtain ⟨ran, absent⟩ := Script.perform_authorized played config actions outcomes authorization
    refine ⟨_, ran, ?_, ?_⟩
    · rw [List.forall₂_map_right_iff, List.forall₂_same]
      intro request member
      rw [isBearer]
      exact ReceivedRequest.bears_authorized (absent request member) token
    · intro otherToken other otherAccepted
      rw [(Script.perform_authorized played config actions outcomes other).1, List.map_map]
      have sameRequests : bare.2.received.map (ReceivedRequest.authorized other.value) = bare.2.received.map
          (ReceivedRequest.reissued otherToken ∘ ReceivedRequest.authorized authorization.value) := by
        apply List.map_congr_left
        intro request member
        rw [Authorization.value_of_accepted otherAccepted]
        exact (ReceivedRequest.reissued_authorized (absent request member) authorization.value otherToken).symm
      exact congrArg (fun requests => (bare.1, Script.mk bare.2.remaining requests)) sameRequests

theorem authorization_is_transparent_of_creation :
    let create : CreateRequest := ⟨{ name := "a" }, .ofBytes [0x61], none⟩
    let authorization : Authorization := ⟨Bytes.ofText "Bearer s3cr3t"⟩
    let outcomes := [ScriptedOutcome.answer (Simulation.announced "photos" 1), .silence]
    let bare := (Simulation.bucketConfig "photos").perform Script.transport [.create create] (.start outcomes)
    let ran := (Simulation.bucketConfig "photos").perform (authorization.transport Script.transport) [.create create]
      (.start outcomes)
    Authorization.ofToken "s3cr3t" = .ok authorization ∧ ran.1 = bare.1 ∧
      ∃ announcement put, ran.2.received = [announcement, put] ∧ put.method = .put ∧
        (put.headers.entries.filter fun entry => entry.1 == "authorization") =
          [("authorization", Bytes.ofText "Bearer s3cr3t")] := by
  intro create authorization outcomes bare ran
  have isBucket : Url.IsPlaceName "photos" := ⟨by decide, by decide⟩
  have isName : validateName create.attributes.name = .ok () := by decide
  have valid : (Simulation.bucketConfig "photos").announceRequest create =
      .ok (Simulation.Sent.announce "photos" create) :=
    Simulation.announceRequest_of_valid isBucket (Atomic.checkCreate_of_valid isName rfl)
  have bareReceived : bare.2.received =
      [⟨.post, (Simulation.Sent.announce "photos" create).url, (Simulation.Sent.announce "photos" create).headers,
        some (create.attributes.serialize "photos" ++ [])⟩,
      ⟨.put, (Simulation.Sent.upload "photos" create 1).url, (Simulation.Sent.upload "photos" create 1).headers,
        some [0x61]⟩] := by
    have announced : (Simulation.Sent.announce "photos" create).body.collect =
        .ok (create.attributes.serialize "photos" ++ []) := rfl
    have uploaded : (Simulation.Sent.upload "photos" create 1).body.collect = .ok [0x61] := rfl
    simp only [bare, BucketConfig.perform, Action.operation_create, valid, Operation.sending, Exchange.run,
      Script.transport, outcomes, Script.start, announced, ScriptedOutcome.reply, Simulation.uploadUrl_eq isBucket 1,
      bind, Except.bind, Simulation.uploadRequest_eq "photos" create 1, uploaded]
    rfl
  have accepted : Authorization.ofToken "s3cr3t" = .ok authorization := rfl
  have played : Script.IsPlayed Script.transport := Or.inl rfl
  obtain ⟨_, _, runs⟩ := authorization_is_transparent played (Simulation.bucketConfig "photos") [.create create] outcomes
    "s3cr3t"
  obtain ⟨received, same, bears, _⟩ := runs authorization accepted
  have sameRun : ran = (bare.1, ⟨bare.2.remaining, received⟩) := same
  refine ⟨accepted, by rw [sameRun], ?_⟩
  rw [bareReceived] at bears
  rw [sameRun]
  cases bears with
  | cons first rest =>
      cases rest with
      | cons second none =>
          cases none
          exact ⟨_, _, rfl, second.method, second.once⟩

end ObjectStore
