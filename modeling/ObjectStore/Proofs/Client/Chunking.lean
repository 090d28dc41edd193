import Mathlib.Logic.Relation
import ObjectStore.Proofs.Client.Authorization
import ObjectStore.Proofs.Simulation.Run

/-!
How a body is cut into chunks makes no difference. Contents that hold the same bytes before their end, or before the
same failure, lead to alike results from request to request, and what is received and stored is the same.
-/

namespace ObjectStore

open Simulation (Action Outcome)

variable {ε α β σ τ : Type}

/-! ### Contents -/

namespace Content

def Alike (left right : Content) : Prop :=
  left.readAll = right.readAll

instance (left right : Content) : Decidable (left.Alike right) :=
  inferInstanceAs (Decidable (left.readAll = right.readAll))

theorem Alike.collect {left right : Content} (alike : left.Alike right) : left.collect = right.collect := by
  rw [collect_eq_readAll, collect_eq_readAll, alike]

theorem readUpTo_eq (limit : Nat) (content : Content) :
    content.readUpTo limit =
      if limit ≤ content.readAll.1.length then (content.readAll.1.take limit, none) else content.readAll := by
  induction content generalizing limit with
  | nil => cases limit <;> simp [readUpTo, readAll]
  | cons chunk rest ih =>
      cases limit with
      | zero => simp [readUpTo]
      | succ limit =>
          cases chunk with
          | failure failure => simp [readUpTo, readAll]
          | bytes bytes =>
              simp only [readUpTo, readAll, ih, List.length_append]
              by_cases enough : limit + 1 ≤ bytes.length
              · have longEnough : limit + 1 ≤ bytes.length + (readAll rest).1.length := by omega
                rw [if_pos enough, if_pos longEnough, List.take_append_of_le_length enough]
              · have whole : bytes.take (limit + 1) = bytes := List.take_of_length_le (by omega)
                rw [if_neg enough, List.take_append, whole]
                by_cases rests : limit + 1 - bytes.length ≤ (readAll rest).1.length
                · rw [if_pos rests, if_pos (by omega)]
                · rw [if_neg rests, if_neg (by omega)]

theorem Alike.readUpTo {left right : Content} (alike : left.Alike right) (limit : Nat) :
    left.readUpTo limit = right.readUpTo limit := by
  rw [readUpTo_eq, readUpTo_eq, alike]

/-- Cuts a chunk in two, puts an empty one in front of others, or exchanges what lies behind a failure. -/
inductive Rechunks : Content → Content → Prop
  | cut (left right : Bytes) (rest : Content) :
      Rechunks (.bytes (left ++ right) :: rest) (.bytes left :: .bytes right :: rest)
  | pause (rest : Content) : Rechunks rest (.bytes [] :: rest)
  | behind (failure : ReadFailure) (rest other : Content) :
      Rechunks (.failure failure :: rest) (.failure failure :: other)
  | later (chunk : Chunk) {left right : Content} (rechunks : Rechunks left right) :
      Rechunks (chunk :: left) (chunk :: right)

theorem Rechunks.alike {left right : Content} (rechunks : Rechunks left right) : left.Alike right := by
  induction rechunks with
  | cut left right rest => simp [Alike, readAll]
  | pause rest => simp [Alike, readAll]
  | behind failure rest other => simp [Alike, readAll]
  | later chunk rechunks ih =>
      rw [Alike] at ih ⊢
      cases chunk with
      | bytes bytes => simp only [readAll, ih]
      | failure failure => simp only [readAll]

def merged (content : Content) : Content :=
  .bytes content.readAll.1 :: (content.readAll.2.map Chunk.failure).toList

theorem eqvGen_merged (content : Content) : Relation.EqvGen Rechunks content content.merged := by
  have prepend (chunk : Chunk) {left right : Content} (connected : Relation.EqvGen Rechunks left right) :
      Relation.EqvGen Rechunks (chunk :: left) (chunk :: right) := by
    induction connected with
    | rel left right rechunks => exact .rel _ _ (.later chunk rechunks)
    | refl content => exact .refl _
    | symm left right _ ih => exact ih.symm
    | trans left middle right _ _ first second => exact first.trans _ _ _ second
  induction content with
  | nil => exact .rel _ _ (.pause [])
  | cons chunk rest ih =>
      cases chunk with
      | failure failure =>
          exact (Relation.EqvGen.rel _ _ (.behind failure rest [])).trans _ _ _ (.rel _ _ (.pause _))
      | bytes bytes =>
          have joined := Rechunks.cut bytes (readAll rest).1 ((readAll rest).2.map Chunk.failure).toList
          exact (prepend (.bytes bytes) ih).trans _ _ _ (.symm _ _ (.rel _ _ joined))

/-- Contents are alike exactly where one becomes the other by such steps and their reverse. -/
theorem alike_iff {left right : Content} : left.Alike right ↔ Relation.EqvGen Rechunks left right := by
  constructor
  · intro alike
    have same : left.merged = right.merged := by
      rw [merged, merged, alike]
    refine (eqvGen_merged left).trans _ _ _ ?_
    rw [same]
    exact (eqvGen_merged right).symm
  · intro connected
    induction connected with
    | rel left right rechunks => exact rechunks.alike
    | refl content => exact rfl
    | symm left right _ ih => exact ih.symm
    | trans left middle right _ _ first second => exact first.trans second

end Content

/-! ### Messages -/

inductive ResultsAlike (alike : α → β → Prop) : Except ε α → Except ε β → Prop
  | ok {left : α} {right : β} (same : alike left right) : ResultsAlike alike (.ok left) (.ok right)
  | error (error : ε) : ResultsAlike alike (.error error) (.error error)

namespace ResultsAlike

theorem of_eq {left right : Except ε α} (same : left = right) : ResultsAlike Eq left right := by
  subst same
  cases left with
  | ok value => exact .ok rfl
  | error error => exact .error error

theorem eq {left right : Except ε α} (alike : ResultsAlike Eq left right) : left = right := by
  cases alike with
  | ok same => rw [same]
  | error error => rfl

variable {γ δ : Type} {alike : α → β → Prop} {other : γ → δ → Prop} {left : Except ε α} {right : Except ε β}

theorem bind (same : ResultsAlike alike left right) {next : α → Except ε γ} {otherNext : β → Except ε δ}
    (goesOn : ∀ {left right}, alike left right → ResultsAlike other (next left) (otherNext right)) :
    ResultsAlike other (left >>= next) (right >>= otherNext) := by
  cases same with
  | ok same => exact goesOn same
  | error error => exact .error error

theorem map (same : ResultsAlike alike left right) {change : α → γ} {otherChange : β → δ}
    (changes : ∀ {left right}, alike left right → other (change left) (otherChange right)) :
    ResultsAlike other (left.map change) (right.map otherChange) := by
  cases same with
  | ok same => exact .ok (changes same)
  | error error => exact .error error

end ResultsAlike

structure HttpRequest.Alike (left right : HttpRequest) : Prop where
  method : left.method = right.method
  url : left.url = right.url
  headers : left.headers = right.headers
  body : left.body.content.Alike right.body.content

theorem HttpRequest.Alike.refl (request : HttpRequest) : request.Alike request :=
  ⟨rfl, rfl, rfl, rfl⟩

theorem HttpRequest.Alike.collect {left right : HttpRequest} (alike : left.Alike right) :
    left.body.collect = right.body.collect := by
  rw [Body.collect, Body.collect, alike.body.collect]

inductive HttpResponse.Alike : HttpResponse → HttpResponse → Prop
  | mk (status : Nat) (headers : Headers) {left right : Content} (same : left.Alike right) :
      Alike ⟨status, headers, left⟩ ⟨status, headers, right⟩

namespace HttpResponse.Alike

variable {left right : HttpResponse} (alike : left.Alike right)

include alike

theorem collect : left.collect = right.collect := by
  cases alike with
  | mk status headers same => simp only [HttpResponse.collect, same.collect]

theorem body : left.body.Alike right.body := by
  cases alike with
  | mk status headers same => exact same

theorem headers : left.headers = right.headers := by
  cases alike
  rfl

theorem serviceError : ServiceError.ofResponse left = ServiceError.ofResponse right := by
  have status : left.status = right.status := by
    cases alike
    rfl
  simp only [ServiceError.ofResponse, HttpResponse.refusalText, alike.collect, status]

theorem check : ResultsAlike HttpResponse.Alike left.check right.check := by
  have refused := alike.serviceError
  have whole := alike
  cases alike with
  | mk status headers same =>
      simp only [HttpResponse.check]
      split
      · exact .ok whole
      · rw [refused]
        exact .error _

theorem object (bucket : String) : left.object bucket = right.object bucket := by
  simp only [HttpResponse.object, HttpResponse.bytes, alike.collect]

theorem page (bucket : String) (query : Query) : left.page bucket query = right.page bucket query := by
  simp only [HttpResponse.page, HttpResponse.bytes, alike.collect]

end HttpResponse.Alike

abbrev AnswersAlike : Except TransportError HttpResponse → Except TransportError HttpResponse → Prop :=
  ResultsAlike HttpResponse.Alike

theorem Operation.accepted_of_alike {left right : Except TransportError HttpResponse}
    (alike : AnswersAlike left right) : ResultsAlike HttpResponse.Alike (accepted left) (accepted right) := by
  cases alike with
  | ok same => exact same.check
  | error error => exact .error _

theorem BucketConfig.uploadUrl_of_alike {left right : Except TransportError HttpResponse}
    (alike : AnswersAlike left right) : uploadUrl left = uploadUrl right := by
  refine ((Operation.accepted_of_alike alike).bind fun same => ?_).eq
  rw [same.headers]
  exact .of_eq rfl

/-! ### Actions -/

inductive Simulation.Outcome.Alike : Outcome → Outcome → Prop
  | content {left right : Content} (same : left.Alike right) : Alike (.content left) (.content right)
  | same (outcome : Outcome) : Alike outcome outcome

inductive Simulation.Action.Alike : Action → Action → Prop
  | create (create : CreateRequest) {contents : Content} (same : create.contents.Alike contents) :
      Alike (.create create) (.create { create with contents })
  | same (action : Action) : Alike action action

namespace Simulation.Action

variable (config : BucketConfig) {left right : Except TransportError HttpResponse}

theorem conclude_of_alike (action : Action) (alike : AnswersAlike left right) :
    ResultsAlike Outcome.Alike (action.conclude config left) (action.conclude config right) := by
  have accepts := Operation.accepted_of_alike alike
  cases action with
  | create | stat | update =>
      refine (accepts.bind fun same => .of_eq (same.object config.name)).map fun same => ?_
      rw [same]
      exact .same _
  | read => exact (accepts.bind fun same => .ok same.body).map .content
  | list query =>
      refine (accepts.bind fun same => .of_eq (same.page config.name query)).map fun same => ?_
      rw [same]
      exact .same _
  | delete =>
      cases alike with
      | error error => exact .error _
      | @ok response other same =>
          have checked : ResultsAlike Eq (response.check >>= fun _ => pure ()) (other.check >>= fun _ => pure ()) :=
            same.check.bind fun _ => .of_eq rfl
          exact checked.map fun _ => .same .deleted

end Simulation.Action

/-! ### Exchanges -/

inductive Exchange.Alike (alike : α → β → Prop) : Exchange α → Exchange β → Prop
  | done {left : α} {right : β} (same : alike left right) : Alike alike (.done left) (.done right)
  | send {request other : HttpRequest} (asked : request.Alike other)
      {next : Except TransportError HttpResponse → Exchange α}
      {otherNext : Except TransportError HttpResponse → Exchange β}
      (goesOn : ∀ {left right}, AnswersAlike left right → Alike alike (next left) (otherNext right)) :
      Alike alike (.send request next) (.send other otherNext)

theorem BucketConfig.uploadRequest_of_alike (config : BucketConfig) (create : CreateRequest) {contents : Content}
    (same : create.contents.Alike contents) (url : Url) :
    ResultsAlike HttpRequest.Alike (config.uploadRequest create url)
      (config.uploadRequest { create with contents } url) := by
  refine (ResultsAlike.of_eq rfl).bind fun {request _} sent => .ok ?_
  subst sent
  exact ⟨rfl, rfl, rfl, same⟩

theorem Simulation.Action.Alike.operation (config : BucketConfig) {action other : Action} (alike : action.Alike other) :
    (action.operation config).Alike (ResultsAlike Outcome.Alike) (other.operation config) := by
  have refused (error : Error) : ResultsAlike Outcome.Alike (.error error) (.error error) := .error error
  have creates (create : CreateRequest) {contents : Content} (same : create.contents.Alike contents) :
      ((Action.create create).operation config).Alike (ResultsAlike Outcome.Alike)
        ((Action.create { create with contents }).operation config) := by
    rw [operation_create, operation_create]
    have announced : config.announceRequest { create with contents } = config.announceRequest create := rfl
    rw [announced]
    cases config.announceRequest create with
    | error reason => exact .done (refused _)
    | ok request =>
        refine .send (.refl request) fun {left right} answered => ?_
        have uploads : ResultsAlike HttpRequest.Alike (BucketConfig.uploadUrl left >>= config.uploadRequest create)
            (BucketConfig.uploadUrl right >>= config.uploadRequest { create with contents }) := by
          refine (ResultsAlike.of_eq (BucketConfig.uploadUrl_of_alike answered)).bind fun {url _} sameUrl => ?_
          subst sameUrl
          exact config.uploadRequest_of_alike create same url
        revert uploads
        generalize BucketConfig.uploadUrl left >>= config.uploadRequest create = first
        generalize BucketConfig.uploadUrl right >>= config.uploadRequest { create with contents } = second
        intro uploads
        cases uploads with
        | error error => exact .done (refused error)
        | ok asked => exact .send asked fun heard => .done (conclude_of_alike config (.create create) heard)
  cases alike with
  | create create same => exact creates create same
  | same =>
      cases creation : action.isCreation with
      | true =>
          cases action with
          | create create => exact creates create rfl
          | read | stat | update | delete | list => cases creation
      | false =>
          rw [operation_of_not_creation config creation]
          cases action.firstRequest config with
          | error reason => exact .done (refused _)
          | ok request => exact .send (.refl request) fun heard => .done (conclude_of_alike config action heard)

/-! ### Runs side by side -/

inductive Reply.Alike : Reply → Reply → Prop
  | answer {left right : Except TransportError HttpResponse} (same : AnswersAlike left right) :
      Alike (.answer left) (.answer right)
  | silence : Alike .silence .silence
  | fault (message : String) : Alike (.fault message) (.fault message)

inductive Ended.Alike (alike : α → β → Prop) : Ended α → Ended β → Prop
  | finished {left : α} {right : β} (same : alike left right) : Alike alike (.finished left) (.finished right)
  | pending : Alike alike .pending .pending
  | broken (message : String) : Alike alike (.broken message) (.broken message)

def Transport.Resembles (second : Transport τ) (first : Transport σ) (related : σ → τ → Prop) : Prop :=
  ∀ {request other : HttpRequest} {state : σ} {otherState : τ}, request.Alike other → related state otherState →
    (first request state).1.Alike (second other otherState).1 ∧
      related (first request state).2 (second other otherState).2

theorem Exchange.Alike.run {first : Transport σ} {second : Transport τ} {related : σ → τ → Prop}
    (resembles : second.Resembles first related) {alike : α → β → Prop} {exchange : Exchange α} {other : Exchange β}
    (same : exchange.Alike alike other) {state : σ} {otherState : τ} (begins : related state otherState) :
    (exchange.run first state).1.Alike alike (other.run second otherState).1 ∧
      related (exchange.run first state).2 (other.run second otherState).2 := by
  induction same generalizing state otherState with
  | done same => exact ⟨.finished same, begins⟩
  | @send request other asked next otherNext _ ih =>
      obtain ⟨replies, after⟩ := resembles asked begins
      simp only [Exchange.run]
      rcases left : first request state with ⟨reply, state⟩
      rcases right : second other otherState with ⟨otherReply, otherState⟩
      rw [left, right] at replies after
      cases replies with
      | answer heard => exact ih heard after
      | silence => exact ⟨.pending, after⟩
      | fault message => exact ⟨.broken message, after⟩

theorem BucketConfig.perform_of_alike {first : Transport σ} {second : Transport τ} {related : σ → τ → Prop}
    (resembles : second.Resembles first related) (config : BucketConfig) {actions others : List Action}
    (alike : List.Forall₂ Action.Alike actions others) {state : σ} {otherState : τ}
    (begins : related state otherState) :
    List.Forall₂ (Ended.Alike (ResultsAlike Outcome.Alike)) (config.perform first actions state).1
        (config.perform second others otherState).1 ∧
      related (config.perform first actions state).2 (config.perform second others otherState).2 := by
  induction alike generalizing state otherState with
  | nil => exact ⟨.nil, begins⟩
  | @cons action other rest others same _ ih =>
      obtain ⟨ends, after⟩ := (same.operation config).run resembles begins
      rcases left : (action.operation config).run first state with ⟨ended, state⟩
      rcases right : (other.operation config).run second otherState with ⟨otherEnded, otherState⟩
      rw [left, right] at ends after
      obtain ⟨results, last⟩ := ih after
      simp only [perform, left, right]
      cases ends with
      | broken message => exact ⟨.cons (.broken message) .nil, after⟩
      | finished same => exact ⟨.cons (.finished same) results, last⟩
      | pending => exact ⟨.cons .pending results, last⟩

/-! ### Scripts -/

inductive ScriptedOutcome.Alike : ScriptedOutcome → ScriptedOutcome → Prop
  | answer {left right : HttpResponse} (same : left.Alike right) : Alike (.answer left) (.answer right)
  | failure (error : TransportError) : Alike (.failure error) (.failure error)
  | silence : Alike .silence .silence

theorem ScriptedOutcome.Alike.reply {left right : ScriptedOutcome} (alike : left.Alike right) :
    left.reply.Alike right.reply := by
  cases alike with
  | answer same => exact .answer (.ok same)
  | failure error => exact .answer (.error error)
  | silence => exact .silence

namespace Script

structure Alike (left right : Script) : Prop where
  remaining : List.Forall₂ ScriptedOutcome.Alike left.remaining right.remaining
  received : left.received = right.received

theorem Alike.receive {left right : Script} (alike : left.Alike right) {request other : HttpRequest}
    (asked : request.Alike other) (body : Option Bytes) :
    (left.receive request body).Alike (right.receive other body) := by
  refine ⟨alike.remaining, ?_⟩
  simp only [Script.receive, alike.received, asked.method, asked.url, asked.headers]

theorem IsPlayed.resembles {transport : Transport Script} (played : IsPlayed transport) :
    transport.Resembles transport Script.Alike := by
  rintro request other ⟨remaining, received⟩ ⟨otherRemaining, _⟩ asked ⟨sameRemaining, rfl⟩
  have alike : Script.Alike ⟨remaining, received⟩ ⟨otherRemaining, received⟩ := ⟨sameRemaining, rfl⟩
  have heard := alike.receive asked
  rcases played with rfl | rfl
  · simp only [Script.transport, asked.collect]
    cases other.body.collect with
    | error error => exact ⟨.answer (.error error), heard none⟩
    | ok bytes =>
        cases sameRemaining with
        | nil => exact ⟨.answer (.error _), heard (some bytes)⟩
        | cons same rest => exact ⟨same.reply, rest, (heard (some bytes)).received⟩
  · simp only [Script.strictTransport, asked.collect]
    cases other.body.collect with
    | error error => exact ⟨.answer (.error error), sameRemaining, rfl⟩
    | ok bytes =>
        cases sameRemaining with
        | nil => exact ⟨.fault _, heard (some bytes)⟩
        | cons same rest => exact ⟨same.reply, rest, (heard (some bytes)).received⟩

end Script

/-! ### The simulated service -/

/-- The same transport, but for how the bodies of its responses are cut. -/
def Transport.Rechunks (second first : Transport σ) : Prop :=
  ∀ request state, (first request state).1.Alike (second request state).1 ∧
    (second request state).2 = (first request state).2

theorem Transport.rechunks_refl (transport : Transport σ) : transport.Rechunks transport := by
  intro request state
  refine ⟨?_, rfl⟩
  cases (transport request state).1 with
  | answer answer =>
      cases answer with
      | ok response => exact .answer (.ok (.mk response.status response.headers rfl))
      | error error => exact .answer (.error error)
  | silence => exact .silence
  | fault message => exact .fault message

inductive Happening.Alike : Happening → Happening → Prop
  | request {left right : HttpRequest} (same : left.Alike right) : Alike (.request left) (.request right)
  | same (happening : Happening) : Alike happening happening

namespace Simulation

theorem transport_of_alike {request other : HttpRequest} (alike : request.Alike other) :
    transport request = transport other := by
  funext simulation
  simp only [transport, alike.collect, Store.answer, alike.method, alike.url, alike.headers]

theorem resembles_of_rechunks {rechunked : Transport Simulation} (rechunks : rechunked.Rechunks transport) :
    rechunked.Resembles transport Eq := by
  rintro request other simulation _ alike rfl
  rw [transport_of_alike alike]
  exact ⟨(rechunks other simulation).1, (rechunks other simulation).2.symm⟩

theorem run_of_alike {happenings others : List Happening} (alike : List.Forall₂ Happening.Alike happenings others)
    (simulation : Simulation) : simulation.run happenings = simulation.run others := by
  induction alike generalizing simulation with
  | nil => rfl
  | @cons happening other _ _ same _ ih =>
      have step : simulation.step happening = simulation.step other := by
        cases same with
        | request same => simp only [step, transport_of_alike same]
        | same => rfl
      rw [run_cons, run_cons, step, ih]

end Simulation

/-- How contents and bodies are cut changes neither what operations return, nor what was received of them, nor what
the simulated service holds after operations and after any requests at all. -/
theorem chunking_never_matters (config : BucketConfig) {actions others : List Action}
    (alike : List.Forall₂ Action.Alike actions others) :
    (∀ transport, Script.IsPlayed transport → ∀ outcomes otherOutcomes,
        List.Forall₂ ScriptedOutcome.Alike outcomes otherOutcomes →
        let first := config.perform transport actions (.start outcomes)
        let second := config.perform transport others (.start otherOutcomes)
        List.Forall₂ (Ended.Alike (ResultsAlike Outcome.Alike)) first.1 second.1 ∧
          first.2.received = second.2.received) ∧
      (∀ rechunked : Transport Simulation, rechunked.Rechunks Simulation.transport → ∀ simulation,
        let first := config.perform Simulation.transport actions simulation
        let second := config.perform rechunked others simulation
        List.Forall₂ (Ended.Alike (ResultsAlike Outcome.Alike)) first.1 second.1 ∧ first.2 = second.2) ∧
      ∀ time happenings otherHappenings, List.Forall₂ Happening.Alike happenings otherHappenings →
        Simulation.after time happenings = Simulation.after time otherHappenings := by
  refine ⟨?_, ?_, ?_⟩
  · intro transport played outcomes otherOutcomes same
    have begins : Script.Alike (.start outcomes) (.start otherOutcomes) := ⟨same, rfl⟩
    obtain ⟨results, last⟩ := config.perform_of_alike played.resembles alike begins
    exact ⟨results, last.received⟩
  · intro rechunked rechunks simulation
    exact config.perform_of_alike (Simulation.resembles_of_rechunks rechunks) alike rfl
  · intro time happenings otherHappenings same
    exact Simulation.run_of_alike same (Simulation.start time)

theorem chunking_never_matters_where_bodies_break_off :
    let lost : Chunk := .failure ⟨"connection reset", []⟩
    let create : CreateRequest := ⟨{ name := "a" }, [.bytes [1, 2, 3]], none⟩
    let cut : CreateRequest := { create with contents := [.bytes [1], .bytes [], .bytes [2, 3]] }
    let actions : List Action := [.create create, .read ⟨"a", 0⟩]
    let others : List Action := [.create cut, .read ⟨"a", 0⟩]
    let place := Headers.empty.insert "location" (Bytes.ofText "https://upload.test/1")
    let outcomes : List ScriptedOutcome :=
      [.answer ⟨200, place, []⟩, .answer ⟨503, .empty, [.bytes [72, 105], lost]⟩,
        .answer ⟨200, .empty, [.bytes [4], lost]⟩]
    let otherOutcomes : List ScriptedOutcome :=
      [.answer ⟨200, place, [.bytes []]⟩, .answer ⟨503, .empty, [.bytes [72], .bytes [105], lost, .bytes [9]]⟩,
        .answer ⟨200, .empty, [.bytes [], .bytes [4], lost]⟩]
    let config := Simulation.bucketConfig "photos"
    List.Forall₂ Action.Alike actions others ∧ List.Forall₂ ScriptedOutcome.Alike outcomes otherOutcomes ∧
      List.Forall₂ (Ended.Alike (ResultsAlike Outcome.Alike))
        (config.perform Script.transport actions (.start outcomes)).1
        (config.perform Script.transport others (.start otherOutcomes)).1 ∧
      (config.perform Script.transport actions (.start outcomes)).2.received =
        (config.perform Script.transport others (.start otherOutcomes)).2.received ∧
      (config.perform Simulation.transport actions (.start ⟨0, 0⟩)).2 =
        (config.perform Simulation.transport others (.start ⟨0, 0⟩)).2 := by
  intro lost create cut actions others place outcomes otherOutcomes config
  have alike : List.Forall₂ Action.Alike actions others :=
    .cons (.create create (by decide)) (.cons (.same _) .nil)
  have answered : List.Forall₂ ScriptedOutcome.Alike outcomes otherOutcomes :=
    .cons (.answer (.mk _ _ (by decide)))
      (.cons (.answer (.mk _ _ (by decide))) (.cons (.answer (.mk _ _ (by decide))) .nil))
  obtain ⟨scripted, simulated, _⟩ := chunking_never_matters config alike
  obtain ⟨results, received⟩ := scripted Script.transport (.inl rfl) outcomes otherOutcomes answered
  obtain ⟨_, stored⟩ := simulated Simulation.transport (Transport.rechunks_refl _) (.start ⟨0, 0⟩)
  exact ⟨alike, answered, results, received, stored⟩

end ObjectStore
