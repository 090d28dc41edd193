import ObjectStore.Proofs.Client.Authorization
import ObjectStore.Proofs.CommandLine.Edits

/-!
Commands that look something up at the simulated service. Over a connection or not, with a token or without, they hear
what the service itself has to say.
-/

namespace ObjectStore

open Url (IsPlaceName)

/-! ### Lookups -/

structure HttpRequest.IsLookup (request : HttpRequest) : Prop where
  method : request.method = .get
  body : request.body = .empty
  scheme : request.url.scheme = "https"
  username : request.url.username = ""
  password : request.url.password = none
  fragment : request.url.fragment = none
  route : (∃ bucket, request.route = .list bucket) ∨ ∃ bucket name, request.route = .stat bucket name

theorem HttpRequest.IsLookup.withHeader {request : HttpRequest} (isLookup : request.IsLookup) (name : String)
    (value : Bytes) : (request.withHeader name value).IsLookup :=
  ⟨isLookup.method, isLookup.body, isLookup.scheme, isLookup.username, isLookup.password, isLookup.fragment,
    isLookup.route⟩

theorem HttpRequest.IsLookup.collect {request : HttpRequest} (isLookup : request.IsLookup) :
    request.body.collect = .ok [] := by
  rw [isLookup.body]
  rfl

theorem Network.delivered_ofJson {status : Nat} (carries : carriesBody .get status = true) (value : Json.Value) :
    delivered .get (.ofJson status value) = .ofJson status value := by
  have collected : (HttpResponse.ofJson status value).body.collect = .ok (Bytes.ofText value.compact) := by
    simp [HttpResponse.ofJson, HttpResponse.ofBytes, Content.ofBytes, Content.collect, Except.map]
  have isStatus : (HttpResponse.ofJson status value).status = status := rfl
  simp only [delivered, isStatus, carries, collected, if_true]
  rfl

namespace Simulation

theorem isLookup_list (bucket : String) (query : Query) : (Sent.list bucket query).IsLookup :=
  ⟨rfl, rfl, rfl, rfl, rfl, rfl, Or.inl ⟨bucket, Sent.route_list bucket query⟩⟩

theorem isLookup_stat (bucket name : String) : (Sent.stat bucket name).IsLookup :=
  ⟨rfl, rfl, rfl, rfl, rfl, rfl, Or.inr ⟨bucket, name, Sent.route_stat bucket name⟩⟩

theorem transport_lookup_congr {request other : HttpRequest} (isLookup : request.IsLookup) {body : Bytes}
    (read : other.body.collect = .ok body) (sameMethod : other.method = request.method)
    (sameUrl : other.url = request.url) (simulation : Simulation) :
    transport other simulation = transport request simulation := by
  have sameRoute : other.route = request.route := by
    rw [HttpRequest.route, HttpRequest.route, sameMethod, sameUrl]
  have sameParameters : other.parameters = request.parameters := by
    rw [HttpRequest.parameters, HttpRequest.parameters, sameUrl]
  rw [transport_of_collect read, transport_of_collect isLookup.collect]
  rcases isLookup.route with ⟨bucket, route⟩ | ⟨bucket, name, route⟩
  · rw [Store.answer_list _ _ _ (sameRoute.trans route), Store.answer_list _ _ _ route, sameParameters]
  · rw [Store.answer_stat _ _ _ (sameRoute.trans route), Store.answer_stat _ _ _ route]

/-- The service finds something, tells that there is nothing, or breaks, and is left as it was. -/
theorem transport_lookup {request : HttpRequest} (isLookup : request.IsLookup) (simulation : Simulation) :
    ∃ answer, transport request simulation = (reply answer, simulation) ∧
      ∀ response, answer = some response → Network.delivered request.method response = response := by
  rw [transport_of_collect isLookup.collect, isLookup.method]
  rcases isLookup.route with ⟨bucket, route⟩ | ⟨bucket, name, route⟩
  · rw [Store.answer_list _ _ _ route]
    refine ⟨_, rfl, fun response listed => ?_⟩
    obtain ⟨listing, _, rfl⟩ := Option.map_eq_some_iff.1 listed
    exact Network.delivered_ofJson rfl _
  · rw [Store.answer_stat _ _ _ route]
    refine ⟨_, rfl, ?_⟩
    rintro _ ⟨⟩
    rw [Store.answerStat]
    split
    · exact Network.delivered_ofJson rfl _
    · exact Network.delivered_ofJson rfl _

theorem connect_of_lookup {request : HttpRequest} (isLookup : request.IsLookup) (simulation : Simulation) :
    Network.connect transport request simulation = transport request simulation := by
  have read : request.body.content.collect = .ok [] := by
    rw [isLookup.body]
    rfl
  have arrivingUrl : (Network.arriving request []).url = request.url := by
    rw [Network.arriving, ← isLookup.fragment]
  have arrivingBody : (Network.arriving request []).body.collect = .ok [] := Body.collect_full []
  obtain ⟨answer, answered, delivered⟩ := transport_lookup isLookup simulation
  rw [Network.connect_of_plain isLookup.scheme isLookup.username isLookup.password read,
    transport_lookup_congr isLookup arrivingBody rfl arrivingUrl, answered]
  cases answer with
  | none => rfl
  | some response => simp only [reply, delivered response rfl]

def LooksUp (carrier : Transport Simulation) : Prop :=
  ∀ request : HttpRequest, request.IsLookup →
    ∀ simulation, carrier request simulation = transport request simulation

theorem IsCarrier.looksUp {carrier : Transport Simulation} (isCarrier : IsCarrier carrier) : LooksUp carrier := by
  rcases isCarrier with rfl | rfl
  · exact fun _ _ _ => rfl
  · exact fun _ => connect_of_lookup

theorem LooksUp.authorized {carrier : Transport Simulation} (looksUp : LooksUp carrier)
    (authorization : Authorization) : LooksUp (authorization.transport carrier) := by
  intro request isLookup simulation
  have authorized : (authorization.authorize request).IsLookup := isLookup.withHeader _ _
  have same : transport (authorization.authorize request) simulation = transport request simulation :=
    transport_lookup_congr isLookup authorized.collect rfl rfl simulation
  exact (looksUp _ authorized simulation).trans same

theorem LooksUp.run_eq {α : Type} {carrier : Transport Simulation} (looksUp : LooksUp carrier) {exchange : Exchange α}
    (asks : exchange.Asks HttpRequest.IsLookup) (simulation : Simulation) :
    exchange.run carrier simulation = exchange.run transport simulation := by
  have follows : carrier.Follows transport HttpRequest.IsLookup Eq := by
    rintro request state _ isLookup rfl
    rw [looksUp request isLookup]
    exact ⟨rfl, rfl⟩
  obtain ⟨sameEnd, sameState⟩ := Exchange.run_of_follows follows asks rfl
  exact Prod.ext sameEnd sameState.symm

theorem asks_list {bucket : String} (isBucket : IsPlaceName bucket) (query : Query) :
    ((bucketConfig bucket).list query).Asks HttpRequest.IsLookup := by
  rw [BucketConfig.list, listRequest_eq isBucket]
  exact .send (isLookup_list bucket query) fun reply => .done _

theorem asks_stat {bucket : String} (isBucket : IsPlaceName bucket) (name : String) :
    ((bucketConfig bucket).stat name).Asks HttpRequest.IsLookup := by
  rw [BucketConfig.stat, statRequest_eq isBucket]
  cases checkSegmentName name with
  | error reason => exact .done _
  | ok => exact .send (isLookup_stat bucket name) fun reply => .done _

end Simulation

/-! ### Commands against the simulated service -/

theorem BucketConfig.lookups_congr {config other : BucketConfig} (sameName : config.name = other.name)
    (sameBase : config.apiBase = other.apiBase) (sameAgent : config.userAgent = other.userAgent) :
    config.stat = other.stat ∧ config.list = other.list := by
  constructor
  · funext name
    simp only [stat, statRequest, objectUrl, objectAddress, bucketAddress, BucketConfig.request, sameName, sameBase,
      sameAgent]
  · funext query
    simp only [list, listRequest, listUrl, bucketAddress, BucketConfig.request, sameName, sameBase, sameAgent]

namespace CommandLine

theorem Handle.config_of_forBucket {settings : Settings} {bucket : String} {handle : Handle}
    (opened : forBucket settings bucket = .ok handle) : handle.config = settings.bucketConfig bucket := by
  unfold forBucket at opened
  dsimp only at opened
  split at opened
  · cases opened
    rfl
  · split at opened <;> cases opened
    rfl

def listQuery (stem : String) (delimiter : Option String) (maxResults : Option UInt32) (pageToken : Option String) :
    Query where
  stem := stem
  delimiter := delimiter.getD ""
  cursor := pageToken.getD ""
  maxResults := maxResults.getD 0

structure Console where
  settings : Settings
  contents : Except String Content
  carrier : Transport Simulation

namespace Console

def run (console : Console) (command : Command) (simulation : Simulation) : Ended Outcome × Simulation :=
  command.run console.carrier console.settings console.contents simulation

/-- Its settings lead to the service, and nothing but the service answers. -/
structure IsAimed (console : Console) (bucket : String) : Prop where
  carrier : Simulation.IsCarrier console.carrier
  base : (console.settings.bucketConfig bucket).apiBase = (Simulation.bucketConfig bucket).apiBase

theorem run_of_errand {console : Console} (isCarrier : Simulation.IsCarrier console.carrier) {command : Command}
    {handle : Handle} {α : Type} {operation : Operation α} {print : α → Outcome}
    (prepared : command.errand console.settings console.contents = .ok (handle.errand operation print))
    (asks : operation.Asks HttpRequest.IsLookup) (simulation : Simulation) :
    console.run command simulation = ((operation.run Simulation.transport simulation).1.map (Outcome.ofResult print),
      (operation.run Simulation.transport simulation).2) := by
  have looksUp := isCarrier.looksUp
  cases isAuthorization : handle.authorization with
  | none =>
      simp only [run, Command.run, prepared, Handle.errand, isAuthorization, Exchange.run_map, looksUp.run_eq asks]
  | some authorization =>
      simp only [run, Command.run, prepared, Handle.errand, isAuthorization, Exchange.run_map,
        (looksUp.authorized authorization).run_eq asks]

section Aimed

variable {console : Console} {bucket : String} (isBucket : IsPlaceName bucket) (aimed : console.IsAimed bucket)
  {handle : Handle} (opened : Handle.forBucket console.settings bucket = .ok handle)

include aimed opened

theorem IsAimed.operations_eq : handle.config.stat = (Simulation.bucketConfig bucket).stat ∧
    handle.config.list = (Simulation.bucketConfig bucket).list := by
  rw [Handle.config_of_forBucket opened]
  exact BucketConfig.lookups_congr (console.settings.name_bucketConfig bucket) aimed.base
    (console.settings.userAgent_bucketConfig bucket)

include isBucket

theorem run_ls {uri stem : String} (parsed : ObjectUri.parse uri = .ok ⟨bucket, stem⟩)
    (delimiter : Option String) (maxResults : Option UInt32) (pageToken : Option String) (simulation : Simulation) :
    console.run (.ls uri delimiter maxResults pageToken) simulation =
      ((Atomic.list simulation.store bucket (listQuery stem delimiter maxResults pageToken)).map
        (Outcome.ofResult (.ofPage bucket)), simulation) := by
  have prepared : (Command.ls uri delimiter maxResults pageToken).errand console.settings console.contents =
      .ok (handle.errand ((Simulation.bucketConfig bucket).list (listQuery stem delimiter maxResults pageToken))
        (.ofPage bucket)) := by
    rw [← (aimed.operations_eq opened).2]
    simp only [Command.errand, parseTarget, parsed, opened, Except.mapError, bind, Except.bind]
    rfl
  rw [run_of_errand aimed.carrier prepared (Simulation.asks_list isBucket _), Simulation.run_list isBucket]

theorem run_stat {uri name : String} (parsed : ObjectUri.parse uri = .ok ⟨bucket, name⟩) (named : name ≠ "")
    (simulation : Simulation) : console.run (.stat uri) simulation =
      (.finished (.ofResult .ofObject (Atomic.stat simulation.store bucket name)), simulation) := by
  have prepared : (Command.stat uri).errand console.settings console.contents =
      .ok (handle.errand ((Simulation.bucketConfig bucket).stat name) .ofObject) := by
    rw [← (aimed.operations_eq opened).1]
    simp only [Command.errand, objectTarget_of_parsed parsed named, opened, bind, Except.bind]
    rfl
  rw [run_of_errand aimed.carrier prepared (Simulation.asks_stat isBucket name), Simulation.run_stat isBucket]
  rfl

end Aimed

theorem exists_handle_of_ls {console : Console} {bucket uri stem : String}
    (parsed : ObjectUri.parse uri = .ok ⟨bucket, stem⟩) {delimiter : Option String} {maxResults : Option UInt32}
    {pageToken : Option String} {simulation left : Simulation} {outcome : Outcome}
    (ran : console.run (.ls uri delimiter maxResults pageToken) simulation = (.finished outcome, left))
    (succeeded : outcome.failure = none) : ∃ handle, Handle.forBucket console.settings bucket = .ok handle := by
  cases opened : Handle.forBucket console.settings bucket with
  | ok handle => exact ⟨handle, rfl⟩
  | error failure =>
      have refused : (Command.ls uri delimiter maxResults pageToken).errand console.settings console.contents =
          .error failure := by
        simp only [Command.errand, parseTarget, parsed, opened, Except.mapError, bind, Except.bind]
      rw [run, Command.run, refused] at ran
      cases ran
      cases succeeded

end Console

end CommandLine

end ObjectStore
