import ObjectStore.Proofs.Atomic.Creation

/-!
Calls on buckets of one simulated service, one request at a time and all at once. Every call but a valid
creation is over after its first request, and has done by then what it does at once.
-/

namespace ObjectStore

open Url (IsPlaceName)

variable {α β σ : Type}

/-! ### One request at a time -/

inductive Progress (α : Type) where
  | ended (result : Ended α)
  | running (rest : Exchange α)

namespace Exchange

def advance (transport : Transport σ) : Exchange α → σ → Progress α × σ
  | .done result, state => (.ended (.finished result), state)
  | .send request next, state =>
      match transport request state with
      | (.answer answer, after) =>
          match next answer with
          | .done result => (.ended (.finished result), after)
          | rest => (.running rest, after)
      | (.silence, after) => (.ended .pending, after)
      | (.fault message, after) => (.ended (.broken message), after)

inductive IsShort : Exchange α → Prop
  | done (result : α) : IsShort (.done result)
  | send (request : HttpRequest) {next : Except TransportError HttpResponse → Exchange α}
      (last : ∀ answer, ∃ result, next answer = .done result) : IsShort (.send request next)

theorem run_map (change : α → β) (transport : Transport σ) (exchange : Exchange α) (state : σ) :
    (exchange.map change).run transport state =
      ((exchange.run transport state).1.map change, (exchange.run transport state).2) := by
  rw [map_eq_bind, run_bind]
  rcases exchange.run transport state with ⟨_ | _ | _, after⟩ <;> rfl

theorem IsShort.map {exchange : Exchange α} (isShort : exchange.IsShort) (change : α → β) :
    (exchange.map change).IsShort := by
  cases isShort with
  | done result => exact .done (change result)
  | send request last =>
      refine .send request fun answer => ?_
      obtain ⟨result, ended⟩ := last answer
      refine ⟨change result, ?_⟩
      rw [ended]
      rfl

theorem IsShort.advance {exchange : Exchange α} (isShort : exchange.IsShort) (transport : Transport σ) (state : σ) :
    exchange.advance transport state =
      (.ended (exchange.run transport state).1, (exchange.run transport state).2) := by
  cases isShort with
  | done result => rfl
  | send request last =>
      rw [Exchange.advance, run]
      rcases transport request state with ⟨answer | _ | _, after⟩
      · obtain ⟨result, ended⟩ := last answer
        simp only [ended]
        rfl
      · rfl
      · rfl

theorem isShort_sending {request : Except InvalidRequest HttpRequest}
    (result : Except TransportError HttpResponse → Except Error α) :
    (Operation.sending request fun reply => .done (result reply)).IsShort := by
  cases request with
  | error reason => exact .done _
  | ok request => exact .send request fun answer => ⟨result answer, rfl⟩

end Exchange

namespace Simulation

def withUploads (simulation : Simulation) (number : Nat) (uploads : Dictionary PendingUpload) : Simulation :=
  { simulation with store := { simulation.store with nextUpload := number, uploads } }

/-! ### Calls -/

inductive Action where
  | create (request : CreateRequest)
  | read (request : ReadRequest)
  | stat (name : String)
  | update (request : UpdateRequest)
  | delete (name : String)
  | list (query : Query)

structure Call where
  bucket : String
  isBucket : IsPlaceName bucket
  action : Action

inductive Outcome where
  | object (object : Object)
  | content (content : Content)
  | deleted
  | page (page : Page)

namespace Call

def exchange (call : Call) : Operation Outcome :=
  let config := bucketConfig call.bucket
  match call.action with
  | .create request => (config.create request).map (.map .object)
  | .read request => (config.read request).map (.map .content)
  | .stat name => (config.stat name).map (.map .object)
  | .update request => (config.update request).map (.map .object)
  | .delete name => (config.delete name).map (.map fun _ => .deleted)
  | .list query => (config.list query).map (.map .page)

/-- The call as one change of the bucket without a wire. -/
def perform (call : Call) (simulation : Simulation) : Ended (Except Error Outcome) × Simulation :=
  let store := simulation.store
  let now := simulation.clock.now
  match call.action with
  | .create request =>
      let (result, store) := Atomic.create store now call.bucket request
      (.finished (result.map .object), { simulation with store })
  | .read request => (.finished ((Atomic.read store call.bucket request).map .content), simulation)
  | .stat name => (.finished ((Atomic.stat store call.bucket name).map .object), simulation)
  | .update request =>
      let (result, store) := Atomic.update store now call.bucket request
      (.finished (result.map .object), { simulation with store })
  | .delete name =>
      let (result, store) := Atomic.delete store call.bucket name
      (.finished (result.map fun _ => .deleted), { simulation with store })
  | .list query => ((Atomic.list store call.bucket query).map (.map .page), simulation)

def finishing (call : Call) (request : CreateRequest) (number : Nat) : Operation Outcome :=
  (uploading call.bucket request number).map (.map .object)

theorem exchange_cases (call : Call) :
    (call.exchange.IsShort ∧ ∀ simulation, call.exchange.run transport simulation = call.perform simulation) ∨
    ∃ request, call.action = .create request ∧ Atomic.checkCreate request = .ok () ∧
      ∀ simulation, call.exchange.advance transport simulation =
        (.running (call.finishing request (simulation.store.nextUpload + 1)),
          { simulation with store := (simulation.store.announce (Atomic.pending call.bucket request)).2 }) := by
  obtain ⟨bucket, isBucket, action⟩ := call
  cases action with
  | create request =>
      cases checked : Atomic.checkCreate request with
      | error error =>
          have isDone : exchange ⟨bucket, isBucket, .create request⟩ = .done (.error error) := by
            simp only [exchange, create_invalid isBucket checked]
            rfl
          rw [isDone]
          refine Or.inl ⟨.done _, fun simulation => ?_⟩
          simp only [perform, Atomic.create, checked]
          rfl
      | ok =>
          obtain ⟨next, created, rest⟩ := create_valid isBucket checked
          refine Or.inr ⟨request, rfl, checked, fun simulation => ?_⟩
          simp only [exchange, created, Exchange.map, Exchange.advance, transport_announce bucket checked, rest]
          rfl
  | read request =>
      have isShort : ((bucketConfig bucket).read request).IsShort := Exchange.isShort_sending _
      simp only [exchange]
      refine Or.inl ⟨isShort.map _, fun simulation => ?_⟩
      simp only [perform, Exchange.run_map, run_read isBucket]
      rfl
  | stat name =>
      have isShort : ((bucketConfig bucket).stat name).IsShort := Exchange.isShort_sending _
      simp only [exchange]
      refine Or.inl ⟨isShort.map _, fun simulation => ?_⟩
      simp only [perform, Exchange.run_map, run_stat isBucket]
      rfl
  | update request =>
      have isShort : ((bucketConfig bucket).update request).IsShort := Exchange.isShort_sending _
      simp only [exchange]
      refine Or.inl ⟨isShort.map _, fun simulation => ?_⟩
      simp only [perform, Exchange.run_map, run_update isBucket]
      rfl
  | delete name =>
      have isShort : ((bucketConfig bucket).delete name).IsShort := Exchange.isShort_sending _
      simp only [exchange]
      refine Or.inl ⟨isShort.map _, fun simulation => ?_⟩
      simp only [perform, Exchange.run_map, run_delete isBucket]
      rfl
  | list query =>
      have isShort : ((bucketConfig bucket).list query).IsShort := Exchange.isShort_sending _
      simp only [exchange]
      refine Or.inl ⟨isShort.map _, fun simulation => ?_⟩
      simp only [perform, Exchange.run_map, run_list isBucket]

theorem perform_withUploads (call : Call) (simulation : Simulation) (number : Nat)
    (uploads : Dictionary PendingUpload) :
    call.perform (simulation.withUploads number uploads) =
      ((call.perform simulation).1, (call.perform simulation).2.withUploads number uploads) := by
  obtain ⟨bucket, isBucket, action⟩ := call
  cases action with
  | read request => rfl
  | stat name => rfl
  | list query => rfl
  | create request =>
      simp only [perform, withUploads, Atomic.create_withUploads]
  | update request =>
      simp only [perform, withUploads, Atomic.update, Store.find?_withUploads]
      split
      · rfl
      · rfl
      · split <;> rfl
  | delete name =>
      simp only [perform, withUploads, Atomic.delete, Store.find?_withUploads]
      split <;> rfl

theorem perform_uploads (call : Call) (simulation : Simulation) :
    (call.perform simulation).2.store.nextUpload = simulation.store.nextUpload ∧
      (call.perform simulation).2.store.uploads = simulation.store.uploads := by
  have own : simulation.withUploads simulation.store.nextUpload simulation.store.uploads = simulation := rfl
  have kept := call.perform_withUploads simulation simulation.store.nextUpload simulation.store.uploads
  rw [own] at kept
  exact ⟨congrArg (fun performed => performed.2.store.nextUpload) kept,
    congrArg (fun performed => performed.2.store.uploads) kept⟩

theorem advance_finishing (call : Call) {request : CreateRequest} (creates : call.action = .create request)
    (isValid : Atomic.checkCreate request = .ok ()) {number : Nat} {simulation : Simulation}
    (isOpen : simulation.store.uploads.get? (Store.sessionName number) = some (Atomic.pending call.bucket request)) :
    ∃ after : Simulation,
      (call.finishing request number).advance transport simulation = (.ended (call.perform simulation).1, after) ∧
      after.withUploads 0 ∅ = (call.perform simulation).2.withUploads 0 ∅ ∧
      after.store.nextUpload = simulation.store.nextUpload ∧
      ∀ session, session ≠ Store.sessionName number →
        after.store.uploads.get? session = simulation.store.uploads.get? session := by
  obtain ⟨uploads, others, finished⟩ := run_uploading isValid isOpen
  have isShort : (uploading call.bucket request number).IsShort := .send _ fun _ => ⟨_, rfl⟩
  have advanced := (isShort.map (Except.map Outcome.object)).advance transport simulation
  rw [Exchange.run_map, finished] at advanced
  have numbered := (call.perform_uploads simulation).1
  simp only [perform, creates] at numbered ⊢
  exact ⟨_, advanced, rfl, numbered, others⟩

end Call

end Simulation

end ObjectStore
