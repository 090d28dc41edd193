import ObjectStore.Http.Message

/-!
Exchanges with a server as data: one request at a time, and what to do with the reply. What carries
the requests is a state machine, so that the same exchange runs over a script, a simulated service or
a network.
-/

namespace ObjectStore

inductive Exchange (α : Type) where
  | done (result : α)
  | send (request : HttpRequest) (next : Except TransportError HttpResponse → Exchange α)

/-- What a transport makes of a request: an answer, silence for ever, or a fault of its own. -/
inductive Reply where
  | answer (answer : Except TransportError HttpResponse)
  | silence
  | fault (message : String)

abbrev Transport (σ : Type) := HttpRequest → σ → Reply × σ

inductive Ended (α : Type) where
  | finished (result : α)
  | pending
  | broken (message : String)
deriving DecidableEq, Repr

namespace Exchange

variable {α β γ σ : Type}

def map (change : α → β) : Exchange α → Exchange β
  | .done result => .done (change result)
  | .send request next => .send request fun reply => map change (next reply)

def bind (exchange : Exchange α) (continuation : α → Exchange β) : Exchange β :=
  match exchange with
  | .done result => continuation result
  | .send request next => .send request fun reply => bind (next reply) continuation

instance : Monad Exchange where
  pure := .done
  bind := bind

theorem bind_done (exchange : Exchange α) : exchange.bind .done = exchange := by
  induction exchange with
  | done result => rfl
  | send request next ih => simp [bind, ih]

theorem bind_assoc (exchange : Exchange α) (first : α → Exchange β) (second : β → Exchange γ) :
    (exchange.bind first).bind second = exchange.bind fun result => (first result).bind second := by
  induction exchange with
  | done result => rfl
  | send request next ih => simp [bind, ih]

instance : LawfulMonad Exchange :=
  .mk' Exchange bind_done (fun _ _ => rfl) bind_assoc

def run (transport : Transport σ) : Exchange α → σ → Ended α × σ
  | .done result, state => (.finished result, state)
  | .send request next, state =>
      match transport request state with
      | (.answer answer, after) => run transport (next answer) after
      | (.silence, after) => (.pending, after)
      | (.fault message, after) => (.broken message, after)

theorem run_bind (transport : Transport σ) (exchange : Exchange α) (continuation : α → Exchange β)
    (state : σ) :
    (exchange.bind continuation).run transport state = match exchange.run transport state with
      | (.finished result, after) => (continuation result).run transport after
      | (.pending, after) => (.pending, after)
      | (.broken message, after) => (.broken message, after) := by
  induction exchange generalizing state with
  | done result => rfl
  | send request next ih =>
      simp only [bind, run]
      rcases transport request state with ⟨answer | _ | _, after⟩
      · exact ih answer after
      · rfl
      · rfl

theorem map_eq_bind (change : α → β) (exchange : Exchange α) :
    exchange.map change = exchange.bind fun result => .done (change result) := by
  induction exchange with
  | done result => rfl
  | send request next ih => simp [map, bind, ih]

end Exchange

namespace Ended

variable {α β σ : Type}

def map (change : α → β) : Ended α → Ended β
  | .finished result => .finished (change result)
  | .pending => .pending
  | .broken message => .broken message

/-- What work over a state comes to, if it hears an answer. Work that breaks breaks off whatever it is a part of. -/
def attempt (work : σ → Ended α × σ) : EStateM String σ (Option α) := fun state =>
  match work state with
  | (.finished result, after) => .ok (some result) after
  | (.pending, after) => .ok none after
  | (.broken message, after) => .error message after

end Ended

end ObjectStore
