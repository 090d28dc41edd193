import Mathlib.Logic.Function.Basic
import ObjectStore.Proofs.Atomic.Call
import ObjectStore.Proofs.Simulation.Session

/-!
Clients that share one simulated service and take turns in any order, a request at each turn. What they
see is what they would see if every call were done at once when its last request is.
-/

namespace ObjectStore.Simulation

/-! ### Clients -/

structure Client where
  running : Option (Call × Operation Outcome)
  waiting : List Call

def Client.calls (client : Client) : List Call :=
  client.running.toList.map Prod.fst ++ client.waiting

inductive ClockMove where
  | advance (nanos : Int)
  | set (time : Timestamp)

def ClockMove.happening : ClockMove → Happening
  | .advance nanos => .advance nanos
  | .set time => .setTime time

inductive Entry where
  | completed (client : Nat) (call : Call) (result : Ended (Except Error Outcome))
  | abandoned (client : Nat) (call : Call)
  | moved (move : ClockMove)

def Entry.callOf? (client : Nat) : Entry → Option Call
  | .completed caller call _ | .abandoned caller call => if caller = client then some call else none
  | .moved _ => none

structure System where
  simulation : Simulation
  clients : Nat → Client
  log : List Entry

/-- What can happen next. Only a call that is not over can be abandoned. -/
inductive Event where
  | turn (client : Nat)
  | abandon (client : Nat)
  | clock (move : ClockMove)

namespace System

def start (time : Timestamp) (programs : Nat → List Call) : System :=
  ⟨.start time, fun client => ⟨none, programs client⟩, []⟩

def proceed (system : System) (client : Nat) (call : Call) (exchange : Operation Outcome) (waiting : List Call) :
    System :=
  match exchange.advance transport system.simulation with
  | (.ended result, simulation) =>
      ⟨simulation, Function.update system.clients client ⟨none, waiting⟩, .completed client call result :: system.log⟩
  | (.running rest, simulation) =>
      ⟨simulation, Function.update system.clients client ⟨some (call, rest), waiting⟩, system.log⟩

def step (system : System) : Event → System
  | .turn client =>
      match system.clients client with
      | ⟨some (call, exchange), waiting⟩ => system.proceed client call exchange waiting
      | ⟨none, call :: waiting⟩ => system.proceed client call call.exchange waiting
      | ⟨none, []⟩ => system
  | .abandon client =>
      match system.clients client with
      | ⟨some (call, _), waiting⟩ =>
          { system with
            clients := Function.update system.clients client ⟨none, waiting⟩
            log := .abandoned client call :: system.log }
      | ⟨none, _⟩ => system
  | .clock move =>
      { system with simulation := system.simulation.step move.happening, log := .moved move :: system.log }

def run (system : System) (schedule : List Event) : System :=
  schedule.foldl step system

def calls (system : System) (client : Nat) : List Call :=
  system.log.reverse.filterMap (Entry.callOf? client) ++ (system.clients client).calls

end System

def serial (time : Timestamp) : List Entry → Simulation
  | [] => start time
  | .completed _ call _ :: earlier => (call.perform (serial time earlier)).2
  | .abandoned .. :: earlier => serial time earlier
  | .moved move :: earlier => (serial time earlier).step move.happening

/-! ### What a turn does -/

/-- Every client in the middle of a creation has a session of its own, which holds that creation. -/
structure Sessions (system : System) (session : Nat → Nat) : Prop where
  opened : ∀ client call exchange, (system.clients client).running = some (call, exchange) →
    ∃ request, call.action = .create request ∧ Atomic.checkCreate request = .ok () ∧
      exchange = call.finishing request (session client) ∧
      session client ≤ system.simulation.store.nextUpload ∧
      system.simulation.store.uploads.get? (Store.sessionName (session client)) =
        some (Atomic.pending call.bucket request)
  apart : ∀ client other, (system.clients client).running.isSome → (system.clients other).running.isSome →
    session client = session other → client = other

inductive Turned (system : System) (session : Nat → Nat) (client : Nat) : System → Prop
  | idle (next : system.clients client = ⟨none, []⟩) : Turned system session client system
  | announced (call : Call) (request : CreateRequest) (waiting : List Call)
      (next : system.clients client = ⟨none, call :: waiting⟩)
      (creates : call.action = .create request)
      (isValid : Atomic.checkCreate request = .ok ()) :
      Turned system session client
        ⟨{ system.simulation with store := (system.simulation.store.announce (Atomic.pending call.bucket request)).2 },
          Function.update system.clients client
            ⟨some (call, call.finishing request (system.simulation.store.nextUpload + 1)), waiting⟩,
          system.log⟩
  | completed (call : Call) (waiting : List Call) (after : Simulation)
      (next : (system.clients client).calls = call :: waiting)
      (performed : after.withUploads 0 ∅ = (call.perform system.simulation).2.withUploads 0 ∅)
      (numbered : after.store.nextUpload = system.simulation.store.nextUpload)
      (others : ∀ number, ((system.clients client).running.isSome → number ≠ session client) →
        after.store.uploads.get? (Store.sessionName number) =
          system.simulation.store.uploads.get? (Store.sessionName number)) :
      Turned system session client
        ⟨after, Function.update system.clients client ⟨none, waiting⟩,
          .completed client call (call.perform system.simulation).1 :: system.log⟩

theorem Sessions.turned {system : System} {session : Nat → Nat} (sessions : Sessions system session) (client : Nat) :
    Turned system session client (system.step (.turn client)) := by
  rcases found : system.clients client with ⟨_ | ⟨call, exchange⟩, waiting⟩
  -- Nothing is under way, so that the turn is the first request of the next call.
  · cases waiting with
    | nil =>
        simp only [System.step, found]
        exact .idle found
    | cons call waiting =>
        have stepped : system.step (.turn client) = system.proceed client call call.exchange waiting := by
          simp only [System.step, found]
        rw [stepped]
        rcases call.exchange_cases with ⟨isShort, same⟩ | ⟨request, creates, isValid, advanced⟩
        · have advanced := isShort.advance transport system.simulation
          obtain ⟨numbered, uploads⟩ := call.perform_uploads system.simulation
          rw [same] at advanced
          simp only [System.proceed, advanced]
          exact .completed call waiting _ (by rw [found]; rfl) rfl numbered fun _ _ => by rw [uploads]
        · simp only [System.proceed, advanced]
          exact .announced call request waiting found creates isValid
  -- A creation is under way: its session still holds what it announced, whoever had a turn since.
  · have stepped : system.step (.turn client) = system.proceed client call exchange waiting := by
      simp only [System.step, found]
    obtain ⟨request, creates, isValid, rfl, _, isOpen⟩ := sessions.opened client call exchange (by rw [found])
    obtain ⟨after, advanced, performed, numbered, others⟩ := call.advance_finishing creates isValid isOpen
    rw [stepped]
    simp only [System.proceed, advanced]
    exact .completed call waiting after (by rw [found]; rfl) performed numbered fun number differs =>
      others _ fun same => differs (by rw [found]; rfl) (Store.sessionName_injective same)

/-! ### What every event keeps -/

theorem ClockMove.store_step (move : ClockMove) (simulation : Simulation) :
    (simulation.step move.happening).store = simulation.store := by
  cases move with
  | advance nanos =>
      simp only [happening, Simulation.step]
      split <;> rfl
  | set time => rfl

theorem ClockMove.step_withUploads (move : ClockMove) (simulation : Simulation) (number : Nat)
    (uploads : Dictionary PendingUpload) :
    (simulation.withUploads number uploads).step move.happening =
      (simulation.step move.happening).withUploads number uploads := by
  cases move with
  | advance nanos =>
      simp only [happening, Simulation.step, withUploads]
      split <;> rfl
  | set time => rfl

theorem Sessions.stopped {system : System} {session : Nat → Nat} (sessions : Sessions system session) (client : Nat)
    (waiting : List Call) {after : Simulation} {log : List Entry}
    (numbered : after.store.nextUpload = system.simulation.store.nextUpload)
    (others : ∀ number, ((system.clients client).running.isSome → number ≠ session client) →
      after.store.uploads.get? (Store.sessionName number) =
        system.simulation.store.uploads.get? (Store.sessionName number)) :
    Sessions ⟨after, Function.update system.clients client ⟨none, waiting⟩, log⟩ session := by
  constructor
  · intro other call exchange isRunning
    by_cases same : other = client
    · rw [same] at isRunning
      simp at isRunning
    · dsimp only at isRunning
      rw [Function.update_of_ne same] at isRunning
      obtain ⟨request, creates, isValid, rest, bound, isOpen⟩ := sessions.opened other call exchange isRunning
      have notClosed : (system.clients client).running.isSome → session other ≠ session client :=
        fun isSome sameSession => same (sessions.apart other client (by rw [isRunning]; rfl) isSome sameSession)
      refine ⟨request, creates, isValid, rest, by dsimp only; omega, ?_⟩
      dsimp only
      rw [others _ notClosed]
      exact isOpen
  · have wasRunning : ∀ other, ((Function.update system.clients client ⟨none, waiting⟩) other).running.isSome →
        (system.clients other).running.isSome := by
      intro other isSome
      by_cases same : other = client
      · rw [same] at isSome
        simp at isSome
      · rwa [Function.update_of_ne same] at isSome
    intro first second firstRuns secondRuns
    exact sessions.apart first second (wasRunning first firstRuns) (wasRunning second secondRuns)

theorem Sessions.announced {system : System} {session : Nat → Nat} (sessions : Sessions system session) {client : Nat}
    {call : Call} {request : CreateRequest} (creates : call.action = .create request)
    (isValid : Atomic.checkCreate request = .ok ()) (waiting : List Call) (log : List Entry) :
    let number := system.simulation.store.nextUpload + 1
    Sessions ⟨{ system.simulation with
          store := (system.simulation.store.announce (Atomic.pending call.bucket request)).2 },
        Function.update system.clients client ⟨some (call, call.finishing request number), waiting⟩, log⟩
      (Function.update session client number) := by
  intro number
  -- The new number is above all that are in use, which keeps the sessions apart.
  have older : ∀ other, other ≠ client →
      ((Function.update system.clients client ⟨some (call, call.finishing request number), waiting⟩)
        other).running.isSome → session other < number := by
    intro other differs isSome
    rw [Function.update_of_ne differs] at isSome
    obtain ⟨⟨otherCall, exchange⟩, isRunning⟩ := Option.isSome_iff_exists.1 isSome
    obtain ⟨_, _, _, _, bound, _⟩ := sessions.opened other otherCall exchange isRunning
    omega
  constructor
  · intro other otherCall exchange isRunning
    by_cases same : other = client
    · rw [same]
      dsimp only at isRunning
      rw [same, Function.update_self] at isRunning
      cases isRunning
      refine ⟨request, creates, isValid, by rw [Function.update_self], ?_, ?_⟩
      · rw [Function.update_self]
        exact Nat.le_refl _
      · rw [Function.update_self]
        exact (Dictionary.get?_insert ..).trans (if_pos rfl)
    · have lower := older other same (by rw [isRunning]; rfl)
      dsimp only at isRunning
      rw [Function.update_of_ne same] at isRunning
      obtain ⟨otherRequest, created, checked, rest, bound, isOpen⟩ :=
        sessions.opened other otherCall exchange isRunning
      have differs : Store.sessionName (session other) ≠ Store.sessionName number := by
        intro sameName
        have sameNumber := Store.sessionName_injective sameName
        omega
      rw [Function.update_of_ne same]
      refine ⟨otherRequest, created, checked, rest, Nat.le_of_lt lower, ?_⟩
      exact ((Dictionary.get?_insert ..).trans (if_neg differs)).trans isOpen
  · intro first second firstRuns secondRuns sameSession
    by_cases isFirst : first = client
    · by_cases isSecond : second = client
      · rw [isFirst, isSecond]
      · have earlier := older second isSecond secondRuns
        rw [isFirst, Function.update_self, Function.update_of_ne isSecond] at sameSession
        omega
    · have earlier := older first isFirst firstRuns
      by_cases isSecond : second = client
      · rw [isSecond, Function.update_self, Function.update_of_ne isFirst] at sameSession
        omega
      · dsimp only at firstRuns secondRuns
        rw [Function.update_of_ne isFirst] at firstRuns
        rw [Function.update_of_ne isSecond] at secondRuns
        rw [Function.update_of_ne isFirst, Function.update_of_ne isSecond] at sameSession
        exact sessions.apart first second firstRuns secondRuns sameSession

theorem Sessions.step {system : System} {session : Nat → Nat} (sessions : Sessions system session) (event : Event) :
    ∃ session, Sessions (system.step event) session := by
  cases event with
  | turn client =>
      have turned := sessions.turned client
      generalize system.step (.turn client) = next at turned ⊢
      cases turned with
      | idle _ => exact ⟨session, sessions⟩
      | announced call request waiting _ creates isValid =>
          exact ⟨_, sessions.announced creates isValid waiting _⟩
      | completed call waiting after _ _ numbered others =>
          exact ⟨session, sessions.stopped client waiting numbered others⟩
  | abandon client =>
      rcases found : system.clients client with ⟨_ | ⟨call, exchange⟩, waiting⟩
      · have same : system.step (.abandon client) = system := by simp only [System.step, found]
        rw [same]
        exact ⟨session, sessions⟩
      · simp only [System.step, found]
        exact ⟨session, sessions.stopped client waiting rfl fun _ _ => rfl⟩
  | clock move =>
      refine ⟨session, ⟨fun client call exchange isRunning => ?_, sessions.apart⟩⟩
      have kept := move.store_step system.simulation
      obtain ⟨request, opened⟩ := sessions.opened client call exchange isRunning
      refine ⟨request, ?_⟩
      simp only [System.step, kept]
      exact opened

/-- What a log says of the system that kept it: the same objects follow from its entries one after the
other, and every result in it is the one of its turn. -/
structure History (time : Timestamp) (programs : Nat → List Call) (system : System) : Prop where
  replayed : serial time system.log = system.simulation.withUploads 0 ∅
  explained : ∀ later client call result earlier, system.log = later ++ .completed client call result :: earlier →
    result = (call.perform (serial time earlier)).1
  ordered : ∀ client, system.calls client = programs client

section History

variable {time : Timestamp} {programs : Nat → List Call} {system : System}

theorem History.explained_cons (history : History time programs system) {entry : Entry}
    (first : ∀ client call result, entry = .completed client call result →
      result = (call.perform (serial time system.log)).1) :
    ∀ later client call result earlier, entry :: system.log = later ++ .completed client call result :: earlier →
      result = (call.perform (serial time earlier)).1 := by
  intro later client call result earlier split
  cases later with
  | nil =>
      obtain ⟨same, rfl⟩ := List.cons.inj split
      exact first client call result same
  | cons newest later => exact history.explained later client call result earlier (List.cons.inj split).2

theorem calls_logged {client : Nat} {call : Call} {waiting : List Call}
    (next : (system.clients client).calls = call :: waiting) {entry : Entry}
    (isOf : ∀ other, entry.callOf? other = if client = other then some call else none) (simulation : Simulation)
    (other : Nat) :
    System.calls ⟨simulation, Function.update system.clients client ⟨none, waiting⟩, entry :: system.log⟩ other =
      system.calls other := by
  simp only [System.calls, List.reverse_cons, List.filterMap_append, List.filterMap_cons, List.filterMap_nil, isOf]
  by_cases same : client = other
  · subst same
    rw [next]
    simp [Client.calls]
  · rw [if_neg same, Function.update_of_ne (Ne.symm same)]
    simp

theorem History.turned {session : Nat → Nat} {client : Nat} {after : System} (history : History time programs system)
    (turned : Turned system session client after) : History time programs after := by
  cases turned with
  | idle _ => exact history
  | announced call request waiting next creates isValid =>
      refine ⟨history.replayed, history.explained, fun other => ?_⟩
      rw [← history.ordered other]
      by_cases same : other = client
      · subst same
        simp [System.calls, Client.calls, next]
      · simp only [System.calls, Function.update_of_ne same]
  | completed call waiting after next performed numbered others =>
      -- The replay has no sessions, and the call does not look at them.
      have result := call.perform_withUploads system.simulation 0 ∅
      rw [← history.replayed] at result
      refine ⟨?_, history.explained_cons ?_, fun other => ?_⟩
      · rw [performed]
        exact congrArg Prod.snd result
      · rintro _ _ _ same
        cases same
        exact (congrArg Prod.fst result).symm
      · rw [calls_logged next fun _ => rfl]
        exact history.ordered other

theorem History.step {session : Nat → Nat} (history : History time programs system) (sessions : Sessions system session)
    (event : Event) : History time programs (system.step event) := by
  cases event with
  | turn client => exact history.turned (sessions.turned client)
  | abandon client =>
      rcases found : system.clients client with ⟨_ | ⟨call, exchange⟩, waiting⟩
      · have same : system.step (.abandon client) = system := by simp only [System.step, found]
        rw [same]
        exact history
      · simp only [System.step, found]
        refine ⟨history.replayed, history.explained_cons ?_, fun other => ?_⟩
        · rintro _ _ _ same
          cases same
        · have next : (system.clients client).calls = call :: waiting := by
            rw [found]
            rfl
          rw [calls_logged next fun _ => rfl]
          exact history.ordered other
  | clock move =>
      refine ⟨?_, history.explained_cons ?_, fun other => ?_⟩
      · exact (congrArg (Simulation.step · move.happening) history.replayed).trans
          (move.step_withUploads system.simulation 0 ∅)
      · rintro _ _ _ same
        cases same
      · rw [← history.ordered other]
        simp [System.calls, System.step, Entry.callOf?]

end History

theorem Turned.outcome {system after : System} {session : Nat → Nat} {client : Nat}
    (turned : Turned system session client after) {call : Call} {waiting : List Call}
    (head : (system.clients client).calls = call :: waiting) :
    (after.log = .completed client call (call.perform system.simulation).1 :: system.log ∧
      after.simulation.store.objects = (call.perform system.simulation).2.store.objects) ∨
    ((system.clients client).running = none ∧ (∃ request, call.action = .create request) ∧
      (after.clients client).running.isSome ∧ after.log = system.log ∧
      after.simulation.store.objects = system.simulation.store.objects) := by
  cases turned with
  | idle next =>
      rw [next] at head
      cases head
  | announced announced request rest next creates isValid =>
      rw [next] at head
      cases head
      refine Or.inr ⟨by rw [next], ⟨request, creates⟩, ?_, rfl, rfl⟩
      dsimp only
      rw [Function.update_self]
      rfl
  | completed first rest simulation next performed numbered others =>
      rw [next] at head
      cases head
      exact Or.inl ⟨rfl, congrArg (fun simulation => simulation.store.objects) performed⟩

/-! ### Whole runs -/

theorem history_run (time : Timestamp) (programs : Nat → List Call) (schedule : List Event) :
    let system := (System.start time programs).run schedule
    History time programs system ∧ ∃ session, Sessions system session := by
  have kept (system : System) (schedule : List Event) (history : History time programs system)
      (sessions : ∃ session, Sessions system session) :
      History time programs (system.run schedule) ∧ ∃ session, Sessions (system.run schedule) session := by
    induction schedule generalizing system with
    | nil => exact ⟨history, sessions⟩
    | cons event rest ih =>
        obtain ⟨session, sessions⟩ := sessions
        exact ih (system.step event) (history.step sessions event) (sessions.step event)
  refine kept (System.start time programs) schedule ⟨rfl, ?_, fun _ => rfl⟩ ⟨fun _ => 0, ?_, ?_⟩
  · intro later client call result earlier split
    simp [System.start] at split
  · intro client call exchange isRunning
    cases isRunning
  · intro client other isSome
    cases isSome

/-- Every result is the one of its call done at once after the calls that were over before, and so are
the objects in the end; what was abandoned counts for nothing. A turn does all of the client's next call
at once, unless it announces a creation: that changes no object, and the turn after it does the rest. -/
theorem interleaved_calls_are_atomic (time : Timestamp) (programs : Nat → List Call) (schedule : List Event) :
    let system := (System.start time programs).run schedule
    (∀ later client call result earlier, system.log = later ++ .completed client call result :: earlier →
      result = (call.perform (serial time earlier)).1) ∧
    system.simulation.store.objects = (serial time system.log).store.objects ∧
    (∀ client, system.calls client = programs client) ∧
    ∀ client call waiting, (system.clients client).calls = call :: waiting →
      let after := system.step (.turn client)
      (after.log = .completed client call (call.perform system.simulation).1 :: system.log ∧
        after.simulation.store.objects = (call.perform system.simulation).2.store.objects) ∨
      ((system.clients client).running = none ∧ (∃ request, call.action = .create request) ∧
        (after.clients client).running.isSome ∧ after.log = system.log ∧
        after.simulation.store.objects = system.simulation.store.objects) := by
  intro system
  obtain ⟨history, session, sessions⟩ := history_run time programs schedule
  refine ⟨history.explained, ?_, history.ordered, fun client call waiting head => ?_⟩
  · rw [history.replayed]
    rfl
  · exact (sessions.turned client).outcome head

end ObjectStore.Simulation
