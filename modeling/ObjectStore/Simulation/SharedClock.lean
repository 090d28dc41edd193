import ObjectStore.Simulation.Server

/-!
A clock in more than one hand: a service tells the time by it while others move it. It stands behind a lock,
which a holder that breaks off leaves poisoned.
-/

namespace ObjectStore

/-- A value that one holder at a time can have. -/
structure Lock (α : Type) where
  value : α
  isPoisoned : Bool
deriving DecidableEq, Repr

namespace Lock

variable {α β ε : Type}

def unlocked (value : α) : Lock α :=
  ⟨value, false⟩

def acquire (lock : Lock α) : Except α α :=
  if lock.isPoisoned then .error lock.value else .ok lock.value

def recover (lock : Lock α) : α :=
  match lock.acquire with
  | .ok value => value
  | .error poisoned => poisoned

/-- A holder that breaks off leaves the value as it last wrote it. Nothing takes the poison out of a lock. -/
def hold (lock : Lock α) (work : EStateM ε α β) : Except ε β × Lock α :=
  match work.run lock.recover with
  | .ok result value => (.ok result, { lock with value })
  | .error fault value => (.error fault, ⟨value, true⟩)

end Lock

structure SharedClock where
  time : Lock Timestamp
deriving DecidableEq, Repr

namespace SharedClock

def start (time : Timestamp) : SharedClock :=
  ⟨.unlocked time⟩

def now (clock : SharedClock) : Timestamp :=
  clock.time.recover

def setTime (clock : SharedClock) (time : Timestamp) : SharedClock :=
  let work : EStateM Empty Timestamp Unit := set time
  ⟨(clock.time.hold work).2⟩

def moving (nanos : Int) : EStateM ClockFault Timestamp Unit := do
  match Clock.advance ⟨← get⟩ nanos with
  | .ok clock => set clock.now
  | .error fault => throw fault

def advance (clock : SharedClock) (nanos : Int) : Except ClockFault Unit × SharedClock :=
  let (result, time) := clock.time.hold (moving nanos)
  (result, ⟨time⟩)

end SharedClock

structure SharedSimulation where
  clock : SharedClock
  store : Store
deriving DecidableEq, Repr

namespace SharedSimulation

def start (time : Timestamp) : SharedSimulation :=
  ⟨.start time, .start⟩

def simulation (shared : SharedSimulation) : Simulation :=
  ⟨⟨shared.clock.now⟩, shared.store⟩

def transport : Transport SharedSimulation := fun request shared =>
  let (reply, after) := Simulation.transport request shared.simulation
  (reply, { shared with store := after.store })

/-- Work on the service, one after the other, until some of it breaks. Then nothing is told but why. -/
def perform {α : Type} (works : List (SharedSimulation → Ended α × SharedSimulation)) :
    EStateM String SharedSimulation (List (Option α)) :=
  works.mapM Ended.attempt

end SharedSimulation

end ObjectStore
