import ObjectStore.Proofs.Reading
import ObjectStore.Proofs.Simulation.Run
import ObjectStore.Proofs.WallClock
import ObjectStore.Simulation.SharedClock

/-!
A shared clock moves by exactly what it is told. A move that leaves the calendar breaks off and poisons the lock, and
nobody can tell afterwards: the clock and the service that uses it go on as if there had been no such move.
-/

namespace ObjectStore

/-- Exactly so many nanoseconds lie between the two, by the time line, by the calendar and by the clock on the wall. -/
structure Timestamp.IsShift (earlier later : Timestamp) (nanos : Int) : Prop where
  instant : later.instant = earlier.instant + nanos
  offset : later.offset = earlier.offset
  forwards : 0 ≤ nanos → later.shown = WallClock.tick^[nanos.toNat] earlier.shown
  backwards : nanos ≤ 0 → earlier.shown = WallClock.tick^[nanos.natAbs] later.shown

theorem Timestamp.isShift_shift (time : Timestamp) (nanos : Int) : time.IsShift (time.shift nanos) nanos := by
  constructor
  case instant =>
    simp only [instant, shift]
    omega
  case offset => rfl
  case forwards =>
    intro isForward
    rw [← shown_shift, Int.toNat_of_nonneg isForward]
  case backwards =>
    intro isBackward
    have whole : nanos + nanos.natAbs = 0 := by omega
    have back : time.shift 0 = time := congrArg (Timestamp.mk · time.offset) (Int.add_zero _)
    rw [← shown_shift, shift_shift, whole, back]

/-! ### One move -/

theorem Clock.advance_of_inCalendar {time : Timestamp} {nanos : Int} (inCalendar : (time.shift nanos).IsInCalendar) :
    Clock.advance ⟨time⟩ nanos = .ok ⟨time.shift nanos⟩ := by
  have fits : Timestamp.isRepresentable (time.wallClock + nanos) = true :=
    (Timestamp.isRepresentable_iff (time.shift nanos)).2 inCalendar
  simp only [advance, Timestamp.add?, if_pos fits]
  rfl

theorem Clock.advance_of_outside {time : Timestamp} {nanos : Int} (outside : ¬(time.shift nanos).IsInCalendar) :
    Clock.advance ⟨time⟩ nanos = .error .timeOverflow := by
  have beyond : ¬Timestamp.isRepresentable (time.wallClock + nanos) = true :=
    fun fits => outside ((Timestamp.isRepresentable_iff (time.shift nanos)).1 fits)
  simp only [advance, Timestamp.add?, if_neg beyond]

namespace SharedClock

theorem now_eq (clock : SharedClock) : clock.now = clock.time.value := by
  unfold now Lock.recover Lock.acquire
  cases clock.time.isPoisoned <;> rfl

theorem now_setTime (clock : SharedClock) (time : Timestamp) : (clock.setTime time).now = time :=
  now_eq _

theorem advance_eq (clock : SharedClock) (nanos : Int) :
    clock.advance nanos = match Clock.advance ⟨clock.now⟩ nanos with
      | .ok moved => (.ok (), ⟨{ clock.time with value := moved.now }⟩)
      | .error fault => (.error fault, ⟨⟨clock.now, true⟩⟩) := by
  have work : (moving nanos).run clock.time.recover = match Clock.advance ⟨clock.now⟩ nanos with
      | .ok moved => .ok () moved.now
      | .error fault => .error fault clock.now := by
    change (match Clock.advance ⟨clock.now⟩ nanos with
      | .ok moved => set moved.now
      | .error fault => throw fault : EStateM ClockFault Timestamp Unit).run clock.now = _
    cases Clock.advance ⟨clock.now⟩ nanos <;> rfl
  rw [advance, Lock.hold, work]
  cases Clock.advance ⟨clock.now⟩ nanos <;> rfl

theorem advance_of_inCalendar {clock : SharedClock} {nanos : Int} (inCalendar : (clock.now.shift nanos).IsInCalendar) :
    clock.advance nanos = (.ok (), ⟨{ clock.time with value := clock.now.shift nanos }⟩) := by
  rw [advance_eq, Clock.advance_of_inCalendar inCalendar]

theorem advance_of_outside {clock : SharedClock} {nanos : Int} (outside : ¬(clock.now.shift nanos).IsInCalendar) :
    clock.advance nanos = (.error .timeOverflow, ⟨⟨clock.now, true⟩⟩) := by
  rw [advance_eq, Clock.advance_of_outside outside]

theorem advance_eq_ok_iff {clock moved : SharedClock} {nanos : Int} :
    clock.advance nanos = (.ok (), moved) ↔
      (clock.now.shift nanos).IsInCalendar ∧ moved = ⟨{ clock.time with value := clock.now.shift nanos }⟩ := by
  by_cases inCalendar : (clock.now.shift nanos).IsInCalendar
  · simp only [advance_of_inCalendar inCalendar, Prod.mk.injEq, true_and, inCalendar, eq_comm]
  · simp only [advance_of_outside inCalendar, Prod.mk.injEq, reduceCtorEq, false_and, inCalendar]

theorem advance_advance {clock middle last : SharedClock} {first second : Int}
    (moved : clock.advance first = (.ok (), middle)) (movedOn : middle.advance second = (.ok (), last)) :
    clock.advance (first + second) = (.ok (), last) := by
  obtain ⟨_, rfl⟩ := advance_eq_ok_iff.1 moved
  obtain ⟨inCalendar, rfl⟩ := advance_eq_ok_iff.1 movedOn
  rw [now_eq, Timestamp.shift_shift] at inCalendar
  rw [advance_of_inCalendar inCalendar, now_eq, now_eq, Timestamp.shift_shift]

end SharedClock

/-! ### What can be seen -/

inductive Observation where
  | replied (reply : Reply)
  | moved
  | brokenOff (fault : ClockFault)

namespace SharedSimulation

def step (shared : SharedSimulation) : Happening → Observation × SharedSimulation
  | .request request =>
      let (reply, after) := transport request shared
      (.replied reply, after)
  | .advance nanos => match shared.clock.advance nanos with
    | (.ok _, clock) => (.moved, { shared with clock })
    | (.error fault, clock) => (.brokenOff fault, { shared with clock })
  | .setTime time => (.moved, { shared with clock := shared.clock.setTime time })

def run (shared : SharedSimulation) (happenings : List Happening) : SharedSimulation :=
  happenings.foldl (fun reached happening => (reached.step happening).2) shared

def observe : SharedSimulation → List Happening → List (Observation × Timestamp)
  | _, [] => []
  | shared, happening :: rest =>
      let (seen, after) := shared.step happening
      (seen, after.clock.now) :: after.observe rest

theorem simulation_step (shared : SharedSimulation) (happening : Happening) :
    (shared.step happening).2.simulation = shared.simulation.step happening := by
  cases happening with
  | request request =>
      simp only [step, transport, Simulation.step]
      rcases Simulation.transport_cases request shared.simulation with
        ⟨_, _, unread⟩ | ⟨_, _, _, _, _, answered⟩
      · rw [unread]
        rfl
      · rw [answered]
        rfl
  | advance nanos =>
      have clock : shared.simulation.clock = ⟨shared.clock.now⟩ := rfl
      simp only [step, Simulation.step, SharedClock.advance_eq, clock]
      cases Clock.advance ⟨shared.clock.now⟩ nanos <;> simp only [simulation, SharedClock.now_eq]
  | setTime time =>
      simp only [step, simulation, SharedClock.now_setTime]
      rfl

/-- An exchange goes on behind the lock as it does with the service alone. -/
theorem run_transport {α : Type} (exchange : Exchange α) (shared : SharedSimulation) :
    exchange.run transport shared = ((exchange.run Simulation.transport shared.simulation).1,
      { shared with store := (exchange.run Simulation.transport shared.simulation).2.store }) := by
  induction exchange generalizing shared with
  | done result => rfl
  | send request next ih =>
      have stepped : (transport request shared).2.simulation = (Simulation.transport request shared.simulation).2 :=
        simulation_step shared (.request request)
      have replied : transport request shared = ((Simulation.transport request shared.simulation).1,
          { shared with store := (Simulation.transport request shared.simulation).2.store }) := rfl
      rw [Exchange.run, Exchange.run, replied]
      rw [replied] at stepped
      rcases asked : Simulation.transport request shared.simulation with ⟨_ | _ | _, after⟩
      · rw [asked] at stepped
        dsimp only at stepped ⊢
        rw [ih, stepped]
      · rfl
      · rfl

theorem simulation_run (shared : SharedSimulation) (happenings : List Happening) :
    (shared.run happenings).simulation = shared.simulation.run happenings := by
  induction happenings generalizing shared with
  | nil => rfl
  | cons happening rest ih =>
      rw [Simulation.run_cons, ← simulation_step, ← ih]
      rfl

theorem step_congr {shared other : SharedSimulation} (same : shared.simulation = other.simulation)
    (happening : Happening) : (shared.step happening).1 = (other.step happening).1 ∧
      (shared.step happening).2.simulation = (other.step happening).2.simulation := by
  refine ⟨?_, by rw [simulation_step, simulation_step, same]⟩
  have now : shared.clock.now = other.clock.now := congrArg (fun seen : Simulation => seen.clock.now) same
  cases happening with
  | request request => simp only [step, transport, same]
  | advance nanos =>
      simp only [step, SharedClock.advance_eq, now]
      cases Clock.advance ⟨other.clock.now⟩ nanos <;> rfl
  | setTime time => rfl

theorem observe_congr {shared other : SharedSimulation} (same : shared.simulation = other.simulation)
    (happenings : List Happening) : shared.observe happenings = other.observe happenings := by
  induction happenings generalizing shared other with
  | nil => rfl
  | cons happening rest ih =>
      obtain ⟨seen, after⟩ := step_congr same happening
      have now : (shared.step happening).2.clock.now = (other.step happening).2.clock.now :=
        congrArg (fun reached : Simulation => reached.clock.now) after
      simp only [observe, seen, now, ih after]

/-- Whatever has happened, a move within the calendar is exact, and two in a row are one. A move out of the calendar
breaks off with the lock held. The clock then shows what it showed before, and from there on everything is seen as it
would have been without that move. -/
theorem shared_clock_is_exact_and_goes_on (time : Timestamp) (history : List Happening) :
    let shared := (start time).run history
    let clock := shared.clock
    shared.simulation = Simulation.after time history ∧
    (∀ nanos, (clock.now.shift nanos).IsInCalendar →
      ∃ moved, clock.advance nanos = (.ok (), moved) ∧ clock.now.IsShift moved.now nanos) ∧
    (∀ first second middle last, clock.advance first = (.ok (), middle) → middle.advance second = (.ok (), last) →
      clock.advance (first + second) = (.ok (), last)) ∧
    (∀ other, (clock.setTime other).now = other) ∧
    (∀ nanos, ¬(clock.now.shift nanos).IsInCalendar →
      ∃ poisoned, clock.advance nanos = (.error .timeOverflow, poisoned) ∧ poisoned.time.isPoisoned = true ∧
        poisoned.now = clock.now ∧
        ∀ later, { shared with clock := poisoned }.observe later = shared.observe later) := by
  intro shared clock
  refine ⟨simulation_run (start time) history, ?_, fun _ _ _ _ => SharedClock.advance_advance, clock.now_setTime, ?_⟩
  · intro nanos inCalendar
    have shows : SharedClock.now ⟨{ clock.time with value := clock.now.shift nanos }⟩ = clock.now.shift nanos :=
      SharedClock.now_eq _
    refine ⟨_, SharedClock.advance_of_inCalendar inCalendar, ?_⟩
    rw [shows]
    exact Timestamp.isShift_shift clock.now nanos
  · intro nanos outside
    have shows : SharedClock.now ⟨⟨clock.now, true⟩⟩ = clock.now := SharedClock.now_eq _
    refine ⟨_, SharedClock.advance_of_outside outside, rfl, shows, fun later => observe_congr ?_ later⟩
    rw [simulation, shows]
    rfl

/-! ### Work in a row -/

section Perform

variable {α : Type} {work : SharedSimulation → Ended α × SharedSimulation}
  (works : List (SharedSimulation → Ended α × SharedSimulation)) {shared reached : SharedSimulation}

theorem perform_cons_of_broken {message : String} (breaks : work shared = (.broken message, reached)) :
    perform (work :: works) shared = .error message reached := by
  have attempted : Ended.attempt work shared = .error message reached := by
    rw [Ended.attempt, breaks]
  rw [perform, List.mapM_cons, bind_of_error attempted]

/-- A later break leaves nothing of what was told before. -/
theorem perform_cons_of_finished {result : α} (finishes : work shared = (.finished result, reached)) :
    perform (work :: works) shared = match perform works reached with
      | .ok results last => .ok (some result :: results) last
      | .error message last => .error message last := by
  have attempted : Ended.attempt work shared = .ok (some result) reached := by
    rw [Ended.attempt, finishes]
  rw [perform, List.mapM_cons, bind_of_ok attempted]
  cases ran : perform works reached with
  | ok results last =>
      rw [perform] at ran
      rw [bind_of_ok ran]
      rfl
  | error message last =>
      rw [perform] at ran
      rw [bind_of_error ran]

end Perform

end SharedSimulation

end ObjectStore
