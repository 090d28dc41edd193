import ObjectStore.Proofs.Simulation.Change

/-!
Runs of the simulated service: any requests and any moves of its clock, in any order. What a step keeps
holds after every run, and a step is at most one change of the store.
-/

namespace ObjectStore

inductive Happening where
  | request (request : HttpRequest)
  | advance (nanos : Int)
  | setTime (time : Timestamp)

namespace Simulation

def step (simulation : Simulation) : Happening → Simulation
  | .request request => (transport request simulation).2
  | .advance nanos => match simulation.clock.advance nanos with
    | .ok clock => { simulation with clock }
    | .error _ => simulation
  | .setTime time => { simulation with clock := simulation.clock.setTime time }

def run (simulation : Simulation) (happenings : List Happening) : Simulation :=
  happenings.foldl step simulation

/-- The service after what happened to it since it was empty. -/
def after (time : Timestamp) (happenings : List Happening) : Simulation :=
  (start time).run happenings

@[simp] theorem run_nil (simulation : Simulation) : simulation.run [] = simulation :=
  rfl

@[simp] theorem run_cons (simulation : Simulation) (happening : Happening) (rest : List Happening) :
    simulation.run (happening :: rest) = (simulation.step happening).run rest :=
  rfl

@[simp] theorem run_append (simulation : Simulation) (earlier later : List Happening) :
    simulation.run (earlier ++ later) = (simulation.run earlier).run later :=
  List.foldl_append

theorem after_append (time : Timestamp) (earlier later : List Happening) :
    after time (earlier ++ later) = (after time earlier).run later :=
  run_append ..

theorem run_induction (holds : Simulation → Prop)
    (kept : ∀ simulation happening, holds simulation → holds (simulation.step happening))
    (simulation : Simulation) (happenings : List Happening) (initially : holds simulation) :
    holds (simulation.run happenings) := by
  induction happenings generalizing simulation with
  | nil => exact initially
  | cons happening rest ih => exact ih _ (kept simulation happening initially)

theorem step_cases (simulation : Simulation) (happening : Happening) :
    (simulation.step happening).store = simulation.store ∨
    ∃ request body answer, happening = .request request ∧ request.body.collect = .ok body ∧
      Store.Change simulation.store simulation.clock.now request body answer
        (simulation.step happening).store ∧
      (transport request simulation).1 = reply answer := by
  cases happening with
  | request request =>
      rcases transport_cases request simulation with
        ⟨error, _, answered⟩ | ⟨body, answer, store, read, change, answered⟩
      · exact Or.inl (by simp [step, answered])
      · exact Or.inr ⟨request, body, answer, rfl, read, by simpa [step, answered] using change,
          by simp [answered]⟩
  | advance nanos =>
      left
      simp only [step]
      split <;> rfl
  | setTime time => exact Or.inl rfl

theorem change_of_answered {simulation : Simulation} {request : HttpRequest} {response : HttpResponse}
    (answered : (transport request simulation).1 = .answer (.ok response)) :
    ∃ body, request.body.collect = .ok body ∧
      Store.Change simulation.store simulation.clock.now request body (some response)
        (simulation.step (.request request)).store := by
  rcases transport_cases request simulation with
    ⟨error, _, failed⟩ | ⟨body, answer, store, read, change, transported⟩
  · rw [failed] at answered
    cases answered
  · rw [transported] at answered
    rw [step, transported]
    cases answer with
    | none => cases answered
    | some given =>
        cases answered
        exact ⟨body, read, change⟩

end Simulation

end ObjectStore
