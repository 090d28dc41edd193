import ObjectStore.Conformance.Changing
import ObjectStore.Conformance.Creating
import ObjectStore.Conformance.Observing
import ObjectStore.Simulation.Server
import ObjectStore.Transport.Faulty

/-!
All suites of conformance tests, and their run against the simulated service with or without faults.
-/

namespace ObjectStore.Conformance

def suites : List CheckSuite :=
  [Creating.suite, Reading.suite, Stating.suite, Updating.suite, Deleting.suite, Listing.suite]

def registry {ω : Type} (transport : Transport ω) (subject : ω → Subject) : Registry ω :=
  ⟨suites.map (CheckSuite.toSuite transport subject)⟩

def bucketName : String := "some-bucket"

def simulatedSubject (simulation : Simulation) : Subject :=
  ⟨Simulation.bucketConfig bucketName, simulation.clock.now⟩

def faultyRegistry : Registry (Faulty Simulation) :=
  registry (Faulty.transport Simulation.transport) fun faulty => simulatedSubject faulty.inner

/-- Each test of the chosen suites runs on a service of its own. -/
def runSimulated (start : Timestamp) (suiteNames : List String) (rules : List FaultRule) :
    EStateM.Result Payload (Faulty Simulation) Report :=
  let world := Faulty.start rules (Simulation.start start)
  (faultyRegistry.restrict suiteNames).run (fun _ => world) world

end ObjectStore.Conformance
