/-!
Named tests in suites, and the report of a run. A test is called with a world of its own, which gives a task; the task
either passes or breaks off. What one test does to its world is of no consequence for the next unless they are made to
share it.
-/

namespace ObjectStore.Conformance

/-- What is left of something that broke off. Only a text tells why, and what is no text may break off once more when it
is thrown away. -/
inductive Payload where
  | text (message : String)
  | unreadable
  | bursting (left : Payload)
deriving DecidableEq, Repr

abbrev Work (ω : Type) := EStateM Payload ω

variable {ω : Type}

def Payload.read : Payload → Work ω String
  | .text message => pure message
  | .unreadable => pure "panic"
  | .bursting left => throw left

abbrev Verdict := Except Payload Unit

structure Test (ω : Type) where
  name : String
  call : Work ω (Work ω Unit)

structure Suite (ω : Type) where
  name : String
  tests : List (Test ω)

structure Registry (ω : Type) where
  suites : List (Suite ω)

structure Report where
  passed : List String
  failed : List (String × String)
deriving DecidableEq, Repr

namespace Report

def empty : Report :=
  ⟨[], []⟩

def isSuccess (report : Report) : Bool :=
  report.failed.isEmpty

def record (report : Report) (name : String) : Verdict → Work ω Report
  | .ok _ => pure { report with passed := report.passed ++ [name] }
  | .error payload => do
      let message ← payload.read
      pure { report with failed := report.failed ++ [(name, message)] }

end Report

namespace Registry

def layout (registry : Registry ω) : List (String × List String) :=
  registry.suites.map fun suite => (suite.name, suite.tests.map Test.name)

def restrict (registry : Registry ω) (names : List String) : Registry ω :=
  if names.isEmpty then registry
  else ⟨registry.suites.filter fun suite => names.contains suite.name⟩

/-- The world of a test is made by `provide` of the one that the last test left. Nothing but the task is watched: what
breaks off in the call breaks off the run. -/
def runTest (provide : ω → ω) (suite : String) (report : Report) (test : Test ω) : Work ω Report := do
  modify provide
  let task ← test.call
  report.record (suite ++ "." ++ test.name) (← observing task)

def runSuite (provide : ω → ω) (report : Report) (suite : Suite ω) : Work ω Report :=
  suite.tests.foldlM (runTest provide suite.name) report

def run (provide : ω → ω) (registry : Registry ω) : Work ω Report :=
  registry.suites.foldlM (runSuite provide) .empty

end Registry

end ObjectStore.Conformance
