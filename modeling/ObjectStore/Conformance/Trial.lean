import ObjectStore.Client.Operation
import ObjectStore.Conformance.Registry

/-!
Trials of a bucket: exchanges that break off when the bucket does not do as it should.
-/

namespace ObjectStore.Conformance

abbrev Trial (α : Type) := ExceptT String Exchange α

structure Subject where
  bucket : BucketConfig
  now : Timestamp
deriving DecidableEq, Repr

namespace Trial

variable {α : Type}

def expect (holds : Bool) (what : String) : Trial Unit :=
  if holds then pure () else throw ("expected " ++ what)

def attempt (operation : Operation α) : Trial (Except Error α) :=
  ExceptT.lift operation

def succeed (operation : Operation α) : Trial α := do
  match ← attempt operation with
  | .ok result => pure result
  | .error error => throw error.message

def fail (operation : Operation α) : Trial Error := do
  match ← attempt operation with
  | .ok _ => throw "expected a failure"
  | .error error => pure error

def expectNotFound (operation : Operation α) : Trial Unit := do
  let error ← fail operation
  expect error.isNotFound "no object"

def expectPrecondition (operation : Operation α) : Trial Unit := do
  let error ← fail operation
  expect error.isPrecondition "a failed precondition"

def expectInvalid (operation : Operation α) : Trial Unit := do
  let error ← fail operation
  expect (match error with
    | .invalidRequest _ => true
    | _ => false) "an invalid request"

/-! ### Requests that trials make -/

def request (name contents : String) : CreateRequest :=
  ⟨{ name }, .ofBytes (Bytes.ofText contents), none⟩

def create (subject : Subject) (name contents : String) : Trial Object :=
  succeed (subject.bucket.create (request name contents))

def contents (subject : Subject) (name : String) (generation : Int64) : Operation Bytes :=
  (subject.bucket.read ⟨name, generation⟩).map fun result => do
    let content ← result
    match content.collect with
    | .ok bytes => pure bytes
    | .error failure => throw (.protocol (.unreadableContents failure.message))

def expectContents (subject : Subject) (name : String) (generation : Int64) (expected : String) :
    Trial Unit := do
  let bytes ← succeed (contents subject name generation)
  expect (bytes == Bytes.ofText expected) ("the contents of " ++ name)

def allPages (subject : Subject) : Nat → Query → Trial (List Page)
  | 0, _ => throw "expected a last page"
  | rounds + 1, query => do
      let page ← succeed (subject.bucket.list query)
      match page.next with
      | none => pure [page]
      | some next => do
          let rest ← allPages subject rounds next
          pure (page :: rest)

def maxPages : Nat := 10000

end Trial

structure Check where
  name : String
  trial : Subject → Trial Unit

structure CheckSuite where
  name : String
  checks : List Check

variable {ω : Type}

/-- A trial that hears no answer never passes. -/
def verdictOf : Ended (Except String Unit) → Verdict
  | .finished (.ok _) => .ok ()
  | .finished (.error message) => .error (.text message)
  | .pending => .error .unreadable
  | .broken message => .error (.text message)

def Check.task (transport : Transport ω) (subject : ω → Subject) (check : Check) : Work ω Unit := do
  let world ← get
  let (ended, after) := (check.trial (subject world)).run.run transport world
  set after
  MonadExcept.ofExcept (verdictOf ended)

def Check.toTest (transport : Transport ω) (subject : ω → Subject) (check : Check) : Test ω :=
  ⟨check.name, pure (check.task transport subject)⟩

def CheckSuite.toSuite (transport : Transport ω) (subject : ω → Subject) (suite : CheckSuite) : Suite ω :=
  ⟨suite.name, suite.checks.map (Check.toTest transport subject)⟩

end ObjectStore.Conformance
