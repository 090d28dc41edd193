import ObjectStore.Checksum.Md5
import ObjectStore.Conformance.Trial

/-!
What must hold of creation: attributes, names, preconditions, and contents that cannot be read.
-/

namespace ObjectStore.Conformance.Creating

open Trial

def following (generation : Int64) : Trial Int64 :=
  if generation = Int64.maxValue then throw "attempt to add with overflow" else pure (generation + 1)

def isWithin (earliest latest time : Timestamp) : Bool :=
  earliest.instant ≤ time.instant && time.instant ≤ latest.instant

def newObject (subject : Subject) : Trial Unit := do
  let asked := request "foo/bar" "taco"
  let attributes := { asked.attributes with
    contentType := "text/plain"
    contentLanguage := "fr"
    cacheControl := "public"
    metadata := Dictionary.ofList [("a", "1")] }
  let object ← succeed (subject.bucket.create { asked with attributes })
  expect (object.bucket == subject.bucket.name) "the bucket"
  expect (object.name == "foo/bar") "the name"
  expect (object.contentType == "text/plain") "the content type"
  expect (object.contentLanguage == "fr") "the language"
  expect (object.cacheControl == "public") "the cache control"
  expect (object.metadata.get? "a" == some "1") "the metadata"
  expect (object.size == 4) "the size"
  expect (object.md5 == Md5.digest (Bytes.ofText "taco")) "the digest"
  expect (0 < object.generation) "a generation"
  expect (object.metageneration == 1) "the first metageneration"
  expect object.deleted.isNone "no time of deletion"
  expect (object.updated.any (isWithin subject.now subject.now)) "the time of creation"

def defaultContentType (subject : Subject) : Trial Unit := do
  let object ← create subject "foo" ""
  expect (object.contentType == "application/octet-stream") "the default content type"
  expect (object.size == 0) "no contents"

def reader : AclRule := ⟨"allUsers", "READER"⟩

def aclIsKept (subject : Subject) : Trial Unit := do
  let asked := request "foo" "taco"
  let object ← succeed (subject.bucket.create
    { asked with attributes := { asked.attributes with acl := [reader] } })
  expect (object.acl.contains reader) "the access rule"

def overwrite (subject : Subject) : Trial Unit := do
  let first ← create subject "foo" "taco"
  let second ← create subject "foo" "burrito"
  expect (first.generation != second.generation) "another generation"
  expectContents subject "foo" 0 "burrito"

def invalidNames (subject : Subject) : Trial Unit := do
  for name in ["", ".", "..", "foo\nbar", "foo\rbar"] do
    expectInvalid (subject.bucket.create (request name "taco"))
  for name in [".", ".."] do
    expectInvalid (subject.bucket.delete name)
    expectInvalid (subject.bucket.stat name)
  let page ← succeed (subject.bucket.list {})
  expect page.results.isEmpty "no objects"

def interestingNameList : List String :=
  ["foo bar", "foo/bar", "foo//bar", "!$&'()*+,;=:@", "100% ~ #?[]", "타코"]

def interestingNames (subject : Subject) : Trial Unit := do
  for name in interestingNameList do
    let object ← create subject name name
    expect (object.name == name) "the name"
    expectContents subject name 0 name
    let found ← succeed (subject.bucket.stat name)
    expect (found.name == name) "the name"

def conditional (name contents : String) (generation : Int64) : CreateRequest :=
  { request name contents with precondition := some generation }

def zeroMissing (subject : Subject) : Trial Unit := do
  let object ← succeed (subject.bucket.create (conditional "foo" "taco" 0))
  expect (object.size == 4) "the size"

def zeroExists (subject : Subject) : Trial Unit := do
  let existing ← create subject "foo" "taco"
  expectPrecondition (subject.bucket.create (conditional "foo" "burrito" 0))
  let current ← succeed (subject.bucket.stat "foo")
  expect (current.generation == existing.generation) "the old generation"

def generationMatches (subject : Subject) : Trial Unit := do
  let existing ← create subject "foo" "taco"
  let object ← succeed (subject.bucket.create (conditional "foo" "burrito" existing.generation))
  expect (existing.generation < object.generation) "a later generation"

def generationMismatch (subject : Subject) : Trial Unit := do
  let existing ← create subject "foo" "taco"
  let wrong ← following existing.generation
  expectPrecondition (subject.bucket.create (conditional "foo" "burrito" wrong))

def nonZeroMissing (subject : Subject) : Trial Unit := do
  expectPrecondition (subject.bucket.create (conditional "foo" "taco" 17))
  expectNotFound (subject.bucket.stat "foo")

def brokenContents (subject : Subject) : Trial Unit := do
  let contents : Content := [.bytes (Bytes.ofText "tac"), .failure ⟨"reader failed", []⟩]
  let _ ← fail (subject.bucket.create { request "foo" "" with contents })
  expectNotFound (subject.bucket.stat "foo")

/-- Two creations begun at the same time. A service that never waits has finished the first before the
second asks. -/
def together (subject : Subject) (first second : CreateRequest) :
    Trial (Except Error Object × Except Error Object) := do
  let left ← attempt (subject.bucket.create first)
  let right ← attempt (subject.bucket.create second)
  pure (left, right)

def lostOnlyByPrecondition : Except Error Object → Bool
  | .ok _ => true
  | .error error => error.isPrecondition

def concurrentConditional (subject : Subject) : Trial Unit := do
  let (left, right) ← together subject (conditional "foo" "a" 0) (conditional "foo" "b" 0)
  expect (left.isOk != right.isOk) "one winner"
  expect (lostOnlyByPrecondition left && lostOnlyByPrecondition right) "a failed precondition"

def concurrentUnconditional (subject : Subject) : Trial Unit := do
  let (guarded, free) ← together subject (conditional "foo" "a" 0) (request "foo" "b")
  match guarded, free with
  | _, .error error => throw error.message
  | .ok first, .ok last => expect (first.generation < last.generation) "an earlier generation"
  | .error error, .ok _ => expect error.isPrecondition "a failed precondition"

def suite : CheckSuite := ⟨"CreateTest", [
  ⟨"NewObject", newObject⟩,
  ⟨"DefaultContentType", defaultContentType⟩,
  ⟨"AclIsKept", aclIsKept⟩,
  ⟨"Overwrite", overwrite⟩,
  ⟨"InvalidNames", invalidNames⟩,
  ⟨"InterestingNames", interestingNames⟩,
  ⟨"PreconditionZeroObjectMissing", zeroMissing⟩,
  ⟨"PreconditionZeroObjectExists", zeroExists⟩,
  ⟨"PreconditionGenerationMatches", generationMatches⟩,
  ⟨"PreconditionGenerationMismatch", generationMismatch⟩,
  ⟨"PreconditionNonZeroObjectMissing", nonZeroMissing⟩,
  ⟨"ContentsErrorLeavesNoObject", brokenContents⟩,
  ⟨"ConcurrentConditionalCreates", concurrentConditional⟩,
  ⟨"ConcurrentConditionalAndUnconditional", concurrentUnconditional⟩]⟩

end ObjectStore.Conformance.Creating
