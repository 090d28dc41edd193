import ObjectStore.Conformance.Trial

/-!
What must hold of updates and deletions.
-/

namespace ObjectStore.Conformance

open Trial

namespace Updating

def missing (subject : Subject) : Trial Unit :=
  expectNotFound (subject.bucket.update { name := "foo", contentType := .ofText "text/plain" })

def fieldPresence (subject : Subject) : Trial Unit := do
  let asked := request "foo" "taco"
  let attributes := { asked.attributes with
    contentType := "image/png"
    contentEncoding := "gzip"
    contentLanguage := "fr"
    cacheControl := "public" }
  let created ← succeed (subject.bucket.create { asked with attributes })
  let object ← succeed (subject.bucket.update {
    name := "foo"
    contentType := .ofOption (some "text/plain")
    contentEncoding := .ofOption (some "")
    contentLanguage := .ofOption none })
  expect (object.contentType == "text/plain") "the new content type"
  expect (object.contentEncoding == "") "no encoding"
  expect (object.contentLanguage == "fr") "the old language"
  expect (object.cacheControl == "public") "the old cache control"
  expect (object.generation == created.generation) "the old generation"
  expect (created.metageneration < object.metageneration) "a later metageneration"
  let found ← succeed (subject.bucket.stat "foo")
  expect (found.agrees object) "the updated object"

def clearContentType (subject : Subject) : Trial Unit := do
  let asked := request "foo" "taco"
  let created ← succeed (subject.bucket.create
    { asked with attributes := { asked.attributes with contentType := "image/png" } })
  let error ← fail (subject.bucket.update { name := "foo", contentType := .ofOption (some "") })
  expect (match error with
    | .service refusal => refusal.code == Status.badRequest
    | _ => false) "a refusal"
  let found ← succeed (subject.bucket.stat "foo")
  expect (found.contentType == "image/png") "the old content type"
  expect (found.metageneration == created.metageneration) "the old metageneration"

def userMetadata (subject : Subject) : Trial Unit := do
  let asked := request "foo" "taco"
  let metadata := Dictionary.ofList [("keep", "1"), ("change", "2"), ("remove", "3")]
  let _ ← succeed (subject.bucket.create
    { asked with attributes := { asked.attributes with metadata } })
  let object ← succeed (subject.bucket.update {
    name := "foo"
    metadata := some (Dictionary.ofList [("change", some "20"), ("remove", none), ("add", some "4")]) })
  expect (object.metadata == Dictionary.ofList [("keep", "1"), ("change", "20"), ("add", "4")])
    "the changed metadata"

def clockPrecision : Int := nanosPerSecond

def timeAdvances (subject : Subject) : Trial Unit := do
  let created ← create subject "foo" "taco"
  let object ← succeed (subject.bucket.update { name := "foo", cacheControl := .ofText "no-cache" })
  match object.updated, created.updated, subject.now.add? clockPrecision with
  | some updated, some first, some latest =>
      expect (subject.now.instant ≤ updated.instant) "a time that is not before the update"
      expect (first.instant ≤ updated.instant) "a time that is not before the creation"
      expect (updated.instant ≤ latest.instant) "a time that is not after the update"
  | _, _, _ => throw "expected times"

def suite : CheckSuite := ⟨"UpdateTest", [
  ⟨"ObjectDoesntExist", missing⟩,
  ⟨"FieldPresence", fieldPresence⟩,
  ⟨"ClearContentType", clearContentType⟩,
  ⟨"UserMetadata", userMetadata⟩,
  ⟨"UpdatedTimeAdvances", timeAdvances⟩]⟩

end Updating

namespace Deleting

def missing (subject : Subject) : Trial Unit :=
  expectNotFound (subject.bucket.delete "foo")

def successful (subject : Subject) : Trial Unit := do
  let _ ← create subject "foo" "taco"
  let _ ← succeed (subject.bucket.delete "foo")
  expectNotFound (subject.bucket.stat "foo")
  expectNotFound (contents subject "foo" 0)
  expectNotFound (subject.bucket.delete "foo")

def leavesOthersAlone (subject : Subject) : Trial Unit := do
  let _ ← create subject "a" "taco"
  let _ ← create subject "b" "burrito"
  let _ ← succeed (subject.bucket.delete "a")
  expectContents subject "b" 0 "burrito"

def suite : CheckSuite := ⟨"DeleteTest", [
  ⟨"ObjectDoesntExist", missing⟩,
  ⟨"Successful", successful⟩,
  ⟨"LeavesOthersAlone", leavesOthersAlone⟩]⟩

end Deleting

end ObjectStore.Conformance
