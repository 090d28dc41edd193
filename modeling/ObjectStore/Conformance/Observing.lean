import ObjectStore.Conformance.Creating

/-!
What must hold of reading, of the attributes of an object, and of listings.
-/

namespace ObjectStore.Conformance

open Trial

namespace Reading

def missing (subject : Subject) : Trial Unit :=
  expectNotFound (contents subject "foo" 0)

def emptyObject (subject : Subject) : Trial Unit := do
  let _ ← create subject "foo" ""
  expectContents subject "foo" 0 ""

def latest (subject : Subject) : Trial Unit := do
  let _ ← create subject "foo" "taco"
  expectContents subject "foo" 0 "taco"

def particular (subject : Subject) : Trial Unit := do
  let object ← create subject "foo" "taco"
  expectContents subject "foo" object.generation "taco"

def missingGeneration (subject : Subject) : Trial Unit := do
  let object ← create subject "foo" "taco"
  let wrong ← Creating.following object.generation
  expectNotFound (contents subject "foo" wrong)

def partialRead (subject : Subject) : Trial Unit := do
  let _ ← create subject "foo" "taco burrito enchilada"
  let content ← succeed (subject.bucket.read ⟨"foo", 0⟩)
  expect (content.readUpTo 4 == (Bytes.ofText "taco", none)) "the first bytes"
  expectContents subject "foo" 0 "taco burrito enchilada"

def suite : CheckSuite := ⟨"ReadTest", [
  ⟨"ObjectDoesntExist", missing⟩,
  ⟨"EmptyObject", emptyObject⟩,
  ⟨"LatestGeneration", latest⟩,
  ⟨"ParticularGeneration", particular⟩,
  ⟨"GenerationDoesntExist", missingGeneration⟩,
  ⟨"PartialReadThenDrop", partialRead⟩]⟩

end Reading

namespace Stating

def missing (subject : Subject) : Trial Unit :=
  expectNotFound (subject.bucket.stat "foo")

def matchesCreate (subject : Subject) : Trial Unit := do
  let asked := request "foo" "taco"
  let attributes := { asked.attributes with
    contentType := "image/png"
    metadata := Dictionary.ofList [("k", "v")]
    acl := [Creating.reader] }
  let created ← succeed (subject.bucket.create { asked with attributes })
  let found ← succeed (subject.bucket.stat "foo")
  expect (found.name == created.name) "the name"
  expect (found.contentType == created.contentType) "the content type"
  expect (found.metadata == created.metadata) "the metadata"
  expect (found.acl == created.acl) "the access rules"
  expect (found.generation == created.generation) "the generation"
  expect (found.md5 == created.md5) "the digest"
  expect (found.crc32c == created.crc32c) "the checksum"

def suite : CheckSuite := ⟨"StatTest", [
  ⟨"ObjectDoesntExist", missing⟩,
  ⟨"MatchesCreate", matchesCreate⟩]⟩

end Stating

namespace Listing

def names (page : Page) : List String :=
  page.results.map Object.name

def emptyBucket (subject : Subject) : Trial Unit := do
  let page ← succeed (subject.bucket.list {})
  expect page.results.isEmpty "no objects"
  expect page.prefixes.isEmpty "no groups"
  expect page.next.isNone "no further page"

def stemAndDelimiter (subject : Subject) : Trial Unit := do
  for name in ["a", "b/1", "b/2", "b/c/3", "d"] do
    let _ ← create subject name ""
  let top ← succeed (subject.bucket.list { delimiter := "/" })
  expect (names top == ["a", "d"]) "the objects at the top"
  expect (top.prefixes == ["b/"]) "the groups at the top"
  let below ← succeed (subject.bucket.list { stem := "b/", delimiter := "/" })
  expect (names below == ["b/1", "b/2"]) "the objects below"
  expect (below.prefixes == ["b/c/"]) "the groups below"

def paging (subject : Subject) : Trial Unit := do
  for name in ["a", "b", "c"] do
    let _ ← create subject name ""
  let pages ← allPages subject maxPages { maxResults := 2 }
  expect (pages.flatMap names == ["a", "b", "c"]) "all objects"
  expect (pages.length == 2) "two pages"

def suite : CheckSuite := ⟨"ListTest", [
  ⟨"EmptyBucket", emptyBucket⟩,
  ⟨"PrefixAndDelimiter", stemAndDelimiter⟩,
  ⟨"Paging", paging⟩]⟩

end Listing

end ObjectStore.Conformance
