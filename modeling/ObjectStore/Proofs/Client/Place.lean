import ObjectStore.Proofs.Client.Segment
import ObjectStore.Proofs.Decimal
import ObjectStore.Proofs.Form
import ObjectStore.Proofs.Simulation.Change

/-!
Where the requests of a bucket go: to a place on one of the three hosts of the simulated service, which
reads the names of the bucket and of the object back from it.
-/

namespace ObjectStore

open Url (IsHost IsPlaceName IsSegment IsQuery ofPlace)

theorem Route.isHost_storage : IsHost Route.storageHost :=
  ⟨List.all_eq_true.1 (by decide), by decide, rfl⟩

theorem Route.isHost_upload : IsHost Route.uploadHost :=
  ⟨List.all_eq_true.1 (by decide), by decide, rfl⟩

theorem Route.isHost_api : IsHost Route.apiHost :=
  ⟨List.all_eq_true.1 (by decide), by decide, rfl⟩

theorem Url.isSegment_fixed :
    ∀ segment ∈ ["storage", "v1", "b", "o", "upload"], IsSegment segment := by
  have kept {segment : String} (isName : IsPlaceName segment) (same : Percent.encodeSegment segment = segment) :
      IsSegment segment :=
    same ▸ Url.keepsSegments_segment.isSegment isName
  intro segment member
  simp only [List.mem_cons, List.not_mem_nil, or_false] at member
  rcases member with rfl | rfl | rfl | rfl | rfl <;> exact kept ⟨by decide, by decide⟩ rfl

namespace Place

/-! ### Segments beside the name of a bucket -/

theorem areSegments_bucket : ∀ segment ∈ ["storage", "v1", "b"] ++ ["o"], IsSegment segment := by
  simp only [List.cons_append, List.nil_append, List.mem_cons, List.not_mem_nil, or_false]
  rintro segment (rfl | rfl | rfl | rfl)
  all_goals exact Url.isSegment_fixed _ (by simp)

theorem areSegments_object {name : String} (isName : IsPlaceName name) :
    ∀ segment ∈ ["storage", "v1", "b"] ++ ["o", Percent.expandVariable name], IsSegment segment := by
  simp only [List.cons_append, List.nil_append, List.mem_cons, List.not_mem_nil, or_false]
  rintro segment (rfl | rfl | rfl | rfl | rfl)
  case inr.inr.inr.inr => exact Url.keepsSegments_unreserved.isSegment isName
  all_goals exact Url.isSegment_fixed _ (by simp)

theorem areSegments_upload : ∀ segment ∈ ["upload", "storage", "v1", "b"] ++ ["o"], IsSegment segment := by
  simp only [List.cons_append, List.nil_append, List.mem_cons, List.not_mem_nil, or_false]
  rintro segment (rfl | rfl | rfl | rfl | rfl)
  all_goals exact Url.isSegment_fixed _ (by simp)

theorem areSegments_direct {name : String} (isName : IsPlaceName name) :
    ∀ segment ∈ [] ++ [Percent.encodeSegment name], IsSegment segment := by
  simp only [List.nil_append, List.mem_singleton]
  rintro segment rfl
  exact Url.keepsSegments_segment.isSegment isName

/-! ### Places -/

def bucket (name : String) (query : Option String) : Url :=
  ofPlace Route.apiHost ["storage", "v1", "b", Percent.expandVariable name, "o"] query

def object (bucket name : String) (query : Option String) : Url :=
  ofPlace Route.apiHost ["storage", "v1", "b", Percent.expandVariable bucket, "o", Percent.expandVariable name] query

def upload (bucket : String) (query : Option String) : Url :=
  ofPlace Route.uploadHost ["upload", "storage", "v1", "b", Percent.encodeSegment bucket, "o"] query

def direct (bucket name : String) (query : Option String) : Url :=
  ofPlace Route.storageHost [Percent.encodeSegment bucket, Percent.encodeSegment name] query

section Parse

variable {bucketName name : String} {query : Option String}

theorem parse_bucket (bucketIsName : IsPlaceName bucketName) (isQuery : IsQuery query) :
    Url.parse (bucket bucketName query).text = .ok (bucket bucketName query) := by
  have parsed := Url.keepsSegments_unreserved.parse_address_eq areSegments_bucket Route.isHost_api isQuery
    bucketIsName
  exact parsed

theorem parse_object (bucketIsName : IsPlaceName bucketName) (isName : IsPlaceName name) (isQuery : IsQuery query) :
    Url.parse (object bucketName name query).text = .ok (object bucketName name query) := by
  have parsed := Url.keepsSegments_unreserved.parse_address_eq (areSegments_object isName) Route.isHost_api isQuery
    bucketIsName
  exact parsed

theorem parse_upload (bucketIsName : IsPlaceName bucketName) (isQuery : IsQuery query) :
    Url.parse (upload bucketName query).text = .ok (upload bucketName query) := by
  have parsed := Url.keepsSegments_segment.parse_address_eq areSegments_upload Route.isHost_upload isQuery
    bucketIsName
  exact parsed

theorem parse_direct (bucketIsName : IsPlaceName bucketName) (isName : IsPlaceName name) (isQuery : IsQuery query) :
    Url.parse (direct bucketName name query).text = .ok (direct bucketName name query) := by
  have parsed := Url.keepsSegments_segment.parse_address_eq (areSegments_direct isName) Route.isHost_storage isQuery
    bucketIsName
  exact parsed

end Parse

/-! ### Routes -/

theorem segmentsBehind_append (fixed : List String) {pieces names : List String} (notEmpty : pieces ≠ [])
    (reads : pieces.mapM (fun piece => (Percent.decodeText? piece).bind Bytes.toText?) = some names) :
    Route.segmentsBehind fixed (.segments (fixed ++ pieces)) = some names := by
  simp [Route.segmentsBehind, notEmpty, reads]

theorem reads_o : (Percent.decodeText? "o").bind Bytes.toText? = some "o" :=
  rfl

section Route

variable (bucketName name : String) (query : Option String)

theorem segments_bucket : Route.segmentsBehind ["storage", "v1", "b"] (bucket bucketName query).path =
    some [bucketName, "o"] := by
  have reads := Url.keepsSegments_unreserved.reads_encode bucketName
  apply segmentsBehind_append ["storage", "v1", "b"] (by simp)
  simp [Percent.expandVariable, reads, reads_o]

theorem segments_object : Route.segmentsBehind ["storage", "v1", "b"] (object bucketName name query).path =
    some [bucketName, "o", name] := by
  have readsBucket := Url.keepsSegments_unreserved.reads_encode bucketName
  have reads := Url.keepsSegments_unreserved.reads_encode name
  apply segmentsBehind_append ["storage", "v1", "b"] (by simp)
  simp [Percent.expandVariable, readsBucket, reads, reads_o]

theorem segments_upload : Route.segmentsBehind ["upload", "storage", "v1", "b"] (upload bucketName query).path =
    some [bucketName, "o"] := by
  have reads := Url.keepsSegments_segment.reads_encode bucketName
  apply segmentsBehind_append ["upload", "storage", "v1", "b"] (by simp)
  simp [Percent.encodeSegment, reads, reads_o]

theorem segments_direct : Route.segmentsBehind [] (direct bucketName name query).path =
    some [bucketName, name] := by
  have readsBucket := Url.keepsSegments_segment.reads_encode bucketName
  have reads := Url.keepsSegments_segment.reads_encode name
  apply segmentsBehind_append [] (by simp)
  simp [Percent.encodeSegment, readsBucket, reads]

theorem route_list : Route.ofRequest .get (bucket bucketName query) = .list bucketName := by
  have host : (bucket bucketName query).hostText = Route.apiHost := rfl
  simp only [Route.ofRequest, host, segments_bucket]
  rfl

theorem route_object : Route.ofRequest .get (object bucketName name query) = .stat bucketName name ∧
    Route.ofRequest .patch (object bucketName name query) = .patch bucketName name ∧
    Route.ofRequest .delete (object bucketName name query) = .delete bucketName name := by
  have host : (object bucketName name query).hostText = Route.apiHost := rfl
  simp only [Route.ofRequest, host, segments_object]
  exact ⟨rfl, rfl, rfl⟩

theorem route_upload : Route.ofRequest .post (upload bucketName query) = .announce bucketName ∧
    Route.ofRequest .put (upload bucketName query) = .upload := by
  have host : (upload bucketName query).hostText = Route.uploadHost := rfl
  simp only [Route.ofRequest, host, segments_upload]
  exact ⟨rfl, rfl⟩

theorem route_direct : Route.ofRequest .get (direct bucketName name query) = .read bucketName name := by
  have host : (direct bucketName name query).hostText = Route.storageHost := rfl
  simp only [Route.ofRequest, host, segments_direct]
  rfl

end Route

end Place

end ObjectStore
