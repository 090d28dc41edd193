import ObjectStore.Proofs.Atomic.Bucket
import ObjectStore.Proofs.Bytes
import ObjectStore.Proofs.Resource

/-!
What a client makes of the answers of the simulated service: the resource or the listing that was
written, or the refusal with its message.
-/

namespace ObjectStore

theorem Body.collect_full (bytes : Bytes) : (Body.full bytes).collect = .ok bytes := by
  simp [collect, content, Content.ofBytes, Content.collect, Except.map, Except.mapError]

namespace HttpResponse

@[simp] theorem collect_ofBytes (status : Nat) (headers : Headers) (bytes : Bytes) :
    (ofBytes status headers bytes).collect = .ok bytes := by
  simp [collect, ofBytes, Content.ofBytes, Content.collect, Except.map, Except.mapError]

theorem check_of_success {response : HttpResponse} (succeeded : Status.isSuccess response.status = true) :
    response.check = .ok response := by
  rw [check, if_pos succeeded]

theorem check_refusal {status : Nat} {message : String} (failed : Status.isSuccess status = false)
    (notEmpty : message ≠ "") : (refusal status message).check = .error (Atomic.refusal status message) := by
  have body : (refusal status message).refusalText =
      (ErrorEnvelope.toJson ⟨UInt16.ofNat status, message⟩).compact := by
    simp [refusalText, refusal, ofJson, Bytes.toTextLossy_ofText]
  have error : ServiceError.ofResponse (refusal status message) =
      ⟨status, message, (ErrorEnvelope.toJson ⟨UInt16.ofNat status, message⟩).compact⟩ := by
    simp only [ServiceError.ofResponse, body, ErrorEnvelope.parse_toJson, if_neg notEmpty]
    rfl
  have notSuccess : ¬Status.isSuccess (refusal status message).status = true := by
    simpa [refusal, ofJson, ofBytes] using failed
  rw [check, if_neg notSuccess, error]
  rfl

theorem check_noSuchObject (bucket name : String) :
    (noSuchObject bucket name).check = .error (Atomic.missing bucket name) := by
  apply check_refusal (by decide)
  intro same
  have characters := congrArg String.toList same
  simp at characters

theorem object_ofJson (status : Nat) (bucket : String) (resource : Resource) :
    (ofJson status resource.toJson).object bucket = (Object.ofResource bucket resource).mapError .decode := by
  simp only [object, bytes, ofJson, collect_ofBytes, Except.mapError, bind, Except.bind, Resource.parse_toJson]

theorem page_ofJson (status : Nat) (bucket : String) (query : Query) (listing : ResourceList) :
    (ofJson status listing.toJson).page bucket query =
      (((listing.items.getD []).mapM (Object.ofResource bucket)).mapError Error.decode).map fun results =>
        ⟨results, listing.prefixes.getD [],
          (listing.nextPageToken.filter (· ≠ "")).map fun cursor => { query with cursor }⟩ := by
  simp only [page, bytes, ofJson, collect_ofBytes, Except.mapError, bind, Except.bind, ResourceList.parse_toJson]
  cases (listing.items.getD []).mapM (Object.ofResource bucket) <;> rfl

end HttpResponse

end ObjectStore
