import ObjectStore.Object.Decode
import ObjectStore.Proofs.Dictionary
import ObjectStore.Proofs.Resource

/-!
What the wire carries. A value that is written is read as it was, and the announcement of an object tells all
that was chosen for it and nothing that the service decides.
-/

namespace ObjectStore

namespace Resource

def attributes (resource : Resource) : Attributes :=
  { name := resource.name
    contentType := resource.contentType
    contentLanguage := resource.contentLanguage
    contentEncoding := resource.contentEncoding
    cacheControl := resource.cacheControl
    metadata := resource.metadata.getD ∅
    acl := resource.acl.getD [] }

structure IsUnassigned (resource : Resource) : Prop where
  owner : resource.owner = none
  size : resource.size = none
  mediaLink : resource.mediaLink = ""
  generation : resource.generation = none
  metageneration : resource.metageneration = none
  storageClass : resource.storageClass = ""
  md5Hash : resource.md5Hash = ""
  crc32c : resource.crc32c = ""
  timeCreated : resource.timeCreated = ""
  updated : resource.updated = ""
  timeDeleted : resource.timeDeleted = ""

end Resource

namespace Attributes

variable (bucket : String) (attributes : Attributes)

theorem attributes_toResource : (attributes.toResource bucket).attributes = attributes := by
  have metadata : (if attributes.metadata.isEmpty then none else some attributes.metadata).getD ∅ =
      attributes.metadata := by
    split
    · rename_i isEmpty
      exact (Dictionary.eq_empty_of_isEmpty isEmpty).symm
    · rfl
  have acl : (if attributes.acl.isEmpty then none else some attributes.acl).getD [] = attributes.acl := by
    split
    · rename_i isEmpty
      exact (List.isEmpty_iff.1 isEmpty).symm
    · rfl
  simp only [toResource, Resource.attributes, metadata, acl]

theorem isUnassigned_toResource : (attributes.toResource bucket).IsUnassigned := by
  constructor
  all_goals rfl

theorem parse_serialize : Resource.parse (attributes.serialize bucket) = .ok (attributes.toResource bucket) :=
  Resource.parse_toJson _

variable {bucket attributes}

theorem toResource_injective {otherBucket : String} {other : Attributes}
    (same : attributes.toResource bucket = other.toResource otherBucket) : bucket = otherBucket ∧ attributes = other := by
  constructor
  · exact congrArg Resource.bucket same
  · calc
      attributes = (attributes.toResource bucket).attributes := (attributes_toResource bucket attributes).symm
      _ = (other.toResource otherBucket).attributes := congrArg Resource.attributes same
      _ = other := attributes_toResource otherBucket other

theorem serialize_injective {otherBucket : String} {other : Attributes}
    (same : attributes.serialize bucket = other.serialize otherBucket) : bucket = otherBucket ∧ attributes = other := by
  apply toResource_injective
  have read := parse_serialize bucket attributes
  rw [same, parse_serialize] at read
  exact (Except.ok.inj read).symm

end Attributes

/-- Whatever is written to the wire is read back as it was. An announcement, too, is read as the bucket and the
attributes that it was written for, so that no two of them have one text. -/
theorem wire_loses_nothing :
    (∀ resource : Resource, Resource.parse (Bytes.ofText resource.toJson.compact) = .ok resource) ∧
    (∀ listing : ResourceList, ResourceList.parse (Bytes.ofText listing.toJson.compact) = .ok listing) ∧
    (∀ envelope : ErrorEnvelope, ErrorEnvelope.parse (Bytes.ofText envelope.toJson.compact) = .ok envelope) ∧
    (∀ (bucket : String) (attributes : Attributes), ∃ resource,
      Resource.parse (attributes.serialize bucket) = .ok resource ∧
        resource.bucket = bucket ∧ resource.attributes = attributes ∧ resource.IsUnassigned) ∧
    ∀ (bucket otherBucket : String) (attributes other : Attributes),
      attributes.serialize bucket = other.serialize otherBucket → bucket = otherBucket ∧ attributes = other := by
  refine ⟨Resource.parse_toJson, ResourceList.parse_toJson, ErrorEnvelope.parse_toJson, ?_, ?_⟩
  · intro bucket attributes
    refine ⟨attributes.toResource bucket, attributes.parse_serialize bucket, rfl, ?_, ?_⟩
    · exact attributes.attributes_toResource bucket
    · exact attributes.isUnassigned_toResource bucket
  · intro bucket otherBucket attributes other same
    exact Attributes.serialize_injective same

end ObjectStore
