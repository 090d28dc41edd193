import ObjectStore.Proofs.Json.Schema

/-!
Resources, listings and error envelopes are read as they were written, with nothing lost and nothing
added.
-/

namespace ObjectStore

open Json (Value Begins Reads begins_string begins_array begins_object begins_integer)
open Json.Record (Fills)

/-! ### Integers and rules -/

theorem WireInteger.reads_toJson (depth : Nat) (number : WireInteger) :
    Begins number.toJson ∧ number.toJson ≠ .null ∧
      Reads (WireInteger.shape (depth + 1)) number.toJson number := by
  cases number with
  | text digits =>
      refine ⟨begins_string digits, by simp [toJson], ?_⟩
      exact Json.reads_choice (.string digits) rfl
  | number value =>
      have bounds : -(Width.bound 63 : Int) ≤ value.toInt ∧ value.toInt < Width.bound 63 := by
        constructor
        · exact Int64.le_toInt value
        · exact Int64.toInt_lt value
      have fits : Width.fitsSigned 64 value.toInt = true := by
        simp only [Width.fitsSigned, Bool.and_eq_true]
        exact ⟨decide_eq_true bounds.1, decide_eq_true bounds.2⟩
      have wide : value.toInt < Width.bound 64 := by
        have narrow : Width.bound 63 < Width.bound 64 := by decide
        omega
      refine ⟨begins_integer _, by simp [toJson], ?_⟩
      apply Json.reads_choice (.integer _ bounds.1 wide)
      simp [ofValue?, fits]

theorem AclRule.reads_toJson (depth : Nat) (rule : AclRule) :
    Begins rule.toJson ∧ Reads (AclRule.record.shape (depth + 2)) rule.toJson rule := by
  have entity := Json.reads_text (depth + 1) rule.entity
  have role := Json.reads_text (depth + 1) rule.role
  refine ⟨begins_object _, Json.Record.reads_shape ?_⟩
  exact .field _ rfl rfl (Json.Record.reads_change entity)
    (.field _ rfl rfl (Json.Record.reads_change role) (.done rfl))

/-! ### Resources -/

theorem Resource.reads_owner (depth : Nat) (entity : String) :
    Reads (Resource.ownerRecord.shape (depth + 2)) (.object [("entity", .string entity)]) entity := by
  have text := Json.reads_text (depth + 1) entity
  exact Json.Record.reads_shape (.field _ rfl rfl (Json.Record.reads_change text) (.done rfl))

theorem Resource.reads_toJson (depth : Nat) (resource : Resource) :
    Begins resource.toJson ∧ Reads (Resource.record.shape (depth + 4)) resource.toJson resource := by
  refine ⟨begins_object _, Json.Record.reads_shape ?_⟩
  have rules (acl : List AclRule) : Begins (.array (acl.map AclRule.toJson)) ∧
      Value.array (acl.map AclRule.toJson) ≠ .null ∧
        Reads (Json.list AclRule.record.shape (depth + 3)) (.array (acl.map AclRule.toJson)) acl :=
    ⟨begins_array _, by simp, Json.reads_list _ fun rule _ => rule.reads_toJson depth⟩
  have metadata (entries : Dictionary String) : Begins entries.toJson ∧ entries.toJson ≠ .null ∧
      Reads (Json.dictionary Json.text (depth + 3)) entries.toJson entries :=
    ⟨begins_object _, by simp [Dictionary.toJson],
      Json.reads_dictionary Value.string fun entry _ => Json.reads_text (depth + 2) entry.2⟩
  have owner (entity : String) : Begins (.object [("entity", .string entity)]) ∧
      Value.object [("entity", .string entity)] ≠ .null ∧
        Reads (ownerRecord.shape (depth + 3)) (.object [("entity", .string entity)]) entity :=
    ⟨begins_object _, by simp, Resource.reads_owner (depth + 1) entity⟩
  have integer := WireInteger.reads_toJson (depth + 2)
  suffices filled : ∀ seen ⊆ ([] : List String), Fills record (depth + 3) seen {} (_ ++ []) resource by
    have found := filled [] (List.Subset.refl _)
    rwa [List.append_nil] at found
  simp only [List.append_assoc]
  refine Fills.text (by decide) rfl rfl _ ?_
  refine Fills.text (by decide) rfl rfl _ ?_
  refine Fills.text (by decide) rfl rfl _ ?_
  refine Fills.text (by decide) rfl rfl _ ?_
  refine Fills.text (by decide) rfl rfl _ ?_
  refine Fills.text (by decide) rfl rfl _ ?_
  refine Fills.optional (by decide) rfl rfl rules _ ?_
  refine Fills.optional (by decide) rfl rfl metadata _ ?_
  refine Fills.optional (by decide) rfl rfl owner _ ?_
  refine Fills.optional (by decide) rfl rfl integer _ ?_
  refine Fills.text (by decide) rfl rfl _ ?_
  refine Fills.optional (by decide) rfl rfl integer _ ?_
  refine Fills.optional (by decide) rfl rfl integer _ ?_
  refine Fills.text (by decide) rfl rfl _ ?_
  refine Fills.text (by decide) rfl rfl _ ?_
  refine Fills.text (by decide) rfl rfl _ ?_
  refine Fills.text (by decide) rfl rfl _ ?_
  refine Fills.text (by decide) rfl rfl _ ?_
  refine Fills.text (by decide) rfl rfl _ ?_
  exact fun seen _ => .done rfl

theorem Resource.parse_toJson (resource : Resource) :
    Resource.parse (Bytes.ofText resource.toJson.compact) = .ok resource :=
  Json.readWhole_compact (resource.reads_toJson 124).2

/-! ### Listings -/

theorem ResourceList.parse_toJson (listing : ResourceList) :
    ResourceList.parse (Bytes.ofText listing.toJson.compact) = .ok listing := by
  have items (resources : List Resource) : Begins (.array (resources.map Resource.toJson)) ∧
      Value.array (resources.map Resource.toJson) ≠ .null ∧
        Reads (Json.list Resource.record.shape 127) (.array (resources.map Resource.toJson)) resources :=
    ⟨begins_array _, by simp, Json.reads_list _ fun resource _ => resource.reads_toJson 122⟩
  have prefixes (stems : List String) : Begins (.array (stems.map Value.string)) ∧
      Value.array (stems.map Value.string) ≠ .null ∧
        Reads (Json.list Json.text 127) (.array (stems.map Value.string)) stems :=
    ⟨begins_array _, by simp, Json.reads_list _ fun stem _ => ⟨begins_string stem, Json.reads_text 126 stem⟩⟩
  have token (text : String) : Begins (.string text) ∧ Value.string text ≠ .null ∧
      Reads (Json.text 127) (.string text) text :=
    ⟨begins_string text, by simp, Json.reads_text 127 text⟩
  apply Json.readWhole_compact
  apply Json.Record.reads_shape
  suffices filled : ∀ seen ⊆ ([] : List String), Fills record 127 seen {} (_ ++ []) listing by
    have found := filled [] (List.Subset.refl _)
    rwa [List.append_nil] at found
  simp only [List.append_assoc]
  refine Fills.optional (by decide) rfl rfl items _ ?_
  refine Fills.optional (by decide) rfl rfl prefixes _ ?_
  refine Fills.optional (by decide) rfl rfl token _ ?_
  exact fun seen _ => .done rfl

/-! ### Error envelopes -/

theorem ErrorEnvelope.parse_toJson (envelope : ErrorEnvelope) :
    ErrorEnvelope.parse (Bytes.ofText envelope.toJson.compact) = .ok envelope := by
  have code : Reads (Json.natural 16 126) (.number (.integer envelope.code.toNat)) envelope.code.toNat :=
    Json.reads_natural (by decide) envelope.code.toNat_lt
  have message := Json.reads_text 126 envelope.message
  have detail : Reads (detailRecord.shape 127)
      (.object [("code", .number (.integer envelope.code.toNat)), ("message", .string envelope.message)])
      ⟨UInt16.ofNat envelope.code.toNat, envelope.message⟩ :=
    Json.Record.reads_shape (.field _ rfl rfl (Json.Record.reads_change code)
      (.field _ rfl rfl (Json.Record.reads_change message) (.done rfl)))
  rw [UInt16.ofNat_toNat] at detail
  apply Json.readWhole_compact
  exact Json.Record.reads_shape (.field _ rfl rfl (Json.Record.reads_required detail) (.done rfl))

end ObjectStore
