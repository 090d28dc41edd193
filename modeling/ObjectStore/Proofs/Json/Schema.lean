import ObjectStore.Json.Schema
import ObjectStore.Proofs.Json.Tree
import ObjectStore.Resource.Json

/-!
Values of a known shape are read as they were written. For a record it is enough that its members are
fields of it, each given once, and that the value of each is read by its field.
-/

namespace ObjectStore.Json

variable {α σ : Type}

theorem reads_text (depth : Nat) (content : String) : Reads (text depth) (.string content) content := by
  intro rest _
  rw [written_string]
  exact readTextBody_written content rest

theorem optional_written {shape : Shape α} {depth : Nat} {value : Value} (begins : Begins value)
    (notNull : value ≠ .null) (rest : Bytes) : optional shape depth (written value.chars ++ rest) =
      (shape depth (written value.chars ++ rest)).map fun read => (some read.1, read.2) := by
  obtain ⟨first, tail, same, notBlank, _, isNull⟩ := begins
  have other : (first == 0x6E) = false := by
    rw [beq_eq_false_iff_ne]
    exact fun marked => notNull (isNull marked)
  rw [same, List.cons_append, optional, skipBlank_cons notBlank]
  simp only [other, Bool.false_eq_true, if_false]

theorem reads_optional {shape : Shape α} {depth : Nat} {value : Value} {result : α} (begins : Begins value)
    (notNull : value ≠ .null) (reads : Reads (shape depth) value result) :
    Reads (optional shape depth) value (some result) := by
  intro rest ends
  rw [optional_written begins notNull, reads rest ends]
  rfl

theorem reads_list {shape : Shape α} (toValue : α → Value) {items : List α} {depth : Nat}
    (each : ∀ item ∈ items, Begins (toValue item) ∧ Reads (shape (depth + 1)) (toValue item) item) :
    Reads (list shape (depth + 2)) (.array (items.map toValue)) items := by
  intro rest _
  have shorter : items.length < (written (itemChars true (items.map toValue)) ++ rest).length + 1 := by
    have found := length_lt_rounds (items.map toValue) rest
    rwa [List.length_map] at found
  rw [written_array, List.cons_append]
  exact readItems_written toValue each shorter true rest

theorem reads_dictionary {shape : Shape α} (toValue : α → Value) {dictionary : Dictionary α} {depth : Nat}
    (each : ∀ entry ∈ dictionary.toList, Reads (shape (depth + 1)) (toValue entry.2) entry.2) :
    Reads (Json.dictionary shape (depth + 2))
      (.object (dictionary.toList.map fun entry => (entry.1, toValue entry.2))) dictionary := by
  intro rest _
  have shorter : dictionary.toList.length < (written (memberChars true
      (dictionary.toList.map fun entry => (entry.1, toValue entry.2))) ++ rest).length + 1 := by
    have found := length_lt_memberRounds (dictionary.toList.map fun entry => (entry.1, toValue entry.2)) rest
    rwa [List.length_map] at found
  have read := readMembers_written toValue each shorter true rest
  rw [written_object, List.cons_append]
  change (readMembers (shape (depth + 1)) _ true _).map (fun read => (Dictionary.ofList read.1, read.2)) = _
  rw [read]
  simp only [Except.map, Dictionary.ofList_toList]

theorem reads_choice {typeName : String} {select : Value → Option α} {depth : Nat} {value : Value} {chosen : α}
    (canonical : value.IsCanonical depth) (selected : select value = some chosen) :
    Reads (choice typeName select (depth + 1)) value chosen := by
  intro rest ends
  simp only [choice, reads_tree canonical rest ends, bind, Except.bind, selected]
  rfl

theorem reads_natural {width depth : Nat} {number : Nat} (narrow : width ≤ 64) (fits : number < Width.bound width) :
    Reads (natural width depth) (.number (.integer number)) number := by
  intro rest ends
  have wide : number < Width.bound 64 :=
    Nat.lt_of_lt_of_le fits (Nat.pow_le_pow_right (by decide) narrow)
  obtain ⟨first, tail, same, isDigit⟩ := written_toDigits_cons number
  obtain ⟨notBlank, _, _, _, _, notMinus⟩ := marks_of_digit first isDigit
  have read := readNumber_toDigits false wide ends
  have inRange : Width.fits width (number : Int) = true := by
    simp only [Width.fits, Bool.and_eq_true]
    exact ⟨decide_eq_true (by omega), decide_eq_true (by omega)⟩
  have digits : (digit? first).isNone = false := by
    rw [← Option.not_isSome, isDigit]
    rfl
  have unsigned : finishInteger false number = .integer number := rfl
  rw [same, List.cons_append] at read
  rw [written_integer, if_pos (by omega), List.nil_append, Int.natAbs_natCast, same, List.cons_append, natural]
  simp only [skipBlank_cons notBlank, notMinus, digits, bne, Bool.not_false, Bool.true_and, Bool.false_eq_true, if_false,
    read, bind, Except.bind, unsigned, inRange, if_true]
  rfl

/-! ### Records -/

namespace Record

/-- Members that take a record from one state to another, when some fields were seen before. -/
inductive Fills (record : Record σ) (depth : Nat) : List String → σ → List (String × Value) → σ → Prop
  | done {seen : List String} {state : σ} (complete : record.missing? seen = none) :
      Fills record depth seen state [] state
  | field {seen : List String} {state next final : σ} {name : String} {value : Value}
      {members : List (String × Value)} (field : Field σ)
      (found : record.fields.find? (fun field => field.name == name) = some field)
      (unseen : seen.contains name = false) (reads : Reads (field.change state depth) value next)
      (rest : Fills record depth (name :: seen) next members final) :
      Fills record depth seen state ((name, value) :: members) final

variable {record : Record σ} {depth : Nat}

theorem Fills.readFields {seen : List String} {state final : σ} {members : List (String × Value)}
    (fills : Fills record depth seen state members final) {rounds : Nat} (enough : members.length < rounds)
    (isFirst : Bool) (rest : Bytes) :
    record.readFields depth rounds isFirst seen state (written (memberChars isFirst members) ++ rest) =
      .ok (final, 0x7D :: rest) := by
  induction fills generalizing rounds isFirst with
  | done complete =>
      obtain ⟨rounds, rfl⟩ : ∃ fewer, rounds = fewer + 1 := ⟨rounds - 1, by omega⟩
      have closes : nextMember isFirst (0x7D :: rest) = .ok (false, 0x7D :: rest) := rfl
      rw [written_memberChars_nil, List.singleton_append, Record.readFields, closes]
      simp only [bind, Except.bind, complete]
      rfl
  | @field seen state next final name value members field found unseen reads _ ih =>
      obtain ⟨rounds, rfl⟩ : ∃ fewer, rounds = fewer + 1 := ⟨rounds - 1, by simp at enough; omega⟩
      have later := ih (by simpa using enough) false
      have colon (tail : Bytes) : readColon (0x3A :: tail) = .ok tail := rfl
      rw [written_memberChars_cons, List.append_assoc, List.cons_append, List.append_assoc, List.cons_append,
        List.cons_append, List.append_assoc, Record.readFields, nextMember_written]
      simp only [bind, Except.bind, readTextBody_written, found, unseen, Bool.false_eq_true, if_false, colon,
        reads _ (ends_memberChars _ rest), later]

theorem reads_shape {members : List (String × Value)} {final : σ}
    (fills : Fills record (depth + 1) [] record.empty members final) :
    Reads (record.shape (depth + 2)) (.object members) final := by
  intro rest _
  have read := fills.readFields (length_lt_memberRounds _ rest) true rest
  have skipped : skipBlank (0x7B :: (written (memberChars true members) ++ rest)) =
      0x7B :: (written (memberChars true members) ++ rest) := skipBlank_cons (by decide) _
  have deep : ¬depth + 2 ≤ 1 := by omega
  rw [written_object, List.cons_append, shape]
  simp only [skipped, beq_self_eq_true, if_true, deep, if_false, show depth + 2 - 1 = depth + 1 from rfl, read]
  rfl

theorem reads_change {name : String} {shape : Shape α} {set : σ → α → σ} {state : σ} {value : Value} {content : α}
    (reads : Reads (shape depth) value content) :
    Reads ((Field.of name shape set).change state depth) value (set state content) := by
  intro rest ends
  simp only [Field.of, reads rest ends]
  rfl

theorem reads_required {name : String} {shape : Shape α} {set : σ → α → σ} {state : σ} {value : Value} {content : α}
    (reads : Reads (shape depth) value content) :
    Reads ((Field.required name shape set).change state depth) value (set state content) :=
  @reads_change α σ depth name shape set state value content reads

/-! ### Members that may be absent -/

section Member

variable {allowed : List String} {state final : σ} {members : List (String × Value)} {name : String}
  (unseen : name ∉ allowed)

include unseen

theorem Fills.part {part : List (String × Value)} {next : σ} (field : Field σ)
    (found : record.fields.find? (fun field => field.name == name) = some field)
    (given : part = [] ∧ next = state ∨ ∃ value, part = [(name, value)] ∧ Reads (field.change state depth) value next)
    (rest : ∀ seen ⊆ name :: allowed, Fills record depth seen next members final) :
    ∀ seen ⊆ allowed, Fills record depth seen state (part ++ members) final := by
  intro seen within
  rcases given with ⟨rfl, rfl⟩ | ⟨value, rfl, reads⟩
  · exact rest seen fun other member => List.mem_cons_of_mem name (within member)
  · refine .field field found ?_ reads (rest (name :: seen) (List.cons_subset_cons name within))
    simpa using fun member => unseen (within member)

theorem Fills.text {set : σ → String → σ}
    (found : record.fields.find? (fun field => field.name == name) = some (.of name Json.text set))
    (absent : set state "" = state) (content : String)
    (rest : ∀ seen ⊆ name :: allowed, Fills record depth seen (set state content) members final) :
    ∀ seen ⊆ allowed, Fills record depth seen state (textMember name content ++ members) final := by
  apply Fills.part unseen _ found ?_ rest
  by_cases isEmpty : content = ""
  · exact Or.inl ⟨by rw [textMember, if_pos isEmpty], by rw [isEmpty, absent]⟩
  · exact Or.inr ⟨_, by rw [textMember, if_neg isEmpty], reads_change (reads_text depth content)⟩

theorem Fills.optional {set : σ → Option α → σ} {shape : Shape α} {toJson : α → Value}
    (found : record.fields.find? (fun field => field.name == name) = some (.of name (Json.optional shape) set))
    (absent : set state none = state)
    (reads : ∀ value, Begins (toJson value) ∧ toJson value ≠ .null ∧ Reads (shape depth) (toJson value) value)
    (given : Option α) (rest : ∀ seen ⊆ name :: allowed, Fills record depth seen (set state given) members final) :
    ∀ seen ⊆ allowed, Fills record depth seen state (member name toJson given ++ members) final := by
  apply Fills.part unseen _ found ?_ rest
  cases given with
  | none => exact Or.inl ⟨rfl, absent⟩
  | some value =>
      obtain ⟨begins, notNull, read⟩ := reads value
      exact Or.inr ⟨toJson value, rfl, reads_change (reads_optional begins notNull read)⟩

end Member

end Record

end ObjectStore.Json
