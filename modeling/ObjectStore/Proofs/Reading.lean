import Mathlib.Data.List.Forall2

/-!
Reading that can fail: of one thing after the other, and of each thing in a list. The first failure is the result,
also of work over a state, which stays as the failure has left it.
-/

namespace ObjectStore

/-! ### One after the other -/

section Steps

variable {ε α β : Type}

theorem bind_eq_ok_iff {first : Except ε α} {next : α → Except ε β} {result : β} :
    (first >>= next) = .ok result ↔ ∃ value, first = .ok value ∧ next value = .ok result := by
  cases first <;> simp [bind, Except.bind]

theorem bind_eq_error_iff {first : Except ε α} {next : α → Except ε β} {fault : ε} :
    (first >>= next) = .error fault ↔
      first = .error fault ∨ ∃ value, first = .ok value ∧ next value = .error fault := by
  cases first <;> simp [bind, Except.bind]

theorem guarded_eq_ok_iff {condition : Prop} [Decidable condition] {fault : ε} {never : PUnit → Except ε α}
    {next : Except ε α} {result : α} :
    (if condition then (throw fault : Except ε PUnit) >>= never else next) = .ok result ↔
      ¬condition ∧ next = .ok result := by
  by_cases holds : condition <;> simp [holds, bind, Except.bind, throw, throwThe, MonadExceptOf.throw]

theorem map_eq_error_iff (change : α → β) {decoded : Except ε α} {fault : ε} :
    decoded.map change = .error fault ↔ decoded = .error fault := by
  cases decoded <;> simp [Except.map]

theorem mapError_eq_ok_iff {δ : Type} (change : ε → δ) {decoded : Except ε α} {value : α} :
    decoded.mapError change = .ok value ↔ decoded = .ok value := by
  cases decoded <;> simp [Except.mapError]

end Steps

/-! ### Lists in order -/

section Lists

variable {α β ε : Type} {read : α → Except ε β}

theorem mapM_eq_ok_iff {list : List α} {results : List β} :
    list.mapM read = .ok results ↔ List.Forall₂ (fun item result => read item = .ok result) list results := by
  induction list generalizing results with
  | nil => cases results <;> simp [pure, Except.pure]
  | cons first rest ih =>
      simp only [List.mapM_cons, bind_eq_ok_iff, ih]
      constructor
      · rintro ⟨value, isFirst, values, areRest, finished⟩
        cases finished
        exact .cons isFirst areRest
      · rintro (_ | ⟨isFirst, areRest⟩)
        exact ⟨_, isFirst, _, areRest, rfl⟩

theorem mapM_eq_error_iff {list : List α} {fault : ε} :
    list.mapM read = .error fault ↔ ∃ before bad behind, list = before ++ bad :: behind ∧
      (∀ item ∈ before, ∃ result, read item = .ok result) ∧ read bad = .error fault := by
  induction list with
  | nil => simp [pure, Except.pure]
  | cons first rest ih =>
      simp only [List.mapM_cons, bind_eq_error_iff, ih]
      constructor
      · rintro (isBad | ⟨value, isFirst, ⟨before, bad, behind, rfl, readable, isBad⟩ | ⟨values, _, finished⟩⟩)
        · exact ⟨[], first, rest, rfl, List.forall_mem_nil _, isBad⟩
        · exact ⟨first :: before, bad, behind, rfl, List.forall_mem_cons.2 ⟨⟨value, isFirst⟩, readable⟩, isBad⟩
        · cases finished
      · rintro ⟨_ | ⟨good, before⟩, bad, behind, split, readable, isBad⟩
        · cases split
          exact Or.inl isBad
        · cases split
          obtain ⟨⟨value, isFirst⟩, others⟩ := List.forall_mem_cons.1 readable
          exact Or.inr ⟨value, isFirst, Or.inl ⟨before, bad, behind, rfl, others, isBad⟩⟩

theorem exists_mapM_iff {list : List α} :
    (∃ results, list.mapM read = .ok results) ↔ ∀ item ∈ list, ∃ result, read item = .ok result := by
  constructor
  · rintro ⟨results, areRead⟩
    replace areRead := mapM_eq_ok_iff.1 areRead
    induction areRead with
    | nil => exact List.forall_mem_nil _
    | cons isFirst _ ih => exact List.forall_mem_cons.2 ⟨⟨_, isFirst⟩, ih⟩
  · intro readable
    cases areRead : list.mapM read with
    | ok results => exact ⟨results, rfl⟩
    | error fault =>
        obtain ⟨before, bad, behind, rfl, -, isBad⟩ := mapM_eq_error_iff.1 areRead
        obtain ⟨result, isRead⟩ := readable bad (by simp)
        rw [isBad] at isRead
        cases isRead

end Lists

/-! ### Work over a state -/

section Work

variable {ε σ α β : Type}

theorem bind_of_ok {first : EStateM ε σ α} {next : α → EStateM ε σ β} {state after : σ} {result : α}
    (ended : first state = .ok result after) : (first >>= next) state = next result after := by
  change EStateM.bind first next state = _
  rw [EStateM.bind, ended]

theorem bind_of_error {first : EStateM ε σ α} {next : α → EStateM ε σ β} {state after : σ} {fault : ε}
    (ended : first state = .error fault after) : (first >>= next) state = .error fault after := by
  change EStateM.bind first next state = _
  rw [EStateM.bind, ended]

end Work

end ObjectStore
