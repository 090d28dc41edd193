import ObjectStore.Proofs.Json.Schema

/-!
Records as JSON text in any layout, with the value of one field left open. What stands around that value is read the
same whatever the value is, so that the text is read if and only if the value is.
-/

namespace ObjectStore.Json

variable {α σ : Type}

/-! ### Pieces of a text -/

/-- A reader takes these bytes for this result, whatever follows them. -/
def Spells (read : Read α) (piece : Bytes) (result : α) : Prop :=
  ∀ rest, Ends rest → read (piece ++ rest) = .ok (result, rest)

def AreBlank (bytes : Bytes) : Prop :=
  bytes.all isBlank = true

instance (bytes : Bytes) : Decidable (AreBlank bytes) :=
  inferInstanceAs (Decidable (bytes.all isBlank = true))

theorem areBlank_cons {first : UInt8} {blanks : Bytes} :
    AreBlank (first :: blanks) ↔ isBlank first = true ∧ AreBlank blanks := by
  rw [AreBlank, List.all_cons, Bool.and_eq_true, AreBlank]

theorem skipBlank_append {blanks : Bytes} (areBlank : AreBlank blanks) (rest : Bytes) :
    skipBlank (blanks ++ rest) = skipBlank rest := by
  induction blanks with
  | nil => rfl
  | cons first blanks ih =>
      obtain ⟨isFirst, others⟩ := areBlank_cons.1 areBlank
      rw [List.cons_append, skipBlank, if_pos isFirst, ih others]

theorem AreBlank.skipBlank_cons {blanks : Bytes} (areBlank : AreBlank blanks) {first : UInt8}
    (notBlank : isBlank first = false) (rest : Bytes) : skipBlank (blanks ++ first :: rest) = first :: rest := by
  rw [skipBlank_append areBlank, Json.skipBlank_cons notBlank]

theorem AreBlank.skipBlank {blanks : Bytes} (areBlank : AreBlank blanks) : skipBlank blanks = [] := by
  have skipped := skipBlank_append areBlank []
  rwa [List.append_nil] at skipped

theorem AreBlank.ends {blanks : Bytes} (areBlank : AreBlank blanks) {rest : Bytes} (ends : Ends rest) :
    Ends (blanks ++ rest) := by
  cases blanks with
  | nil => exact ends
  | cons first blanks => exact ends_cons (Or.inl (areBlank_cons.1 areBlank).1) _

def IsKey (isFirst : Bool) (name : String) (key : Bytes) : Prop :=
  ∀ rest, ∃ behindQuote behindName, nextMember isFirst (key ++ rest) = .ok (true, behindQuote) ∧
    readTextBody behindQuote = .ok (name, behindName) ∧ readColon behindName = .ok rest

theorem isKey_of_parts (isFirst : Bool) {name : String} {before between spelled behind : Bytes}
    (isBefore : AreBlank before) (isBetween : AreBlank between)
    (isName : ∀ rest, readTextBody (spelled ++ rest) = .ok (name, rest)) (isBehind : AreBlank behind) :
    IsKey isFirst name
      (before ++ ((if isFirst then [] else 0x2C :: between) ++ 0x22 :: (spelled ++ (behind ++ [0x3A])))) := by
  intro rest
  refine ⟨spelled ++ (behind ++ 0x3A :: rest), behind ++ 0x3A :: rest, ?_, isName _, ?_⟩
  · have quote : isBlank 0x22 = false := rfl
    have comma : isBlank 0x2C = false := rfl
    cases isFirst with
    | true => simp [nextMember, isBefore.skipBlank_cons quote]
    | false => simp [nextMember, isBefore.skipBlank_cons comma, isBetween.skipBlank_cons quote]
  · have colon : isBlank 0x3A = false := rfl
    simp [readColon, isBehind.skipBlank_cons colon]

def keyOf (isFirst : Bool) (blanks : Bytes) (name : String) : Bytes :=
  blanks ++ ((if isFirst then [] else [0x2C]) ++ 0x22 :: (written (name.toList.flatMap escapeChar) ++ [0x22, 0x3A]))

theorem isKey_keyOf (isFirst : Bool) {blanks : Bytes} (areBlank : AreBlank blanks) (name : String) :
    IsKey isFirst name (keyOf isFirst blanks name) := by
  have none : AreBlank [] := rfl
  have isName (rest : Bytes) : readTextBody ((written (name.toList.flatMap escapeChar) ++ [0x22]) ++ rest) =
      .ok (name, rest) := by
    rw [List.append_assoc]
    exact readTextBody_written name rest
  have isKey := isKey_of_parts isFirst areBlank none isName none
  simpa [keyOf] using isKey

theorem IsKey.ne_nil {isFirst : Bool} {name : String} {key : Bytes} (isKey : IsKey isFirst name key) : key ≠ [] := by
  rintro rfl
  obtain ⟨_, _, next, _⟩ := isKey []
  cases next

theorem IsKey.ends {name : String} {key : Bytes} (isKey : IsKey false name key) (rest : Bytes) :
    Ends (key ++ rest) := by
  obtain ⟨first, tail, rfl⟩ := List.exists_cons_of_ne_nil isKey.ne_nil
  refine ends_cons ?_ _
  by_cases blank : isBlank first = true
  · exact Or.inl blank
  · obtain ⟨_, _, next, _⟩ := isKey rest
    rw [List.cons_append, nextMember, skipBlank_cons (Bool.eq_false_iff.2 blank)] at next
    simp only [Bool.false_eq_true, if_false] at next
    split at next
    · cases next
    · split at next
      · rename_i isComma
        exact Or.inr (Or.inl (by simpa using isComma))
      · cases next

theorem optional_blank {blanks : Bytes} (areBlank : AreBlank blanks) (shape : Shape α) (depth : Nat) (rest : Bytes) :
    optional shape depth (blanks ++ rest) = optional shape depth rest := by
  rw [optional, skipBlank_append areBlank, optional]

namespace Record

variable {record : Record σ} {depth : Nat}

/-! ### Members in any layout -/

structure Stage (σ : Type) where
  isFirst : Bool
  seen : List String
  state : σ

def start (record : Record σ) : Stage σ :=
  ⟨true, [], record.empty⟩

def readOn (record : Record σ) (depth rounds : Nat) (stage : Stage σ) : Read σ :=
  record.readFields depth rounds stage.isFirst stage.seen stage.state

def Stage.beyond (stage : Stage σ) (name : String) (next : σ) : Stage σ :=
  ⟨false, name :: stage.seen, next⟩

theorem readOn_field {stage : Stage σ} {name : String} {key : Bytes} {field : Field σ}
    (isKey : IsKey stage.isFirst name key) (found : record.fields.find? (fun field => field.name == name) = some field)
    (unseen : stage.seen.contains name = false) (rounds : Nat) (rest : Bytes) :
    record.readOn depth (rounds + 1) stage (key ++ rest) =
      field.change stage.state depth rest >>= fun read =>
        record.readOn depth rounds (stage.beyond name read.1) read.2 := by
  obtain ⟨behindQuote, behindName, next, isName, isColon⟩ := isKey rest
  simp only [readOn, Record.readFields, next, isName, found, unseen, isColon, bind, Except.bind, Bool.false_eq_true,
    if_false, Stage.beyond]

theorem readOn_unknown {stage : Stage σ} {name : String} {key : Bytes} (isKey : IsKey stage.isFirst name key)
    (unknown : record.fields.find? (fun field => field.name == name) = none) (rounds : Nat) (rest : Bytes) :
    record.readOn depth (rounds + 1) stage (key ++ rest) =
      skipValue rest >>= fun unread => record.readOn depth rounds { stage with isFirst := false } unread := by
  obtain ⟨behindQuote, behindName, next, isName, isColon⟩ := isKey rest
  simp only [readOn, Record.readFields, next, isName, unknown, isColon, bind, Except.bind]

theorem readOn_close {stage : Stage σ} (complete : record.missing? stage.seen = none) {margin : Bytes}
    (isMargin : AreBlank margin) (rounds : Nat) (rest : Bytes) :
    record.readOn depth (rounds + 1) stage (margin ++ 0x7D :: rest) = .ok (stage.state, 0x7D :: rest) := by
  have brace : isBlank 0x7D = false := rfl
  have closes : nextMember stage.isFirst (margin ++ 0x7D :: rest) = .ok (false, 0x7D :: rest) := by
    simp [nextMember, isMargin.skipBlank_cons brace]
  simp only [readOn, Record.readFields, closes, bind, Except.bind, complete]
  rfl

theorem shape_brace {lead : Bytes} (isLead : AreBlank lead) (bytes : Bytes) :
    record.shape startDepth (lead ++ 0x7B :: bytes) =
      ((record.readOn (startDepth - 1) (bytes.length + 1) record.start bytes).mapError (place 0x7D)).map
        fun read => (read.1, read.2.drop 1) := by
  have brace : isBlank 0x7B = false := rfl
  have deep : ¬startDepth ≤ 1 := by decide
  simp only [shape, isLead.skipBlank_cons brace, beq_self_eq_true, if_true, deep, if_false, readOn, start]
  cases record.readFields (startDepth - 1) (bytes.length + 1) true [] record.empty bytes <;> rfl

theorem parse_of_members {lead bytes trail : Bytes} (isLead : AreBlank lead) (isTrail : AreBlank trail) {state : σ}
    (read : record.readOn (startDepth - 1) (bytes.length + 1) record.start bytes = .ok (state, 0x7D :: trail)) :
    record.parse (lead ++ 0x7B :: bytes) = .ok state := by
  have shaped : record.shape startDepth (lead ++ 0x7B :: bytes) = .ok (state, trail) := by
    rw [shape_brace isLead, read]
    rfl
  simp only [parse, readWhole, shaped, isTrail.skipBlank, bind, Except.bind]
  rfl

theorem parse_of_fault {lead bytes : Bytes} (isLead : AreBlank lead) {fault : Fault}
    (read : record.readOn (startDepth - 1) (bytes.length + 1) record.start bytes = .error fault) :
    record.parse (lead ++ 0x7B :: bytes) = .error (place 0x7D fault) := by
  have shaped : record.shape startDepth (lead ++ 0x7B :: bytes) = .error (place 0x7D fault) := by
    rw [shape_brace isLead, read]
    rfl
  simp only [parse, readWhole, shaped, bind, Except.bind]

/-- Members that take a record from one stage to another: fields of it, each given once, and others that are passed
over. -/
inductive Passes (record : Record σ) (depth : Nat) : Stage σ → Bytes → Stage σ → Prop
  | done (stage : Stage σ) : Passes record depth stage [] stage
  | field {stage last : Stage σ} {name : String} {key value piece : Bytes} {next : σ} (field : Field σ)
      (isKey : IsKey stage.isFirst name key)
      (found : record.fields.find? (fun field => field.name == name) = some field)
      (unseen : stage.seen.contains name = false) (spells : Spells (field.change stage.state depth) value next)
      (rest : Passes record depth (stage.beyond name next) piece last) :
      Passes record depth stage (key ++ (value ++ piece)) last
  | unknown {stage last : Stage σ} {name : String} {key value piece : Bytes} (isKey : IsKey stage.isFirst name key)
      (unknown : record.fields.find? (fun field => field.name == name) = none)
      (skips : ∀ rest, Ends rest → skipValue (value ++ rest) = .ok rest)
      (rest : Passes record depth { stage with isFirst := false } piece last) :
      Passes record depth stage (key ++ (value ++ piece)) last

namespace Passes

variable {stage last : Stage σ} {piece : Bytes}

theorem notFirst (passes : Passes record depth stage piece last) (notFirst : stage.isFirst = false) :
    last.isFirst = false := by
  induction passes with
  | done => exact notFirst
  | field field isKey found unseen spells rest ih => exact ih rfl
  | unknown isKey unknown skips rest ih => exact ih rfl

theorem ends (passes : Passes record depth stage piece last) (notFirst : stage.isFirst = false) {rest : Bytes}
    (ends : Ends rest) : Ends (piece ++ rest) := by
  cases passes with
  | done => exact ends
  | field field isKey | unknown isKey =>
      rw [notFirst] at isKey
      rw [List.append_assoc]
      exact isKey.ends _

theorem readOn (passes : Passes record depth stage piece last) :
    ∃ count ≤ piece.length, ∀ rounds rest, (last.isFirst = false → Ends rest) →
      record.readOn depth (rounds + count) stage (piece ++ rest) = record.readOn depth rounds last rest := by
  -- A value is read up to what ends it, which is the next member if there is one, and otherwise the rest.
  induction passes with
  | done stage => exact ⟨0, Nat.le_refl _, fun rounds rest _ => rfl⟩
  | @field stage last name key value piece next field isKey found unseen spells passes ih =>
      obtain ⟨count, within, later⟩ := ih
      have longer := List.length_pos_of_ne_nil isKey.ne_nil
      refine ⟨count + 1, by simp only [List.length_append]; omega, fun rounds rest ends => ?_⟩
      have behind : Ends (piece ++ rest) := passes.ends rfl (ends (passes.notFirst rfl))
      rw [List.append_assoc, List.append_assoc, ← Nat.add_assoc, readOn_field isKey found unseen, spells _ behind]
      exact later rounds rest ends
  | @unknown stage last name key value piece isKey unknown skips passes ih =>
      obtain ⟨count, within, later⟩ := ih
      have longer := List.length_pos_of_ne_nil isKey.ne_nil
      refine ⟨count + 1, by simp only [List.length_append]; omega, fun rounds rest ends => ?_⟩
      have behind : Ends (piece ++ rest) := passes.ends rfl (ends (passes.notFirst rfl))
      rw [List.append_assoc, List.append_assoc, ← Nat.add_assoc, readOn_unknown isKey unknown, skips _ behind]
      exact later rounds rest ends

end Passes

end Record

/-! ### States that differ in one field -/

/-- A field is read the same whether or not the state was changed elsewhere, and the change is kept. -/
def Field.Spares (field : Field σ) (change : σ → σ) : Prop :=
  ∀ state depth bytes, field.change (change state) depth bytes =
    (field.change state depth bytes).map fun read => (change read.1, read.2)

theorem Field.spares_of {shape : Shape α} {store : σ → α → σ} {change : σ → σ}
    (commutes : ∀ state value, store (change state) value = change (store state value)) (name : String) :
    (Field.of name shape store).Spares change := by
  intro state depth bytes
  simp only [Field.of]
  cases shape depth bytes with
  | error fault => rfl
  | ok read => simp only [Except.map, commutes]

namespace Record

variable {record : Record σ} {depth : Nat}

def Stage.changed (stage : Stage σ) (change : σ → σ) : Stage σ :=
  { stage with state := change stage.state }

theorem Passes.changed {name : String} {change : σ → σ}
    (spares : ∀ field ∈ record.fields, field.name ≠ name → field.Spares change) {stage last : Stage σ} {piece : Bytes}
    (passes : Passes record depth stage piece last) (seen : name ∈ stage.seen) :
    Passes record depth (stage.changed change) piece (last.changed change) := by
  induction passes with
  | done stage => exact .done _
  | @field stage last other key value piece next field isKey found unseen spells _ ih =>
      have named : field.name = other := by simpa using List.find?_some found
      have different : field.name ≠ name := by
        rintro rfl
        rw [← named, List.contains_iff_mem.2 seen] at unseen
        cases unseen
      refine .field field isKey found unseen ?_ (ih (List.mem_cons_of_mem other seen))
      intro rest ends
      have read := spells rest ends
      rw [Stage.changed, spares field (List.mem_of_find?_eq_some found) different, read]
      rfl
  | unknown isKey unknown skips _ ih => exact .unknown isKey unknown skips (ih seen)

end Record

/-! ### Documents -/

/-- The text of a record in which the value of one of its fields is left open. -/
structure Document (record : Record σ) (name : String) where
  lead : Bytes
  earlier : Bytes
  key : Bytes
  gap : Bytes
  later : Bytes
  margin : Bytes
  trail : Bytes
  reached : Record.Stage σ
  last : Record.Stage σ
  isLead : AreBlank lead
  passesEarlier : record.Passes (startDepth - 1) record.start earlier reached
  isKey : IsKey reached.isFirst name key
  unseen : reached.seen.contains name = false
  isGap : AreBlank gap
  passesLater : record.Passes (startDepth - 1) (reached.beyond name reached.state) later last
  complete : record.missing? last.seen = none
  isMargin : AreBlank margin
  isTrail : AreBlank trail

namespace Document

variable {record : Record σ} {name : String} {field : Field σ}

def behind (document : Document record name) : Bytes :=
  document.later ++ (document.margin ++ 0x7D :: document.trail)

def text (document : Document record name) (value : Bytes) : Bytes :=
  document.lead ++ 0x7B :: (document.earlier ++ (document.key ++ (document.gap ++ (value ++ document.behind))))

def otherwise (document : Document record name) : σ :=
  document.last.state

theorem ends_behind (document : Document record name) : Ends document.behind := by
  exact document.passesLater.ends rfl (document.isMargin.ends (ends_brace _))

theorem readOn_earlier (document : Document record name)
    (found : record.fields.find? (fun field => field.name == name) = some field) (rest : Bytes) :
    ∃ rounds, rest.length < rounds ∧
      record.readOn (startDepth - 1) ((document.earlier ++ (document.key ++ rest)).length + 1) record.start
          (document.earlier ++ (document.key ++ rest)) =
        field.change document.reached.state (startDepth - 1) rest >>= fun read =>
          record.readOn (startDepth - 1) rounds (document.reached.beyond name read.1) read.2 := by
  obtain ⟨count, within, passed⟩ := document.passesEarlier.readOn
  have longer := List.length_pos_of_ne_nil document.isKey.ne_nil
  obtain ⟨rounds, enough, total⟩ : ∃ rounds, rest.length < rounds ∧
      (document.earlier ++ (document.key ++ rest)).length + 1 = rounds + 1 + count := by
    refine ⟨document.earlier.length + document.key.length + rest.length - count, by omega, ?_⟩
    rw [List.length_append, List.length_append]
    omega
  have isKey := document.isKey
  refine ⟨rounds, enough, ?_⟩
  rw [total, passed, Record.readOn_field isKey found document.unseen]
  intro notFirst
  rw [notFirst] at isKey
  exact isKey.ends rest

theorem parse_of_ok (document : Document record name)
    (found : record.fields.find? (fun field => field.name == name) = some field) {change : σ → σ}
    (spares : ∀ field ∈ record.fields, field.name ≠ name → field.Spares change) {value : Bytes}
    (read : field.change document.reached.state (startDepth - 1) (document.gap ++ (value ++ document.behind)) =
      .ok (change document.reached.state, document.behind)) :
    record.parse (document.text value) = .ok (change document.otherwise) := by
  obtain ⟨rounds, enough, reached⟩ := document.readOn_earlier found (document.gap ++ (value ++ document.behind))
  obtain ⟨count, within, passed⟩ := (document.passesLater.changed spares List.mem_cons_self).readOn
  -- One round is left for the closing bracket, which is a byte that no later member takes.
  obtain ⟨fewer, total⟩ : ∃ fewer, rounds = fewer + 1 + count := by
    refine ⟨rounds - count - 1, ?_⟩
    simp only [behind, List.length_append, List.length_cons] at enough
    omega
  have closed : record.readOn (startDepth - 1) rounds (document.reached.beyond name (change document.reached.state))
      document.behind = .ok (change document.otherwise, 0x7D :: document.trail) := by
    have ends := document.isMargin.ends (ends_brace document.trail)
    have complete : record.missing? (document.last.changed change).seen = none := document.complete
    rw [total, behind]
    exact (passed _ _ fun _ => ends).trans (Record.readOn_close complete document.isMargin _ _)
  refine Record.parse_of_members document.isLead document.isTrail ?_
  rw [reached, read]
  exact closed

theorem parse_of_error (document : Document record name)
    (found : record.fields.find? (fun field => field.name == name) = some field) {value : Bytes} {fault : Fault}
    (refused : field.change document.reached.state (startDepth - 1) (document.gap ++ (value ++ document.behind)) =
      .error fault) : ∃ fault, record.parse (document.text value) = .error fault := by
  obtain ⟨rounds, _, reached⟩ := document.readOn_earlier found (document.gap ++ (value ++ document.behind))
  rw [refused] at reached
  exact ⟨_, Record.parse_of_fault document.isLead reached⟩

end Document

end ObjectStore.Json
