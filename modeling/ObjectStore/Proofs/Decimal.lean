import ObjectStore.Text.Decimal

/-!
Decimal text of an integer reads back as that integer, so that different integers have different texts. What is
read at all is a sign that may be missing, and digits.
-/

namespace ObjectStore.Decimal

theorem digit?_of_isDigit {character : Char} (isDigit : character.isDigit = true) :
    digit? character = some (character.toNat - '0'.toNat) := by
  have bounds : '0' ≤ character ∧ character ≤ '9' := by
    simpa [Char.isDigit, Char.le_def, UInt32.le_iff_toNat_le] using isDigit
  simp [digit?, bounds]

theorem digitsFrom_eq_ofDigitChars (characters : List Char) (value : Nat)
    (areDigits : ∀ character ∈ characters, character.isDigit = true) :
    digitsFrom value characters = some (Nat.ofDigitChars 10 characters value) := by
  induction characters generalizing value with
  | nil => simp [digitsFrom]
  | cons character rest ih =>
      rw [digitsFrom, digit?_of_isDigit (areDigits character (by simp)), Nat.ofDigitChars_cons]
      dsimp only
      rw [ih _ fun other member => areDigits other (by simp [member]), Nat.mul_comm]

theorem toDigits_cons (number : Nat) :
    ∃ first rest, Nat.toDigits 10 number = first :: rest ∧ first.isDigit = true := by
  cases digits : Nat.toDigits 10 number with
  | nil => simp at digits
  | cons first rest =>
      have isDigit := Nat.isDigit_of_mem_toDigits (c := first) (b := 10) (n := number)
        (by decide) (by decide) (by simp [digits])
      exact ⟨first, rest, rfl, isDigit⟩

theorem repr_ne_empty (number : Nat) : number.repr ≠ "" := by
  intro same
  have characters := congrArg String.toList same
  simp at characters

theorem ne_of_isDigit {character other : Char} (isDigit : character.isDigit = true)
    (notDigit : other.isDigit = false) : character ≠ other := by
  intro same
  rw [same, notDigit] at isDigit
  cases isDigit

theorem magnitude?_toDigits (number : Nat) : magnitude? (Nat.toDigits 10 number) = some number := by
  have read := digitsFrom_eq_ofDigitChars (Nat.toDigits 10 number) 0 fun _ member =>
    Nat.isDigit_of_mem_toDigits (by decide) (by decide) member
  rw [Nat.ofDigitChars_ten_toDigits] at read
  obtain ⟨first, rest, digits, _⟩ := toDigits_cons number
  rw [digits] at read ⊢
  exact read

theorem natural?_toDigits (number : Nat) : natural? (Nat.toDigits 10 number) = some number := by
  have read := magnitude?_toDigits number
  obtain ⟨first, rest, digits, isDigit⟩ := toDigits_cons number
  rw [digits] at read ⊢
  unfold natural?
  split
  · rename_i same
    exact absurd (List.cons.inj same).1 (ne_of_isDigit isDigit (by decide))
  · exact read

theorem integer?_toDigits (number : Nat) : integer? (Nat.toDigits 10 number) = some (number : Int) := by
  have read := natural?_toDigits number
  obtain ⟨first, rest, digits, isDigit⟩ := toDigits_cons number
  rw [digits] at read ⊢
  unfold integer?
  split
  · rename_i same
    exact absurd (List.cons.inj same).1 (ne_of_isDigit isDigit (by decide))
  · simp [read]

theorem integer?_repr (number : Int) : integer? number.repr.toList = some number := by
  rw [Int.repr_eq_if]
  split
  · rename_i positive
    rw [Nat.toList_repr, integer?_toDigits, Int.toNat_of_nonneg positive]
  · rename_i negative
    have minus : ("-" ++ (-number).toNat.repr).toList = '-' :: Nat.toDigits 10 (-number).toNat := by
      simp
    have size : ((-number).toNat : Int) = -number := Int.toNat_of_nonneg (by omega)
    simp [minus, integer?, magnitude?_toDigits, size]

theorem unsigned?_repr {width number : Nat} (fits : number < Width.bound width) :
    unsigned? width number.repr = some number := by
  have inRange : Width.fits width number = true := by simpa [Width.fits] using fits
  simp [unsigned?, natural?_toDigits, inRange]

theorem signed?_repr {width : Nat} {number : Int} (fits : Width.fitsSigned width number = true) :
    signed? width number.repr = some number := by
  simp [signed?, integer?_repr, fits]

theorem signed?_toInt (number : Int64) : signed? 64 number.toInt.repr = some number.toInt := by
  apply signed?_repr
  have lower := number.le_toInt
  have upper := number.toInt_lt
  have size : (Width.bound (64 - 1) : Int) = 2 ^ 63 := rfl
  rw [Width.fitsSigned, size]
  simp only [Bool.and_eq_true, decide_eq_true_eq]
  omega

theorem repr_injective {left right : Nat} (same : left.repr = right.repr) : left = right := by
  have read := natural?_toDigits left
  rw [← Nat.toList_repr, same, Nat.toList_repr, natural?_toDigits] at read
  exact (Option.some.inj read).symm

/-! ### Spellings -/

def Spells (characters : List Char) (value : Nat) : Prop :=
  characters ≠ [] ∧ (∀ character ∈ characters, character.isDigit = true) ∧ Nat.ofDigitChars 10 characters 0 = value

def IsNatural (text : String) (value : Nat) : Prop :=
  Spells text.toList value ∨ ∃ digits, text.toList = '+' :: digits ∧ Spells digits value

def IsInteger (text : String) (value : Int) : Prop :=
  (∃ magnitude, IsNatural text magnitude ∧ value = magnitude) ∨
    ∃ digits magnitude, text.toList = '-' :: digits ∧ Spells digits magnitude ∧ value = -magnitude

theorem isDigit_of_digit? {character : Char} {digit : Nat} (read : digit? character = some digit) :
    character.isDigit = true := by
  unfold digit? at read
  split at read
  · rename_i bounds
    simpa [Char.isDigit, Char.le_def, UInt32.le_iff_toNat_le] using bounds
  · cases read

theorem areDigits_of_digitsFrom {characters : List Char} {value result : Nat}
    (read : digitsFrom value characters = some result) : ∀ character ∈ characters, character.isDigit = true := by
  induction characters generalizing value with
  | nil => exact List.forall_mem_nil _
  | cons first rest ih =>
      rw [digitsFrom] at read
      split at read
      · rename_i digit isDigit
        exact List.forall_mem_cons.2 ⟨isDigit_of_digit? isDigit, ih read⟩
      · cases read

theorem magnitude?_eq_some_iff {characters : List Char} {value : Nat} :
    magnitude? characters = some value ↔ Spells characters value := by
  cases characters with
  | nil => simp [magnitude?, Spells]
  | cons first rest =>
      constructor
      · intro read
        have areDigits := areDigits_of_digitsFrom read
        rw [magnitude?, digitsFrom_eq_ofDigitChars _ _ areDigits, Option.some.injEq] at read
        · exact ⟨List.cons_ne_nil _ _, areDigits, read⟩
        · exact List.cons_ne_nil _ _
      · rintro ⟨_, areDigits, spelled⟩
        rw [magnitude?, digitsFrom_eq_ofDigitChars _ _ areDigits, spelled]
        exact List.cons_ne_nil _ _

theorem Spells.ne_sign {character : Char} {rest : List Char} {value : Nat} (spells : Spells (character :: rest) value) :
    character ≠ '+' ∧ character ≠ '-' := by
  have isDigit := spells.2.1 character List.mem_cons_self
  exact ⟨ne_of_isDigit isDigit (by decide), ne_of_isDigit isDigit (by decide)⟩

theorem natural?_eq_some_iff {text : String} {value : Nat} :
    natural? text.toList = some value ↔ IsNatural text value := by
  unfold natural? IsNatural
  split
  · rename_i rest signed
    rw [magnitude?_eq_some_iff, signed]
    constructor
    · exact fun spells => Or.inr ⟨rest, rfl, spells⟩
    · rintro (spells | ⟨digits, same, spells⟩)
      · exact absurd rfl spells.ne_sign.1
      · cases same
        exact spells
  · rename_i unsigned
    rw [magnitude?_eq_some_iff]
    constructor
    · exact Or.inl
    · rintro (spells | ⟨digits, same, _⟩)
      · exact spells
      · exact absurd same (unsigned digits)

theorem integer?_eq_some_iff {text : String} {value : Int} :
    integer? text.toList = some value ↔ IsInteger text value := by
  unfold integer? IsInteger
  split
  · rename_i rest negative
    rw [Option.map_eq_some_iff]
    constructor
    · rintro ⟨_, read, rfl⟩
      obtain ⟨magnitude, isMagnitude, same⟩ := Option.bind_eq_some_iff.1 read
      cases same
      exact Or.inr ⟨rest, magnitude, negative, magnitude?_eq_some_iff.1 isMagnitude, rfl⟩
    · rintro (⟨magnitude, spells | ⟨digits, positive, _⟩, rfl⟩ | ⟨digits, magnitude, same, spells, rfl⟩)
      · rw [negative] at spells
        exact absurd rfl spells.ne_sign.2
      · rw [negative] at positive
        cases positive
      · cases negative.symm.trans same
        exact ⟨magnitude, Option.bind_eq_some_iff.2 ⟨magnitude, magnitude?_eq_some_iff.2 spells, rfl⟩, rfl⟩
  · rename_i notNegative
    rw [Option.map_eq_some_iff]
    constructor
    · rintro ⟨_, read, rfl⟩
      obtain ⟨magnitude, isMagnitude, same⟩ := Option.bind_eq_some_iff.1 read
      cases same
      exact Or.inl ⟨magnitude, natural?_eq_some_iff.1 isMagnitude, rfl⟩
    · rintro (⟨magnitude, isNatural, rfl⟩ | ⟨digits, _, same, _⟩)
      · exact ⟨magnitude, Option.bind_eq_some_iff.2 ⟨magnitude, natural?_eq_some_iff.2 isNatural, rfl⟩, rfl⟩
      · exact absurd same (notNegative digits)

theorem unsigned?_eq_some_iff {width : Nat} {text : String} {value : Nat} :
    unsigned? width text = some value ↔ IsNatural text value ∧ value < Width.bound width := by
  rw [unsigned?, Option.filter_eq_some_iff, natural?_eq_some_iff]
  simp only [Width.fits, Bool.and_eq_true, decide_eq_true_eq]
  refine and_congr_right fun _ => ?_
  omega

theorem signed?_eq_some_iff {width : Nat} {text : String} {value : Int} : signed? width text = some value ↔
    IsInteger text value ∧ -(Width.bound (width - 1) : Int) ≤ value ∧ value < Width.bound (width - 1) := by
  rw [signed?, Option.filter_eq_some_iff, integer?_eq_some_iff]
  simp only [Width.fitsSigned, Bool.and_eq_true, decide_eq_true_eq]

end ObjectStore.Decimal
