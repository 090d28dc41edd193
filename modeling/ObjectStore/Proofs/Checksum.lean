import ObjectStore.Proofs.Decoding

/-!
The text of a checksum. Base64 is told once more with numbers: three bytes are the digits of a number to base 256,
and their text has its four digits to base 64. A checksum is the number of its four bytes, so that it has exactly
one text; any other text is refused, and the refusal tells a wrong number of bytes from what is no base64.
-/

namespace ObjectStore

namespace Base64

/-! ### Base64 by numbers -/

def alphabet : List Char :=
  "ABCDEFGHIJKLMNOPQRSTUVWXYZabcdefghijklmnopqrstuvwxyz0123456789+/".toList

def digits (number : Nat) : Nat → List Char
  | 0 => []
  | count + 1 => digits (number / 64) count ++ [alphabet.getD (number % 64) '=']

def spelling : Bytes → List Char
  | [] => []
  | [a] => digits (a.toNat * 16) 2 ++ ['=', '=']
  | [a, b] => digits ((a.toNat * 256 + b.toNat) * 4) 3 ++ ['=']
  | a :: b :: c :: rest => digits ((a.toNat * 256 + b.toNat) * 256 + c.toNat) 4 ++ spelling rest

theorem digits_two (number : Nat) : digits number 2 =
    [alphabet.getD (number / 64 % 64) '=', alphabet.getD (number % 64) '='] :=
  rfl

theorem digits_three (number : Nat) : digits number 3 = alphabet.getD (number / 64 / 64 % 64) '=' :: digits number 2 :=
  rfl

theorem digits_four (number : Nat) :
    digits number 4 = alphabet.getD (number / 64 / 64 / 64 % 64) '=' :: digits number 3 :=
  rfl

theorem char_symbol {value : UInt8} (small : value.toNat < 64) :
    Char.ofNat (symbol value).toNat = alphabet.getD value.toNat '=' := by
  have each : ∀ number < 64,
      Char.ofNat (symbol (UInt8.ofNat number)).toNat = alphabet.getD number '=' := by decide +kernel
  have found := each value.toNat small
  rwa [UInt8.ofNat_toNat] at found

theorem and_three (number : Nat) : number &&& 3 = number % 4 :=
  Nat.and_two_pow_sub_one_eq_mod number 2

theorem toNat_firstSextet (a : UInt8) : (firstSextet a).toNat = a.toNat / 4 := by
  rw [firstSextet, UInt8.toNat_shiftRight]
  exact Nat.shiftRight_eq_div_pow a.toNat 2

theorem toNat_secondSextet (a b : UInt8) : (secondSextet a b).toNat = a.toNat % 4 * 16 + b.toNat / 16 := by
  have isByte := b.toNat_lt
  have low : b.toNat / 16 < 2 ^ 4 := by omega
  have high : (a.toNat % 4) <<< 4 % 2 ^ 8 = (a.toNat % 4) <<< 4 := by
    rw [Nat.shiftLeft_eq]
    omega
  have shifted : b.toNat >>> 4 = b.toNat / 16 := Nat.shiftRight_eq_div_pow b.toNat 4
  simp only [secondSextet, UInt8.toNat_or, UInt8.toNat_shiftLeft, UInt8.toNat_and, UInt8.toNat_shiftRight,
    UInt8.reduceToNat, Nat.reduceMod, and_three, high, shifted]
  rw [← Nat.shiftLeft_add_eq_or_of_lt low, Nat.shiftLeft_eq]

theorem toNat_thirdSextet (b c : UInt8) : (thirdSextet b c).toNat = b.toNat % 16 * 4 + c.toNat / 64 := by
  have isByte := c.toNat_lt
  have low : c.toNat / 64 < 2 ^ 2 := by omega
  have high : (b.toNat % 16) <<< 2 % 2 ^ 8 = (b.toNat % 16) <<< 2 := by
    rw [Nat.shiftLeft_eq]
    omega
  have shifted : c.toNat >>> 6 = c.toNat / 64 := Nat.shiftRight_eq_div_pow c.toNat 6
  have masked : b.toNat &&& 15 = b.toNat % 16 := Nat.and_two_pow_sub_one_eq_mod b.toNat 4
  simp only [thirdSextet, UInt8.toNat_or, UInt8.toNat_shiftLeft, UInt8.toNat_and, UInt8.toNat_shiftRight,
    UInt8.reduceToNat, Nat.reduceMod, masked, high, shifted]
  rw [← Nat.shiftLeft_add_eq_or_of_lt low, Nat.shiftLeft_eq]

theorem toNat_fourthSextet (c : UInt8) : (fourthSextet c).toNat = c.toNat % 64 := by
  rw [fourthSextet, UInt8.toNat_and]
  exact Nat.and_two_pow_sub_one_eq_mod c.toNat 6

section Group

variable (a b c : UInt8)

theorem chars_sextets :
    Char.ofNat (symbol (firstSextet a)).toNat = alphabet.getD (a.toNat / 4) '=' ∧
    Char.ofNat (symbol (secondSextet a b)).toNat = alphabet.getD (a.toNat % 4 * 16 + b.toNat / 16) '=' ∧
    Char.ofNat (symbol (thirdSextet b c)).toNat = alphabet.getD (b.toNat % 16 * 4 + c.toNat / 64) '=' ∧
    Char.ofNat (symbol (fourthSextet c)).toNat = alphabet.getD (c.toNat % 64) '=' := by
  obtain ⟨first, second, third, fourth⟩ := sextets_lt a b c
  rw [char_symbol first, char_symbol second, char_symbol third, char_symbol fourth, toNat_firstSextet,
    toNat_secondSextet, toNat_thirdSextet, toNat_fourthSextet]
  exact ⟨rfl, rfl, rfl, rfl⟩

end Group

theorem toList_encode (bytes : Bytes) : (encode bytes).toList = spelling bytes := by
  rw [encode, String.toList_ofList]
  induction bytes using encodeBytes.induct with
  | case1 => rfl
  -- A group that is not full has the sextets of one that is filled up with zeros.
  | case2 a =>
      obtain ⟨first, second, _, _⟩ := chars_sextets a 0 0
      have isByte := a.toNat_lt
      have high : a.toNat * 16 / 64 % 64 = a.toNat / 4 := by omega
      have low : a.toNat * 16 % 64 = a.toNat % 4 * 16 + (0 : UInt8).toNat / 16 := by
        rw [UInt8.toNat_zero]
        omega
      simp only [encodeBytes_one, List.map_cons, List.map_nil, first, second, spelling, digits_two, high, low]
      rfl
  | case3 a b =>
      obtain ⟨first, second, third, _⟩ := chars_sextets a b 0
      have isByte := a.toNat_lt
      have isOther := b.toNat_lt
      have high : (a.toNat * 256 + b.toNat) * 4 / 64 / 64 % 64 = a.toNat / 4 := by omega
      have middle : (a.toNat * 256 + b.toNat) * 4 / 64 % 64 = a.toNat % 4 * 16 + b.toNat / 16 := by omega
      have low : (a.toNat * 256 + b.toNat) * 4 % 64 = b.toNat % 16 * 4 + (0 : UInt8).toNat / 64 := by
        rw [UInt8.toNat_zero]
        omega
      simp only [encodeBytes_two, List.map_cons, List.map_nil, first, second, third, spelling, digits_three, digits_two,
        high, middle, low]
      rfl
  | case4 a b c rest ih =>
      obtain ⟨first, second, third, fourth⟩ := chars_sextets a b c
      have isFirst := a.toNat_lt
      have isSecond := b.toNat_lt
      have isThird := c.toNat_lt
      generalize isNumber : (a.toNat * 256 + b.toNat) * 256 + c.toNat = number
      have digitOne : number / 64 / 64 / 64 % 64 = a.toNat / 4 := by omega
      have digitTwo : number / 64 / 64 % 64 = a.toNat % 4 * 16 + b.toNat / 16 := by omega
      have digitThree : number / 64 % 64 = b.toNat % 16 * 4 + c.toNat / 64 := by omega
      have digitFour : number % 64 = c.toNat % 64 := by omega
      simp only [encodeBytes_three, List.map_cons, first, second, third, fourth, ih, spelling, isNumber, digits_four,
        digits_three, digits_two, digitOne, digitTwo, digitThree, digitFour]
      rfl

theorem eq_encode_iff {text : String} {bytes : Bytes} : text = encode bytes ↔ text.toList = spelling bytes := by
  rw [← toList_encode, String.toList_inj]

end Base64

/-! ### Checksums -/

namespace Crc32c

/-- The base64 text of four bytes that are the digits of the checksum to base 256. -/
def IsText (text : String) (checksum : UInt32) : Prop :=
  ∃ first second third fourth : UInt8, text.toList = Base64.spelling [first, second, third, fourth] ∧
    checksum.toNat = ((first.toNat * 256 + second.toNat) * 256 + third.toNat) * 256 + fourth.toNat

theorem toNat_toBytes (checksum : UInt32) : (toBytes checksum).map UInt8.toNat =
    [checksum.toNat / 2 ^ 24, checksum.toNat / 2 ^ 16 % 256, checksum.toNat / 2 ^ 8 % 256, checksum.toNat % 256] := by
  have inRange := checksum.toNat_lt
  have top : checksum.toNat / 2 ^ 24 % 256 = checksum.toNat / 2 ^ 24 := by omega
  simp only [toBytes, List.map_cons, List.map_nil, UInt32.toNat_toUInt8, UInt32.toNat_shiftRight, UInt32.reduceToNat,
    Nat.reduceMod, Nat.shiftRight_eq_div_pow, Nat.reducePow] at top ⊢
  rw [top]

theorem toBytes_eq_iff {checksum : UInt32} {first second third fourth : UInt8} :
    toBytes checksum = [first, second, third, fourth] ↔
      checksum.toNat = ((first.toNat * 256 + second.toNat) * 256 + third.toNat) * 256 + fourth.toNat := by
  have inRange := checksum.toNat_lt
  have isFirst := first.toNat_lt
  have isSecond := second.toNat_lt
  have isThird := third.toNat_lt
  have isFourth := fourth.toNat_lt
  have injective : Function.Injective UInt8.toNat := fun _ _ => UInt8.toNat_inj.1
  rw [← (List.map_injective_iff.2 injective).eq_iff, toNat_toBytes]
  simp only [List.map_cons, List.map_nil, List.cons.injEq, and_true]
  omega

theorem isText_iff {text : String} {checksum : UInt32} :
    IsText text checksum ↔ text = Base64.encode (toBytes checksum) := by
  rw [Base64.eq_encode_iff]
  constructor
  · rintro ⟨first, second, third, fourth, spelled, number⟩
    rw [toBytes_eq_iff.2 number, spelled]
  · intro spelled
    exact ⟨_, _, _, _, spelled, toBytes_eq_iff.1 rfl⟩

end Crc32c

theorem field_of_decodeChecksum {text : String} {error : DecodeError} (refused : decodeChecksum text = .error error) :
    error.field = .crc32c := by
  have failed : Resource.check { crc32c := text } .crc32c = .error error := by
    rw [Resource.check, refused]
    rfl
  exact Resource.field_of_check failed

theorem decodeChecksum_eq_length_iff {text : String} {length : Nat} :
    decodeChecksum text = .error (.checksumLength length) ↔
      ∃ bytes : Bytes, text.toList = Base64.spelling bytes ∧ bytes.length = length ∧ length ≠ 4 := by
  constructor
  · intro refused
    rcases bind_eq_error_iff.1 refused with notBase64 | ⟨bytes, isBase64, notFour⟩
    · unfold decodeBase64 at notBase64
      cases read : Base64.decode text <;> rw [read] at notBase64 <;> cases notBase64
    · refine ⟨bytes, Base64.eq_encode_iff.1 (decodeBase64_eq_ok_iff.1 isBase64), ?_⟩
      split at notFour
      · cases notFour
      · rename_i others
        cases notFour
        refine ⟨rfl, fun four => ?_⟩
        obtain ⟨first, second, third, fourth, same⟩ := List.length_eq_four.1 four
        exact others first second third fourth same
  · rintro ⟨bytes, spelled, rfl, notFour⟩
    have isBase64 : decodeBase64 .crc32c text = .ok bytes :=
      decodeBase64_eq_ok_iff.2 (Base64.eq_encode_iff.2 spelled)
    refine bind_eq_error_iff.2 (Or.inr ⟨bytes, isBase64, ?_⟩)
    split
    · exact absurd rfl notFour
    · rfl

/-- A checksum has one text, the base64 of its four bytes with the most significant first, and that is the one which
a stored object is shown with. Any other text is refused under the name of the field, and for the number of its bytes
exactly if it is base64 of another number of them. -/
theorem checksums_have_one_text :
    (∀ text checksum, decodeChecksum text = .ok checksum ↔ Crc32c.IsText text checksum) ∧
    (∀ checksum, ∃! text, decodeChecksum text = .ok checksum) ∧
    (∀ bucket name (object : StoredObject),
      Crc32c.IsText (object.toResource bucket name).crc32c (Crc32c.checksum object.contents)) ∧
    (∀ text, (∃ error, decodeChecksum text = .error error ∧ error.field = .crc32c ∧
        "crc32c".toList <:+: error.message.toList) ↔ ¬∃ checksum, Crc32c.IsText text checksum) ∧
    ∀ text length, decodeChecksum text = .error (.checksumLength length) ↔
      ∃ bytes : Bytes, text.toList = Base64.spelling bytes ∧ bytes.length = length ∧ length ≠ 4 := by
  have decoded (text : String) (checksum : UInt32) :
      decodeChecksum text = .ok checksum ↔ Crc32c.IsText text checksum := by
    rw [decodeChecksum_eq_ok_iff, Crc32c.isText_iff]
  refine ⟨decoded, fun checksum => ?_, fun bucket name object => Crc32c.isText_iff.2 rfl, fun text => ?_,
    fun text length => decodeChecksum_eq_length_iff⟩
  · refine ⟨_, decodeChecksum_encode checksum, fun text read => ?_⟩
    exact decodeChecksum_eq_ok_iff.1 read
  · constructor
    · rintro ⟨error, refused, -⟩ ⟨checksum, isText⟩
      rw [(decoded text checksum).2 isText] at refused
      cases refused
    · intro noText
      cases read : decodeChecksum text with
      | ok checksum => exact absurd ⟨checksum, (decoded text checksum).1 read⟩ noText
      | error error =>
          have named := error.name_in_message
          have field := field_of_decodeChecksum read
          rw [field] at named
          exact ⟨error, rfl, field, named⟩

example : decodeChecksum "AQIDBA==" = .ok 0x01020304 ∧ decodeChecksum "AQID" = .error (.checksumLength 3) := by
  decide

end ObjectStore
