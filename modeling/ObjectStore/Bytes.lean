/-!
Byte strings, and the three ways to see one as text: exactly, not at all, or with every malformed
piece replaced.
-/

namespace ObjectStore

abbrev Bytes := List UInt8

namespace Bytes

def ofText (text : String) : Bytes :=
  text.toByteArray.data.toList

def toText? (bytes : Bytes) : Option String :=
  String.fromUTF8? ⟨bytes.toArray⟩

def continuation : Nat → Nat → UInt8 → UInt8 → Bytes → Option Char × Bytes
  | 0, value, _, _, rest => (some (Char.ofNat value), rest)
  | _ + 1, _, _, _, [] => (none, [])
  | count + 1, value, lowest, highest, byte :: rest =>
      if lowest ≤ byte && byte ≤ highest then
        continuation count (value * 64 + byte.toNat % 64) 0x80 0xBF rest
      else (none, byte :: rest)

/-- The scalar that starts with a byte, or `none` for a malformed piece, and what follows it. -/
def scalar (first : UInt8) (rest : Bytes) : Option Char × Bytes :=
  if first < 0x80 then (some (Char.ofNat first.toNat), rest)
  else if first < 0xC2 then (none, rest)
  else if first < 0xE0 then continuation 1 (first.toNat - 0xC0) 0x80 0xBF rest
  else if first == 0xE0 then continuation 2 0 0xA0 0xBF rest
  else if first == 0xED then continuation 2 0xD 0x80 0x9F rest
  else if first < 0xF0 then continuation 2 (first.toNat - 0xE0) 0x80 0xBF rest
  else if first == 0xF0 then continuation 3 0 0x90 0xBF rest
  else if first < 0xF4 then continuation 3 (first.toNat - 0xF0) 0x80 0xBF rest
  else if first == 0xF4 then continuation 3 4 0x80 0x8F rest
  else (none, rest)

theorem continuation_length (count value : Nat) (lowest highest : UInt8) (bytes : Bytes) :
    (continuation count value lowest highest bytes).2.length ≤ bytes.length := by
  fun_induction continuation count value lowest highest bytes <;> grind

theorem scalar_length (first : UInt8) (rest : Bytes) :
    (scalar first rest).2.length ≤ rest.length := by
  unfold scalar
  repeat' split
  all_goals first | exact Nat.le_refl _ | exact continuation_length ..

def lossyChars : Bytes → List Char
  | [] => []
  | first :: rest =>
      match scalar first rest, scalar_length first rest with
      | (read, unread), _ => read.getD (Char.ofNat 0xFFFD) :: lossyChars unread
termination_by bytes => bytes.length
decreasing_by
  rename_i bound
  simp only [List.length_cons] at *
  omega

def toTextLossy (bytes : Bytes) : String :=
  match toText? bytes with
  | some text => text
  | none => String.ofList (lossyChars bytes)

end Bytes

end ObjectStore
