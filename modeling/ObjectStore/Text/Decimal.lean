import ObjectStore.Width

/-!
Decimal text of integers: an optional sign, at least one digit and nothing else, within a range.
-/

namespace ObjectStore.Decimal

def digit? (character : Char) : Option Nat :=
  if '0' ≤ character && character ≤ '9' then some (character.toNat - '0'.toNat) else none

def digitsFrom (value : Nat) : List Char → Option Nat
  | [] => some value
  | character :: rest =>
      match digit? character with
      | some digit => digitsFrom (value * 10 + digit) rest
      | none => none

def magnitude? : List Char → Option Nat
  | [] => none
  | characters => digitsFrom 0 characters

def natural? : List Char → Option Nat
  | '+' :: rest => magnitude? rest
  | characters => magnitude? characters

def integer? : List Char → Option Int
  | '-' :: rest => (magnitude? rest).map fun value => -(value : Int)
  | characters => (natural? characters).map fun value => (value : Int)

def unsigned? (width : Nat) (text : String) : Option Nat :=
  (natural? text.toList).filter fun value => Width.fits width value

def signed? (width : Nat) (text : String) : Option Int :=
  (integer? text.toList).filter (Width.fitsSigned width)

end ObjectStore.Decimal
