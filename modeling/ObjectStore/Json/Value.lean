import ObjectStore.Dictionary

/-!
JSON values. The members of an object that was read are in ascending order of their names.
-/

namespace ObjectStore.Json

/-- An integer of 64 bits, or a number with its decimal point and exponent worked into a power of ten. -/
inductive Number where
  | integer (value : Int)
  | decimal (isNegative : Bool) (significand : Nat) (exponent : Int)
deriving DecidableEq, Repr

inductive Value where
  | null
  | boolean (value : Bool)
  | number (number : Number)
  | string (text : String)
  | array (items : List Value)
  | object (members : List (String × Value))
deriving Repr, BEq, Inhabited

end ObjectStore.Json
