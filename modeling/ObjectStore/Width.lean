/-!
Which integers fit a number of bits.
-/

namespace ObjectStore.Width

/-- The first natural number that so many bits do not hold. -/
def bound (width : Nat) : Nat :=
  Nat.pow 2 width

def fits (width : Nat) (value : Int) : Bool :=
  0 ≤ value && value < (bound width : Int)

def fitsSigned (width : Nat) (value : Int) : Bool :=
  -(bound (width - 1) : Int) ≤ value && value < (bound (width - 1) : Int)

end ObjectStore.Width
