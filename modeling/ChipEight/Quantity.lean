import ChipEight.Failure

/-!
# Quantity — a setting that is a whole or a real number

Clock speeds and pixel sizes may be whole numbers of any size, or reals in double precision.  A whole
number stays one as long as it is only shown or multiplied by a whole number.

* `toFloat` — the double nearest to a quantity, if there is one;
* `scale` — a whole multiple of a quantity.
-/

namespace ChipEight

/-- A whole or a real number. -/
inductive Quantity where
  | whole (n : Int)
  | real (x : Float)
deriving DecidableEq, Repr

namespace Quantity

/-- Whether a quantity is zero or below. -/
def isNotPositive : Quantity → Bool
  | whole n => n ≤ 0
  | real x => x ≤ 0.0

/-- The double nearest to a quantity; a whole number may lie beyond all of them. -/
def toFloat : Quantity → Except Failure Float
  | whole n =>
    let x := Float.ofInt n
    if x.isInf then .error .beyondDoubles else .ok x
  | real x => .ok x

/-- A whole multiple of a quantity. -/
def scale (factor : Nat) : Quantity → Quantity
  | whole n => whole (factor * n)
  | real x => real (factor.toFloat * x)

end Quantity

end ChipEight
