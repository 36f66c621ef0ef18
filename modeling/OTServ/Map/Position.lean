import Mathlib.Data.UInt

/-!
# Map positions

`Position` of `position.h`: three unsigned 16-bit coordinates, compared by
equality and by distance on each axis.
-/

namespace OTServ.Map

structure Position where
  x : UInt16
  y : UInt16
  z : UInt16
deriving DecidableEq

def axisDistance (left right : UInt16) : Nat :=
  (left.toNat - right.toNat : Int).natAbs

/-- `Position::areInRange<deltax, deltay, deltaz>`. -/
def areInRange (deltax deltay deltaz : Nat) (left right : Position) : Bool :=
  axisDistance left.x right.x ≤ deltax &&
    axisDistance left.y right.y ≤ deltay && axisDistance left.z right.z ≤ deltaz

end OTServ.Map
