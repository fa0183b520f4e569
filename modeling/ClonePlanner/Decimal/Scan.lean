/-!
Reading decimal digits into a machine word. Digits beyond the word are dropped, so a long
number is read with the precision of its first nineteen or twenty digits.
-/

namespace ClonePlanner.Decimal

/-- The digits read so far: `significand * 10 ^ exponent`, with a significand that fits 64
bits.
-/
structure Scan where
  negative : Bool
  significand : Nat
  exponent : Int
deriving DecidableEq, Inhabited, Repr

namespace Scan

/-- The greatest significand: 2^64 - 1. -/
def limit : Nat := 18446744073709551615

/-- The significand with a digit appended, if it still fits. -/
def append? (scan : Scan) (digit : Nat) : Option Nat :=
  let next := scan.significand * 10 + digit
  if next ≤ limit then some next else none

/-- The float nearest to a natural number below 2^64. -/
def ofNat (n : Nat) : Float :=
  Float.ofScientific n false 0

/-- The float nearest to a power of ten. -/
def tenTo (power : Nat) : Float :=
  Float.ofScientific 1 false power

/-- The greatest power of ten that is a finite float. -/
def greatestPower : Nat := 308

/-- The magnitude of the digits read: the significand, multiplied or divided once by a power
of ten. A divisor beyond 10^308 is split, with 10^308 first; two such divisions leave nothing
of a 64-bit significand. No float is given for a magnitude beyond the finite ones.
-/
def magnitude? (scan : Scan) : Option Float :=
  let start := ofNat scan.significand
  if 0 ≤ scan.exponent then
    let power := scan.exponent.toNat
    if power ≤ greatestPower then
      let product := start * tenTo power
      if product.isInf then none else some product
    else if scan.significand = 0 then
      some start
    else
      none
  else
    let power := scan.exponent.natAbs
    if power ≤ greatestPower then
      some (start / tenTo power)
    else if power ≤ 2 * greatestPower then
      some (start / tenTo greatestPower / tenTo (power - greatestPower))
    else
      some 0.0

/-- The bits of the float that is read, if it is finite. -/
def float? (scan : Scan) : Option UInt64 :=
  scan.magnitude?.map fun magnitude =>
    (if scan.negative then -magnitude else magnitude).toBits

/-- A zero with the sign that was read. -/
def zero (scan : Scan) : UInt64 :=
  (if scan.negative then (-0.0 : Float) else 0.0).toBits

end Scan

end ClonePlanner.Decimal
