/-!
Decimal numbers of any size, and the fewest decimal digits that identify a binary
floating-point number among its neighbours.
-/

namespace ClonePlanner.Decimal

/-- The number `coefficient * 10 ^ power`. -/
structure Scientific where
  coefficient : Nat
  power : Int
deriving DecidableEq, Inhabited, Repr

namespace Scientific

/-- The decimal digits of the coefficient, most significant first. -/
def digits (number : Scientific) : List Char :=
  Nat.toDigits 10 number.coefficient

/-- Where the decimal point stands, counted from the left of the digits: a number with point
`k` and a first digit other than zero lies in `[10 ^ (k - 1), 10 ^ k)`.
-/
def point (number : Scientific) : Int :=
  number.digits.length + number.power

/-- The same number with at most `fuel` trailing zeros moved into the power. -/
def strip : Nat → Scientific → Scientific
  | 0, number => number
  | fuel + 1, number =>
    if number.coefficient ≠ 0 ∧ number.coefficient % 10 = 0 then
      strip fuel ⟨number.coefficient / 10, number.power + 1⟩
    else
      number

end Scientific

/-- Which neighbour is taken when a number lies exactly between two grid points. -/
inductive Tie where
  | even
  | up
deriving DecidableEq, Repr

/-- A positive binary number between the ends of the reals that round to it, all three in
units of `1 / scale`. The ends round to the number too when `closed` holds.
-/
structure Interval where
  lower : Nat
  value : Nat
  upper : Nat
  scale : Nat
  closed : Bool
deriving Repr

namespace Interval

/-- The interval of the positive number `mantissa * 2 ^ exponent`. The gap below is half as
wide when `narrow` holds, which is so at the powers of two. The ends round to the even
mantissa.
-/
def ofBinary (mantissa : Nat) (exponent : Int) (narrow : Bool) : Interval :=
  let unit := Nat.pow 2 (exponent - 2).toNat
  {
    lower := (4 * mantissa - if narrow then 1 else 2) * unit
    value := 4 * mantissa * unit
    upper := (4 * mantissa + 2) * unit
    scale := Nat.pow 2 (2 - exponent).toNat
    closed := mantissa % 2 == 0
  }

/-- The weight of the leading mantissa bit, which is not written: 2^52. -/
def hiddenBit : Nat := 4503599627370496

/-- The interval of the magnitude of a finite number given by its bits: eleven exponent bits
above fifty-two fraction bits.
-/
def ofBits (bits : UInt64) : Interval :=
  let fraction := bits.toNat % hiddenBit
  let biased := bits.toNat / hiddenBit % 2048
  if biased = 0 then
    ofBinary fraction (-1074) false
  else
    ofBinary (hiddenBit + fraction) ((biased : Int) - 1075) (fraction == 0 && biased != 1)

/-- The place of the decimal point in the number. -/
def point (interval : Interval) : Int :=
  if interval.scale ≤ interval.value then
    (Nat.toDigits 10 (interval.value / interval.scale)).length
  else
    let inverse := (interval.scale + interval.value - 1) / interval.value
    1 - (Nat.toDigits 10 (inverse - 1)).length

/-- Whether `coefficient * 10 ^ power` rounds to the number. -/
def Contains (interval : Interval) (number : Scientific) : Prop :=
  let point := number.coefficient * interval.scale * Nat.pow 10 number.power.toNat
  let widen := Nat.pow 10 (-number.power).toNat
  if interval.closed then
    interval.lower * widen ≤ point ∧ point ≤ interval.upper * widen
  else
    interval.lower * widen < point ∧ point < interval.upper * widen

instance (interval : Interval) (number : Scientific) : Decidable (interval.Contains number) := by
  unfold Contains
  exact inferInstance

/-- The nearest point of the grid of multiples of `10 ^ power` that rounds to the number, if
one does.
-/
def onGrid? (tie : Tie) (interval : Interval) (power : Int) : Option Scientific :=
  let exact := interval.value * Nat.pow 10 (-power).toNat
  let unit := interval.scale * Nat.pow 10 power.toNat
  let below := exact / unit
  let low : Scientific := ⟨below, power⟩
  let high : Scientific := ⟨below + 1, power⟩
  if interval.Contains low then
    if interval.Contains high then
      let left := exact - below * unit
      let right := (below + 1) * unit - exact
      if left < right then some low
      else if right < left then some high
      else match tie with
        | .up => some high
        | .even => some (if below % 2 = 0 then low else high)
    else
      some low
  else if interval.Contains high then
    some high
  else
    none

/-- The decimal with the fewest digits that rounds to the number; of several, the nearest.
Seventeen digits always suffice.
-/
def shortest (tie : Tie) (interval : Interval) : Scientific :=
  let found := (List.range 17).findSome? fun (n : Nat) =>
    interval.onGrid? tie (interval.point - (n + 1 : Nat))
  (found.getD ⟨interval.value, 0⟩).strip 20

end Interval

end ClonePlanner.Decimal
