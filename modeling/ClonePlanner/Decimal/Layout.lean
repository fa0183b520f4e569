import ClonePlanner.Decimal.Scientific

/-!
How a floating-point number is written: positionally in a middle range, and with one digit
before the point and an exponent outside it.
-/

namespace ClonePlanner.Decimal

/-- The choices of a written form. -/
structure Layout where
  /-- The least place of the decimal point that is written positionally. -/
  leastPoint : Int
  /-- The greatest place of the decimal point that is written positionally. -/
  greatestPoint : Int
  /-- Whether a positive exponent has a sign. -/
  signedExponent : Bool
  /-- How a number halfway between two shortest decimals is resolved. -/
  tie : Tie

namespace Layout

def exponent (layout : Layout) (value : Int) : List Char :=
  let sign := if value < 0 then ['-'] else if layout.signedExponent then ['+'] else []
  sign ++ Nat.toDigits 10 value.natAbs

/-- Digits with the decimal point at `point`, with at least one digit on each side. -/
def positional (digits : List Char) (point : Int) : List Char :=
  if point ≤ 0 then
    ['0', '.'] ++ List.replicate (-point).toNat '0' ++ digits
  else
    let places := point.toNat
    if digits.length ≤ places then
      digits ++ List.replicate (places - digits.length) '0' ++ ['.', '0']
    else
      digits.take places ++ ['.'] ++ digits.drop places

/-- A positive decimal in written form. -/
def decimal (layout : Layout) (number : Scientific) : List Char :=
  let digits := number.digits
  let point := number.point
  if layout.leastPoint ≤ point ∧ point ≤ layout.greatestPoint then
    positional digits point
  else
    let head := match digits.drop 1 with
      | [] => digits
      | fraction => digits.take 1 ++ ['.'] ++ fraction
    head ++ ['e'] ++ layout.exponent (point - 1)

/-- The weight of the sign bit: 2^63. -/
def signBit : Nat := 9223372036854775808

/-- A finite floating-point number in written form: the shortest decimal that reads back, with
a sign when the sign bit is set. Both zeros have the digits of `0.0`.
-/
def float (layout : Layout) (bits : UInt64) : List Char :=
  let sign := if bits.toNat < signBit then [] else ['-']
  let magnitude := bits.toNat % signBit
  if magnitude = 0 then
    sign ++ ['0', '.', '0']
  else
    sign ++ layout.decimal ((Interval.ofBits bits).shortest layout.tie)

end Layout

end ClonePlanner.Decimal
