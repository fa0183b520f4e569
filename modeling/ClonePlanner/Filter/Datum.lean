import ClonePlanner.Json.Writer

/-!
The values that filters work on: JSON trees whose numbers are machine integers, computed floats,
or decimals that are kept as they were written until something is computed from them.
-/

namespace ClonePlanner.Filter

open ClonePlanner.Json (Value)

/-- A number in a filter. -/
inductive Quantity where
  /-- An integer that fits 64 bits with sign. -/
  | integer (value : Int)
  /-- The bits of a float that was computed. -/
  | float (bits : UInt64)
  /-- A decimal as it was written. -/
  | decimal (text : List Char)
deriving BEq, DecidableEq, Inhabited, Repr

/-- A value in a filter. -/
abbrev Datum := Json.Tree Quantity

namespace Quantity

/-- Whether an integer fits 64 bits with sign, and so lies in [-2^63, 2^63). -/
def fits (value : Int) : Bool :=
  -9223372036854775808 ≤ value && value < 9223372036854775808

/-- The number of a document: what does not fit a signed integer is kept as text. -/
def ofNumber : Json.Number → Quantity
  | .integer value =>
    if fits value then .integer value else .decimal (Json.writeInteger value)
  | .float bits => .decimal (Json.floatLayout.float bits)

/-- The digits of a decimal, as one natural number, and their count. -/
def digits (text : List Char) : Nat × Nat :=
  text.foldl
    (fun (value, count) c =>
      if c.isDigit then (value * 10 + (c.toNat - '0'.toNat), count + 1) else (value, count))
    (0, 0)

/-- The exponent behind the mark of a decimal, if there is one. -/
def exponentOf (text : List Char) : Int :=
  match text.dropWhile fun c => c != 'e' && c != 'E' with
  | _ :: '-' :: rest => -((digits rest).1 : Int)
  | _ :: rest => (digits rest).1
  | [] => 0

/-- The float nearest to a decimal. Beyond the finite floats it is infinite, and closer to zero
than all others it is zero.
-/
def floatOfDecimal (text : List Char) : Float :=
  let (negative, text) := match text with
    | '-' :: rest => (true, rest)
    | _ => (false, text)
  let body := text.takeWhile fun c => c != 'e' && c != 'E'
  let fraction := body.dropWhile (· != '.')
  let (mantissa, _) := digits body
  let power := exponentOf text - (digits fraction).2
  let places : Int := (Nat.toDigits 10 mantissa).length
  let magnitude : Float :=
    if mantissa = 0 then 0.0
    else if 400 < places + power then 1.0 / 0.0
    else if places + power < -400 then 0.0
    else Float.ofScientific mantissa (power < 0) power.natAbs
  if negative then -magnitude else magnitude

/-- A number of a filter's text: an integer if it fits, else the text itself. -/
def ofText (text : List Char) : Quantity :=
  if text.all Char.isDigit && fits (digits text).1 then .integer (digits text).1
  else .decimal text

/-- The float that a number is taken for in computations with floats. -/
def toFloat : Quantity → Float
  | .integer value => Float.ofInt value
  | .float bits => Float.ofBits bits
  | .decimal text => floatOfDecimal text

/-- The layout of floats that were computed. -/
def computedLayout : Decimal.Layout where
  leastPoint := -3
  greatestPoint := 16
  signedExponent := false
  tie := .up

/-- A number as it is shown. A float that is not finite is shown as null. -/
def chars : Quantity → List Char
  | .integer value => Json.writeInteger value
  | .float bits =>
    if (Float.ofBits bits).isFinite then computedLayout.float bits else ['n', 'u', 'l', 'l']
  | .decimal text => text

/-- The order of floats: both zeros are equal, and what is not a number comes before all else. -/
def compareFloats (left right : Float) : Ordering :=
  if left == right then .eq
  else if left.isNaN then .lt
  else if right.isNaN then .gt
  else if left < right then .lt
  else .gt

def compare : Quantity → Quantity → Ordering
  | .integer left, .integer right => Ord.compare left right
  | .decimal left, .decimal right =>
    if left = right then .eq else compareFloats (floatOfDecimal left) (floatOfDecimal right)
  | left, right => compareFloats left.toFloat right.toFloat

end Quantity

namespace Datum

def ofValue (value : Value) : Datum :=
  value.mapNumbers Quantity.ofNumber

def integer (value : Int) : Datum :=
  .number (.integer value)

def chars (datum : Datum) : List Char :=
  Json.Tree.chars .compact Quantity.chars 0 datum

/-- Whether a value counts as true: all but null and false do. -/
def isTruthy : Datum → Bool
  | .null | .bool false => false
  | _ => true

def typeName : Datum → String
  | .null => "null"
  | .bool _ => "boolean"
  | .number _ => "number"
  | .string _ => "string"
  | .array _ => "array"
  | .object _ => "object"

/-- The place of a value's type in the order of types. -/
def rank : Datum → Nat
  | .null => 0
  | .bool false => 1
  | .bool true => 2
  | .number _ => 3
  | .string _ => 4
  | .array _ => 5
  | .object _ => 6

/-- Fields in the order of their keys. -/
def byKey {α : Type} (fields : List (String × α)) : List (String × α) :=
  fields.mergeSort fun left right => left.1 ≤ right.1

mutual

/-- The value with the fields of all objects in the order of their keys. -/
def sorted : Datum → Datum
  | .null => .null
  | .bool value => .bool value
  | .number value => .number value
  | .string value => .string value
  | .array items => .array (sortedItems items)
  | .object fields => .object (byKey (sortedFields fields))
termination_by structural datum => datum

/-- The items with the fields of all objects in the order of their keys. -/
def sortedItems : List Datum → List Datum
  | [] => []
  | item :: rest => sorted item :: sortedItems rest
termination_by structural items => items

/-- The fields with the fields of all objects below in the order of their keys. -/
def sortedFields : List (String × Datum) → List (String × Datum)
  | [] => []
  | (key, value) :: rest => (key, sorted value) :: sortedFields rest
termination_by structural fields => fields

end

def compareKeys : List String → List String → Ordering
  | [], [] => .eq
  | [], _ :: _ => .lt
  | _ :: _, [] => .gt
  | left :: lefts, right :: rights => (Ord.compare left right).then (compareKeys lefts rights)

mutual

/-- The order of values whose fields are in the order of their keys. -/
def compareSorted : Datum → Datum → Ordering
  | .number left, .number right => left.compare right
  | .string left, .string right => Ord.compare left right
  | .array left, .array right => compareItems left right
  | .object left, .object right =>
    (compareKeys (left.map (·.1)) (right.map (·.1))).then (compareFields left right)
  | left, right => Ord.compare left.rank right.rank
termination_by structural left => left

/-- The order of lists: item by item, and the shorter first. -/
def compareItems : List Datum → List Datum → Ordering
  | [], [] => .eq
  | [], _ :: _ => .lt
  | _ :: _, [] => .gt
  | left :: lefts, right :: rights => (compareSorted left right).then (compareItems lefts rights)
termination_by structural left => left

/-- The order of the values of two lists of fields with the same keys. -/
def compareFields : List (String × Datum) → List (String × Datum) → Ordering
  | [], [] => .eq
  | [], _ :: _ => .lt
  | _ :: _, [] => .gt
  | (_, left) :: lefts, (_, right) :: rights =>
    (compareSorted left right).then (compareFields lefts rights)
termination_by structural left => left

end

/-- The order of values: by type, then by content. Objects are ordered by their sorted keys and
then by the values of these keys.
-/
def compare (left right : Datum) : Ordering :=
  compareSorted left.sorted right.sorted

/-- Whether two values are equal; the order of fields does not matter. -/
def isEqual (left right : Datum) : Bool :=
  compare left right == .eq

mutual

/-- A value and all values in it, each before its parts. -/
def descendants : Datum → List Datum
  | .null => [.null]
  | .bool value => [.bool value]
  | .number value => [.number value]
  | .string value => [.string value]
  | .array items => .array items :: descendantItems items
  | .object fields => .object fields :: descendantFields fields
termination_by structural datum => datum

/-- The items with all values in them. -/
def descendantItems : List Datum → List Datum
  | [] => []
  | item :: rest => descendants item ++ descendantItems rest
termination_by structural items => items

/-- The values of fields with all values in them. -/
def descendantFields : List (String × Datum) → List Datum
  | [] => []
  | (_, value) :: rest => descendants value ++ descendantFields rest
termination_by structural fields => fields

end

end Datum

end ClonePlanner.Filter
