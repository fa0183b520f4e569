import ClonePlanner.Filter.Stream
import ClonePlanner.Filter.Term

/-!
Operations on values, and the steps from a value to its parts.
-/

namespace ClonePlanner.Filter

namespace Quantity

/-- An operation on numbers: exact on integers if the result fits, and on floats otherwise. -/
def compute (exact : Int → Int → Int) (inexact : Float → Float → Float)
    : Quantity → Quantity → Quantity
  | .integer left, .integer right =>
    let result := exact left right
    if fits result then .integer result
    else .float (inexact (Float.ofInt left) (Float.ofInt right)).toBits
  | left, right => .float (inexact left.toFloat right.toFloat).toBits

/-- The number with the other sign. -/
def negate : Quantity → Quantity
  | .integer value =>
    if fits (-value) then .integer (-value) else .float (-Float.ofInt value).toBits
  | number => .float (-number.toFloat).toBits

def magnitude : Quantity → Quantity
  | .integer value => .integer value.natAbs
  | number => .float number.toFloat.abs.toBits

end Quantity

namespace Datum

/-- The failure of using a value as something that it is not. -/
def refuseAs {α : Type} (datum : Datum) (expected : String) : Stream α :=
  .refuse ("cannot use ".toList ++ datum.chars ++ " as ".toList ++ expected.toList)

/-- The failure of looking something up that the value cannot hold. -/
def refuseIndex {α : Type} (datum key : Datum) : Stream α :=
  .refuse ("cannot index ".toList ++ datum.chars ++ " with ".toList ++ key.chars)

def refuseOperation (left : Datum) (symbol : Char) (right : Datum) : Stream Datum :=
  .refuse ("cannot calculate ".toList ++ left.chars ++ [' ', symbol, ' '] ++ right.chars)

/-- The value with the parts of another one added. -/
def add : Datum → Datum → Stream Datum
  | .null, right => .one right
  | left, .null => .one left
  | .number left, .number right => .one (.number (left.compute (· + ·) (· + ·) right))
  | .string left, .string right => .one (.string (left ++ right))
  | .array left, .array right => .one (.array (left ++ right))
  | .object left, .object right => .one (.object (Entries.putAll left right))
  | left, right => refuseOperation left '+' right

/-- The value less another one; from an array all equal items are removed. -/
def subtract : Datum → Datum → Stream Datum
  | .number left, .number right => .one (.number (left.compute (· - ·) (· - ·) right))
  | .array left, .array right =>
    .one (.array (left.filter fun item => !right.any (isEqual item)))
  | left, right => refuseOperation left '-' right

/-- A text repeated; nothing is left of it when the count is not positive. -/
def repeatText (text : String) (count : Int) : Datum :=
  if 0 < count then .string (String.join (List.replicate count.toNat text)) else .null

mutual

/-- The fields of two objects together. An object met by an object is merged with it; of other
values the right one is kept.
-/
def merged (left : Datum) : Datum → Datum
  | .object right =>
    match left with
    | .object fields => .object (mergedFields fields right)
    | _ => .object right
  | .null => .null
  | .bool value => .bool value
  | .number value => .number value
  | .string value => .string value
  | .array items => .array items
termination_by structural right => right

/-- Fields with other fields merged into them, in order. -/
def mergedFields (left : List (String × Datum)) : List (String × Datum) → List (String × Datum)
  | [] => left
  | (key, value) :: rest =>
    let next := match Entries.get? key left with
      | some old => merged old value
      | none => value
    mergedFields (Entries.put key next left) rest
termination_by structural right => right

end

/-- The product of values: of numbers, of a text and a count, or the merge of objects. -/
def multiply : Datum → Datum → Stream Datum
  | .number left, .number right => .one (.number (left.compute (· * ·) (· * ·) right))
  | .string text, .number (.integer count) => .one (repeatText text count)
  | .number (.integer count), .string text => .one (repeatText text count)
  | .object left, .object right => .one (.object (mergedFields left right))
  | left, right => refuseOperation left '*' right

end Datum

def Operation.apply (operation : Operation) (left right : Datum) : Stream Datum :=
  let test (holds : Bool) : Stream Datum := .one (.bool holds)
  match operation with
  | .add => left.add right
  | .subtract => left.subtract right
  | .multiply => left.multiply right
  | .equal => test (left.isEqual right)
  | .unequal => test (!left.isEqual right)
  | .less => test (left.compare right == .lt)
  | .atMost => test (left.compare right != .gt)
  | .greater => test (left.compare right == .gt)
  | .atLeast => test (left.compare right != .lt)

namespace Datum

/-- The values in a container, in order. -/
def parts : Datum → Stream Datum
  | .array items => .ofList items
  | .object fields => .ofList (Entries.values fields)
  | datum => refuseAs datum "iterable (array or object)"

/-- A position counted from the start, or from the end if it is negative. -/
def position? (index : Int) (length : Nat) : Option Nat :=
  if 0 ≤ index then some index.toNat
  else if index.natAbs ≤ length then some (length - index.natAbs)
  else none

/-- The value under a key of an object or at a position of an array; null if there is none. -/
def lookUp : Datum → Datum → Stream Datum
  | .array items, .number (.integer index) =>
    .one (((position? index items.length).bind (items[·]?)).getD .null)
  | .object fields, .string key => .one ((Entries.get? key fields).getD .null)
  | datum, key => refuseIndex datum key

def bound : Option Datum → Stream (Option Int)
  | none => .one none
  | some (.number (.integer index)) => .one (some index)
  | some datum => refuseAs datum "integer"

/-- A bound as a position between zero and the length; `default` stands for a missing one. -/
def clamp (index : Option Int) (length default : Nat) : Nat :=
  match index with
  | none => default
  | some index => min ((position? index length).getD 0) length

def sliceOf {α : Type} (items : List α) (first last : Option Int) : List α :=
  let start := clamp first items.length 0
  let stop := clamp last items.length items.length
  (items.drop start).take (stop - start)

/-- The part of an array or of a text between two bounds. -/
def slice (datum : Datum) (first last : Option Datum) : Stream Datum :=
  let within (cut : Option Int → Option Int → Datum) : Stream Datum :=
    (bound first).product (fun first last => .one (cut first last)) (bound last)
  match datum with
  | .array items => within fun first last => .array (sliceOf items first last)
  | .string text =>
    within fun first last => .string (String.ofList (sliceOf text.toList first last))
  | datum => refuseAs datum "rangeable (array or string)"

/-- The length of a value. A truth value has none. -/
def length : Datum → Stream Datum
  | .null => .one (integer 0)
  | .bool value => .refuse (chars (.bool value) ++ " has no length".toList)
  | .number value => .one (.number value.magnitude)
  | .string text => .one (integer text.length)
  | .array items => .one (integer items.length)
  | .object fields => .one (integer fields.length)

/-- The keys of an object in order, or the positions of an array. -/
def keys : Datum → Stream Datum
  | .array items => .one (.array ((List.range items.length).map fun (index : Nat) => integer index))
  | .object fields => .one (.array ((byKey fields).map fun field => .string field.1))
  | datum => refuseAs datum "iterable (array or object)"

/-- Whether a key or a position is there. -/
def has : Datum → Datum → Stream Datum
  | .object fields, .string key => .one (.bool (Entries.get? key fields).isSome)
  | .array items, .number (.integer index) =>
    if 0 ≤ index then .one (.bool (index.toNat < items.length))
    else refuseIndex (.array items) (integer index)
  | datum, key => refuseIndex datum key

/-- The number with the other sign. -/
def negate : Datum → Stream Datum
  | .number value => .one (.number value.negate)
  | datum => refuseAs datum "number"

def withField (object key value : Datum) : Stream Datum :=
  match object, key with
  | .object fields, .string name => .one (.object (Entries.put name value fields))
  | _, key => refuseAs key "string"

end Datum

/-- The outcome of a function of one value. -/
def Builtin.apply : Builtin → Datum → Stream Datum
  | .length, datum => datum.length
  | .keys, datum => datum.keys
  | .type, datum => .one (.string datum.typeName)
  | .raise, datum => .fail datum

/-- The outcome of a step with its key or bounds. -/
def Part.apply (part : Part Datum) (datum : Datum) : Stream Datum :=
  match part with
  | .index optional key => (datum.lookUp key).forgetIf optional
  | .slice optional first last => (datum.slice first last).forgetIf optional
  | .iterate optional => datum.parts.forgetIf optional

/-- The outcome of steps one after another. -/
def Part.applyAll : List (Part Datum) → Datum → Stream Datum
  | [], datum => .one datum
  | part :: rest, datum => (part.apply datum).bind (applyAll rest)

end ClonePlanner.Filter
