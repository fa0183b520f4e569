import ClonePlanner.Entries

/-!
JSON trees over any kind of number. A document is a tree whose numbers are 64-bit integers or
binary floating-point numbers; a filter works on trees with numbers of its own.
-/

namespace ClonePlanner.Json

/-- A JSON tree with numbers from `ν`; the fields of an object stand in written order. -/
inductive Tree (ν : Type) where
  | null
  | bool (value : Bool)
  | number (value : ν)
  | string (value : String)
  | array (items : List (Tree ν))
  | object (fields : List (String × Tree ν))
deriving BEq, Inhabited, Repr

/-- A number as a document holds it: an integer that fits 64 bits, signed or unsigned, or the
bits of a finite floating-point number.
-/
inductive Number where
  | integer (value : Int)
  | float (bits : UInt64)
deriving DecidableEq, Inhabited, Repr

/-- A parsed document. -/
abbrev Value := Tree Number

namespace Number

/-- The least integer that is kept exactly: -2^63. -/
def minInteger : Int := -9223372036854775808

/-- The greatest integer that is kept exactly: 2^64 - 1. -/
def maxInteger : Int := 18446744073709551615

/-- An integer in range, or any floating-point bits. -/
def InRange : Number → Prop
  | .integer value => minInteger ≤ value ∧ value ≤ maxInteger
  | .float _ => True

end Number

namespace Tree

variable {ν μ : Type}

mutual

/-- Every object in the tree has distinct keys, and every number satisfies `good`. -/
def WellFormed (good : ν → Prop) : Tree ν → Prop
  | .null | .bool _ | .string _ => True
  | .number value => good value
  | .array items => WellFormedItems good items
  | .object fields => (Entries.keys fields).Nodup ∧ WellFormedFields good fields
termination_by structural tree => tree

def WellFormedItems (good : ν → Prop) : List (Tree ν) → Prop
  | [] => True
  | item :: rest => WellFormed good item ∧ WellFormedItems good rest
termination_by structural items => items

def WellFormedFields (good : ν → Prop) : List (String × Tree ν) → Prop
  | [] => True
  | (_, value) :: rest => WellFormed good value ∧ WellFormedFields good rest
termination_by structural fields => fields

end

mutual

def mapNumbers (f : ν → μ) : Tree ν → Tree μ
  | .null => .null
  | .bool value => .bool value
  | .number value => .number (f value)
  | .string value => .string value
  | .array items => .array (mapItems f items)
  | .object fields => .object (mapFields f fields)
termination_by structural tree => tree

def mapItems (f : ν → μ) : List (Tree ν) → List (Tree μ)
  | [] => []
  | item :: rest => mapNumbers f item :: mapItems f rest
termination_by structural items => items

def mapFields (f : ν → μ) : List (String × Tree ν) → List (String × Tree μ)
  | [] => []
  | (key, value) :: rest => (key, mapNumbers f value) :: mapFields f rest
termination_by structural fields => fields

end

mutual

/-- How many arrays and objects are open at the deepest point of the tree. -/
def depth : Tree ν → Nat
  | .null | .bool _ | .number _ | .string _ => 0
  | .array items => depthItems items + 1
  | .object fields => depthFields fields + 1
termination_by structural tree => tree

def depthItems : List (Tree ν) → Nat
  | [] => 0
  | item :: rest => max (depth item) (depthItems rest)
termination_by structural items => items

/-- The greatest depth of a field's value. -/
def depthFields : List (String × Tree ν) → Nat
  | [] => 0
  | (_, value) :: rest => max (depth value) (depthFields rest)
termination_by structural fields => fields

end

end Tree

/-- A value that the reader can produce: distinct keys and integers in range. -/
abbrev Value.WellFormed (value : Value) : Prop :=
  Tree.WellFormed Number.InRange value

end ClonePlanner.Json
