import ClonePlanner.Decoding.Problem
import ClonePlanner.Model.Named

/-!
Decoding values without parts of their own, lists of parts, and names from a fixed choice.
-/

namespace ClonePlanner.Decoding

open ClonePlanner.Json (Value)

variable {α : Type}

/-- How a value reached the decoder: straight from its document, or set aside while the kind of
the value around it was not known yet.
-/
inductive Setting where
  | direct
  | setAside
deriving DecidableEq, Repr

def text : Value → Decoded String
  | .string value => .ok value
  | value => wrongType value "a string"

def flag : Value → Decoded Bool
  | .bool value => .ok value
  | value => wrongType value "a boolean"

/-- A natural number below 2^32. -/
def word32 : Value → Decoded UInt32
  | .number (.integer value) =>
    if 0 ≤ value ∧ value < 4294967296 then
      .ok (UInt32.ofNat value.toNat)
    else
      .error (.here (.wrongValue (.integer value) "u32"))
  | value => wrongType value "u32"

/-- Items decoded in order; the first problem is the outcome. The first item has the given
index.
-/
def items (decode : Value → Decoded α) : Nat → List Value → Decoded (List α)
  | _, [] => .ok []
  | index, item :: rest =>
    match (decode item).under (.index index) with
    | .error problem => .error problem
    | .ok first => (items decode (index + 1) rest).map (first :: ·)

def list (decode : Value → Decoded α) : Value → Decoded (List α)
  | .array values => items decode 0 values
  | value => wrongType value "a sequence"

/-- Fields decoded in order; the first problem is the outcome. -/
def fieldValues (decode : Value → Decoded α) : List (String × Value) → Decoded (Entries α)
  | [] => .ok []
  | (key, value) :: rest =>
    match (decode value).under (.key key) with
    | .error problem => .error problem
    | .ok first => (fieldValues decode rest).map ((key, first) :: ·)

/-- Whether a value may stand beside a name that carries no data: null, and where the value was
set aside also an object without fields.
-/
def isNothing : Setting → Value → Bool
  | _, .null => true
  | .setAside, .object [] => true
  | _, _ => false

/-- The value of a fixed choice that a name stands for. -/
def choiceName [Named α] (name : String) : Decoded α :=
  match Named.ofName? name with
  | some value => .ok value
  | none => .error (.here (.unknownVariant name (Named.names α)))

/-- A name from a fixed choice: a text, or an object with the name as its only key and nothing
as its value.
-/
def choice [Named α] (setting : Setting) : Value → Decoded α
  | .string name => choiceName name
  | .object [(name, inner)] =>
    match (choiceName name : Decoded α) with
    | .error problem => .error problem
    | .ok value =>
      if isNothing setting inner then .ok value
      else (wrongType inner "unit").under (.key name)
  | .object _ => .error (.here (.wrongValue .map "map with a single key"))
  | value => wrongType value "string or map"

/-- The tag of a value with several forms. A tag that was set aside may also be written as the
position of its name.
-/
def tag [Named α] (setting : Setting) : Value → Decoded α
  | .string name => choiceName name
  | .number (.integer value) =>
    if setting = .setAside ∧ 0 ≤ value then
      match (Named.all : List α)[value.toNat]? with
      | some tag => .ok tag
      | none =>
        let count := (Named.all : List α).length
        .error (.here (.wrongValue (.integer value) s!"variant index 0 <= i < {count}"))
    else
      wrongType (.number (.integer value)) "variant identifier"
  | value => wrongType value "variant identifier"

end ClonePlanner.Decoding
