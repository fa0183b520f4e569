import ClonePlanner.Json.Pointer
import ClonePlanner.Json.Writer
import ClonePlanner.Text.Quoted

/-!
Why a document does not decode, and the path to the value at fault. A path leads from the root
of the document through keys and indices to a value that is there.
-/

namespace ClonePlanner.Decoding

open ClonePlanner.Json (Value)

/-- One step from a value to a part of it. -/
inductive Step where
  | key (name : String)
  | index (position : Nat)
deriving DecidableEq, Repr

/-- The way from the root to a value. -/
abbrev Path := List Step

namespace Path

/-- The text of the steps that follow another one: keys behind a point, indices in brackets. -/
def tailText : Path → String
  | [] => ""
  | .key name :: rest => "." ++ name ++ tailText rest
  | .index position :: rest => "[" ++ toString position ++ "]" ++ tailText rest

/-- The text of a path; the root is a single point. -/
def text : Path → String
  | [] => "."
  | .key name :: rest => name ++ tailText rest
  | .index position :: rest => "[" ++ toString position ++ "]" ++ tailText rest

end Path

def child? : Step → Value → Option Value
  | .key name, .object fields => Entries.get? name fields
  | .index position, .array items => items[position]?
  | _, _ => none

/-- The value at the end of a path. -/
def valueAt? : Path → Value → Option Value
  | [], value => some value
  | step :: rest, value => (child? step value).bind (valueAt? rest)

/-- What a message says about a value that was not expected. -/
inductive Found where
  | null
  | boolean (value : Bool)
  | integer (value : Int)
  | float (bits : UInt64)
  | string (text : String)
  | sequence
  | map
deriving DecidableEq, Repr

namespace Found

def ofValue : Value → Found
  | .null => .null
  | .bool value => .boolean value
  | .number (.integer value) => .integer value
  | .number (.float bits) => .float bits
  | .string text => .string text
  | .array _ => .sequence
  | .object _ => .map

def text : Found → String
  | .null => "null"
  | .boolean true => "boolean `true`"
  | .boolean false => "boolean `false`"
  | .integer value => "integer `" ++ String.ofList (Json.writeInteger value) ++ "`"
  | .float bits => "floating point `" ++ String.ofList (Json.floatLayout.float bits) ++ "`"
  | .string text => "string " ++ Text.quoted text
  | .sequence => "sequence"
  | .map => "map"

end Found

/-- What is wrong with a value. -/
inductive Cause where
  | missingField (name : String)
  | wrongType (found : Found) (expected : String)
  | wrongValue (found : Found) (expected : String)
  | wrongLength (length : Nat) (expected : String)
  | unknownVariant (name : String) (known : List String)
deriving DecidableEq, Repr

namespace Cause

/-- A name between grave accents. -/
def accented (name : String) : String :=
  "`" ++ name ++ "`"

def alternatives : List String → String
  | [] => "nothing"
  | [only] => accented only
  | [first, second] => accented first ++ " or " ++ accented second
  | names => "one of " ++ ", ".intercalate (names.map accented)

def message : Cause → String
  | .missingField name => "missing field " ++ accented name
  | .wrongType found expected => "invalid type: " ++ found.text ++ ", expected " ++ expected
  | .wrongValue found expected => "invalid value: " ++ found.text ++ ", expected " ++ expected
  | .wrongLength length expected =>
    "invalid length " ++ toString length ++ ", expected " ++ expected
  | .unknownVariant name known =>
    "unknown variant " ++ accented name ++ ", expected " ++ alternatives known

end Cause

/-- A cause with the path to the value at fault. -/
structure Problem where
  path : Path
  cause : Cause
deriving DecidableEq, Repr

namespace Problem

/-- A problem with the value itself. -/
def here (cause : Cause) : Problem := ⟨[], cause⟩

/-- The problem, seen from one step further out. -/
def under (step : Step) (problem : Problem) : Problem :=
  { problem with path := step :: problem.path }

/-- The problem, put down to the value that is being decoded. -/
def atRoot (problem : Problem) : Problem :=
  { problem with path := [] }

end Problem

abbrev Decoded (α : Type) := Except Problem α

namespace Decoded

variable {α : Type}

/-- The outcome for a part, seen from the whole. -/
def under (step : Step) : Decoded α → Decoded α
  | .ok value => .ok value
  | .error problem => .error (problem.under step)

/-- The outcome, with a problem put down to the value itself. -/
def atRoot : Decoded α → Decoded α
  | .ok value => .ok value
  | .error problem => .error problem.atRoot

@[simp]
theorem under_ok (step : Step) (value : α) : under step (.ok value) = .ok value := rfl

@[simp]
theorem atRoot_ok (value : α) : atRoot (.ok value) = .ok value := rfl

end Decoded

/-- Refuse a value of another type than expected. -/
def wrongType {α : Type} (value : Value) (expected : String) : Decoded α :=
  .error (.here (.wrongType (.ofValue value) expected))

/-- A problem with a document that came from a named place. -/
structure DescriptorFault where
  origin : String
  problem : Problem
deriving DecidableEq, Repr

def DescriptorFault.message (fault : DescriptorFault) : String :=
  "invalid type declaration in " ++ fault.origin ++ " at " ++ fault.problem.path.text ++ ": "
    ++ fault.problem.cause.message

end ClonePlanner.Decoding
