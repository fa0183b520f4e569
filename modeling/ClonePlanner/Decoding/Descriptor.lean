import ClonePlanner.Decoding.Record
import ClonePlanner.Model.TypeDescriptor

/-!
Decoding type descriptors. A descriptor is an object that holds its own six fields and, beside
them, its kind with the kind's fields; these are set aside until the kind is known. A problem
with one of the six is located at that field, a problem with the kind at the descriptor, also
when it lies in a descriptor nested below.
-/

namespace ClonePlanner

namespace TypeKind

inductive Tag where
  | scalar
  | string
  | array
  | dictionary
  | collection
  | userCloneable
  | opaqueType
deriving DecidableEq, Repr

namespace Tag

def name : Tag → String
  | .scalar => "scalar"
  | .string => "string"
  | .array => "array"
  | .dictionary => "dictionary"
  | .collection => "collection"
  | .userCloneable => "user_cloneable"
  | .opaqueType => "opaque"

instance : Named Tag where
  all := [.scalar, .string, .array, .dictionary, .collection, .userCloneable, .opaqueType]
  name := name
  complete := by intro tag; cases tag <;> decide
  name_injective := by intro left right; cases left <;> cases right <;> decide

end Tag

def tag {τ : Type} : TypeKind τ → Tag
  | .scalar => .scalar
  | .string => .string
  | .array .. => .array
  | .dictionary .. => .dictionary
  | .collection .. => .collection
  | .userCloneable => .userCloneable
  | .opaqueType => .opaqueType

end TypeKind

namespace Decoding

open ClonePlanner.Json (Value)

/-- A field's value, and what it is as a type. -/
structure Part where
  value : Value
  type : Decoded TypeDescriptor

namespace Part

/-- The type, or none if the value is null. -/
def type? (part : Part) : Decoded (Option TypeDescriptor) :=
  match part.value with
  | .null => .ok none
  | _ => part.type.map some

end Part

def kindFields (source : Source Part) : TypeKind.Tag → Reading (TypeKind TypeDescriptor)
  | .scalar => .ready .scalar
  | .string => .ready .string
  | .array =>
    TypeKind.array
      <$> source.required 0 "rank" (word32 ·.value)
      <*> source.required 1 "element" Part.type
  | .dictionary =>
    TypeKind.dictionary
      <$> source.required 0 "variant" (choice .setAside ·.value)
      <*> source.optional 1 "key" none Part.type?
      <*> source.optional 2 "value" none Part.type?
  | .collection =>
    TypeKind.collection
      <$> source.required 0 "variant" (choice .setAside ·.value)
      <*> source.optional 1 "element" none Part.type?
  | .userCloneable => .ready .userCloneable
  | .opaqueType => .ready .opaqueType

/-- The kind among the parts of a descriptor. -/
def kind (parts : List (String × Part)) : Decoded (TypeKind TypeDescriptor) :=
  match Entries.get? "kind" parts with
  | none => .error (.here (.missingField "kind"))
  | some written =>
    -- whatever goes wrong from here on is put down to the descriptor itself
    match (tag .setAside written.value).atRoot with
    | .error problem => .error problem
    | .ok tag => (kindFields ⟨.keyed parts, ""⟩ tag).settle.atRoot

/-- A flag among the parts of a descriptor. -/
def ownFlag (source : Source Part) (position : Nat) (name : String) : Reading Bool :=
  source.optional position name false (flag ·.value)

/-- The six fields that are a descriptor's own; what is read is open for the kind. -/
def ownFields (source : Source Part) : Reading (TypeKind TypeDescriptor → TypeDescriptor) :=
  TypeDescriptor.mk
    <$> source.required 0 "name" (text ·.value)
    <*> ownFlag source 1 "is_value_type"
    <*> ownFlag source 2 "nullable"
    <*> ownFlag source 3 "deep_cloneable"
    <*> ownFlag source 4 "shallow_cloneable"
    <*> ownFlag source 5 "record_like"

/-- The descriptor that is made of the given parts. -/
def assemble (parts : List (String × Part)) : Decoded TypeDescriptor :=
  (ownFields ⟨.keyed parts, ""⟩).settle.bind fun withKind => (kind parts).map withKind

mutual

def descriptor : Value → Decoded TypeDescriptor
  | .object fields => assemble (parts fields)
  | .null => wrongType .null "struct TypeDescriptor"
  | .bool value => wrongType (.bool value) "struct TypeDescriptor"
  | .number value => wrongType (.number value) "struct TypeDescriptor"
  | .string value => wrongType (.string value) "struct TypeDescriptor"
  | .array values => wrongType (.array values) "struct TypeDescriptor"
termination_by structural value => value

/-- The parts of a descriptor, each also read as a type. -/
def parts : List (String × Value) → List (String × Part)
  | [] => []
  | (key, value) :: rest => (key, ⟨value, descriptor value⟩) :: parts rest
termination_by structural fields => fields

end

theorem descriptor_object (fields : List (String × Value))
    : descriptor (.object fields) = assemble (parts fields) :=
  rfl

/-- Reading the parts keeps every key with its value. -/
theorem get?_parts (key : String) (fields : List (String × Value))
    : Entries.get? key (parts fields)
      = (Entries.get? key fields).map fun value => ⟨value, descriptor value⟩ := by
  induction fields with
  | nil => rfl
  | cons field rest ih =>
      obtain ⟨first, value⟩ := field
      by_cases same : first = key
      · simp only [parts, Entries.get?, same, if_true, Option.map_some]
      · simp only [parts, Entries.get?, same, if_false, ih]

end Decoding

end ClonePlanner
