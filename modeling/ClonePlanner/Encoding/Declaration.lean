import ClonePlanner.Decoding.Descriptor
import ClonePlanner.Model.Declaration

/-!
Declarations as documents. All fields are written, in the order of their records; an absent
argument of a container is null.
-/

namespace ClonePlanner.Encoding

open ClonePlanner.Json (Value)

/-- The name of a value from a fixed choice. -/
def name {α : Type} [Named α] (value : α) : Value :=
  .string (Named.name value)

/-- A natural number below 2^32. -/
def word32 (value : UInt32) : Value :=
  .number (.integer value.toNat)

mutual

def descriptor : TypeDescriptor → Value
  | ⟨typeName, isValueType, nullable, deepCloneable, shallowCloneable, recordLike, kind⟩ =>
    .object ([
      ("name", .string typeName),
      ("is_value_type", .bool isValueType),
      ("nullable", .bool nullable),
      ("deep_cloneable", .bool deepCloneable),
      ("shallow_cloneable", .bool shallowCloneable),
      ("record_like", .bool recordLike),
      ("kind", name kind.tag)] ++ kindFields kind)
termination_by structural type => type

def kindFields : TypeKind TypeDescriptor → List (String × Value)
  | .scalar => []
  | .string => []
  | .array rank element => [("rank", word32 rank), ("element", descriptor element)]
  | .dictionary variant key value =>
    [("variant", name variant), ("key", argument key), ("value", argument value)]
  | .collection variant element => [("variant", name variant), ("element", argument element)]
  | .userCloneable => []
  | .opaqueType => []
termination_by structural kind => kind

def argument : Option TypeDescriptor → Value
  | none => .null
  | some type => descriptor type
termination_by structural type => type

end

def member (value : MemberDescriptor) : Value :=
  .object [
    ("name", .string value.name),
    ("type", descriptor value.type),
    ("mutability", name value.mutability),
    ("visibility", name value.visibility),
    ("readable", .bool value.readable),
    ("is_static", .bool value.isStatic)]

def capabilities (value : Capabilities) : Value :=
  .object [("deep", .bool value.deep), ("shallow", .bool value.shallow)]

def ancestor (value : AncestorDeclaration) : Value :=
  .object [("name", .string value.name), ("members", .array (value.members.map member))]

def declaration (value : TypeDeclaration) : Value :=
  .object [
    ("name", .string value.name),
    ("is_abstract", .bool value.isAbstract),
    ("record_like", .bool value.recordLike),
    ("capabilities", capabilities value.capabilities),
    ("user_implemented", capabilities value.userImplemented),
    ("members", .array (value.members.map member)),
    ("ancestors", .array (value.ancestors.map ancestor))]

def declarations (values : List TypeDeclaration) : Value :=
  .array (values.map declaration)

end ClonePlanner.Encoding
