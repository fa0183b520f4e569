import ClonePlanner.Model.Variant

/-!
Descriptions of member types, as far as cloning depends on them.
-/

namespace ClonePlanner

/-- The shape of a type over descriptions `τ` of its parts. -/
inductive TypeKind (τ : Type) where
  | scalar
  | string
  | array (rank : UInt32) (element : τ)
  /-- The arguments are absent when the container was found without them. -/
  | dictionary (variant : DictionaryVariant) (key value : Option τ)
  | collection (variant : CollectionVariant) (element : Option τ)
  | userCloneable
  | opaqueType
deriving DecidableEq, Inhabited, Repr

namespace TypeKind

variable {τ : Type}

/-- Whether the shape is an array, of any rank. -/
def isArray : TypeKind τ → Bool
  | .array .. => true
  | _ => false

def isString : TypeKind τ → Bool
  | .string => true
  | _ => false

end TypeKind

/-- A declared type. -/
structure TypeDescriptor where
  name : String
  /-- Values of the type are stored in place; otherwise they are referred to. -/
  isValueType : Bool := false
  nullable : Bool := false
  deepCloneable : Bool := false
  shallowCloneable : Bool := false
  recordLike : Bool := false
  kind : TypeKind TypeDescriptor
deriving Inhabited, Repr

namespace TypeDescriptor

/-- A primitive value type. -/
def scalar (name : String) : TypeDescriptor :=
  { name, isValueType := true, kind := .scalar }

def string : TypeDescriptor :=
  { name := "string", kind := .string }

/-- A reference type with clone methods of its own. -/
def cloneable (name : String) : TypeDescriptor :=
  { name, deepCloneable := true, shallowCloneable := true, kind := .userCloneable }

/-- A reference type of which nothing is known. -/
def unknown (name : String) : TypeDescriptor :=
  { name, kind := .opaqueType }

/-- An array; its name shows the rank by commas. -/
def array (element : TypeDescriptor) (rank : UInt32) : TypeDescriptor :=
  let commas := String.ofList (List.replicate (rank.toNat - 1) ',')
  { name := element.name ++ "[" ++ commas ++ "]", kind := .array rank element }

/-- A collection with a known element type. -/
def collection (variant : CollectionVariant) (element : TypeDescriptor) : TypeDescriptor :=
  {
    name := variant.title ++ "<" ++ element.name ++ ">"
    kind := .collection variant (some element)
  }

def list (element : TypeDescriptor) : TypeDescriptor :=
  collection .list element

def dictionary (variant : DictionaryVariant) (key value : TypeDescriptor) : TypeDescriptor :=
  {
    name := variant.title ++ "<" ++ key.name ++ ", " ++ value.name ++ ">"
    kind := .dictionary variant (some key) (some value)
  }

/-- A collection whose element type is not known. -/
def bareCollection (name : String) (variant : CollectionVariant) : TypeDescriptor :=
  { name, kind := .collection variant none }

/-- A dictionary whose arguments are not known. -/
def bareDictionary (name : String) (variant : DictionaryVariant) : TypeDescriptor :=
  { name, kind := .dictionary variant none none }

def asNullable (type : TypeDescriptor) : TypeDescriptor :=
  { type with nullable := true }

def asValueType (type : TypeDescriptor) : TypeDescriptor :=
  { type with isValueType := true }

/-- The type, with a deep clone method of its own. -/
def asDeepCloneable (type : TypeDescriptor) : TypeDescriptor :=
  { type with deepCloneable := true }

/-- Whether values of the type are referred to. -/
def isReferenceType (type : TypeDescriptor) : Bool :=
  !type.isValueType

/-- Whether the type has a deep clone method of its own. -/
def isUserCloneable (type : TypeDescriptor) : Bool :=
  type.deepCloneable || match type.kind with
    | .userCloneable => true
    | _ => false

/-- Whether a member of the type may hold no value. -/
def canBeAbsent (type : TypeDescriptor) : Bool :=
  type.nullable || type.isReferenceType

end TypeDescriptor

end ClonePlanner
