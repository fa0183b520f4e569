import ClonePlanner.Model.TypeDescriptor

/-!
Members of a type: the fields and properties that a clone may have to carry over.
-/

namespace ClonePlanner

/-- When a member can be written. -/
inductive Mutability where
  | mutable
  | initOnly
deriving DecidableEq, Inhabited, Repr

namespace Mutability

def name : Mutability → String
  | .mutable => "mutable"
  | .initOnly => "init_only"

instance : Named Mutability where
  all := [.mutable, .initOnly]
  name := name
  complete := by intro value; cases value <;> decide
  name_injective := by intro left right; cases left <;> cases right <;> decide

end Mutability

/-- How a member is exposed for writing. -/
inductive Visibility where
  | publicWritable
  | publicInit
  | notExposed
deriving DecidableEq, Inhabited, Repr

namespace Visibility

def name : Visibility → String
  | .publicWritable => "public_writable"
  | .publicInit => "public_init"
  | .notExposed => "not_exposed"

instance : Named Visibility where
  all := [.publicWritable, .publicInit, .notExposed]
  name := name
  complete := by intro value; cases value <;> decide
  name_injective := by intro left right; cases left <;> cases right <;> decide

end Visibility

/-- A declared member. -/
structure MemberDescriptor where
  name : String
  type : TypeDescriptor
  mutability : Mutability := .mutable
  visibility : Visibility := .publicWritable
  /-- Whether a clone can read the member. -/
  readable : Bool := true
  isStatic : Bool := false
deriving Inhabited, Repr

namespace MemberDescriptor

/-- A public member that can be written at any time. -/
def writable (name : String) (type : TypeDescriptor) : MemberDescriptor :=
  { name, type }

/-- A public member that can be written during construction only. -/
def initOnly (name : String) (type : TypeDescriptor) : MemberDescriptor :=
  { name, type, mutability := .initOnly, visibility := .publicInit }

def hidden (member : MemberDescriptor) : MemberDescriptor :=
  { member with visibility := .notExposed }

/-- Whether the member can be written during construction only. -/
def isInitOnly (member : MemberDescriptor) : Bool :=
  member.mutability == .initOnly

/-- Whether a clone carries the member over: it is exposed, readable and belongs to the
instance.
-/
def isEligible (member : MemberDescriptor) : Bool :=
  member.visibility != .notExposed && member.readable && !member.isStatic

end MemberDescriptor

end ClonePlanner
