import ClonePlanner.Model.Capability
import ClonePlanner.Model.Member

/-!
Declarations: the types that plans are made for, with the chain of types they inherit from.
-/

namespace ClonePlanner

/-- A type that a declaration inherits from. -/
structure AncestorDeclaration where
  name : String
  members : List MemberDescriptor := []
deriving Inhabited, Repr

/-- A type that may get clone plans. -/
structure TypeDeclaration where
  name : String
  isAbstract : Bool := false
  recordLike : Bool := false
  /-- The capabilities that the type opts into. -/
  capabilities : Capabilities := .none
  /-- The capabilities whose clone methods are written by hand. -/
  userImplemented : Capabilities := .none
  members : List MemberDescriptor := []
  /-- Most-derived first. -/
  ancestors : List AncestorDeclaration := []
deriving Inhabited, Repr

namespace TypeDeclaration

/-- A concrete class that opts into both capabilities. -/
def ofClass (name : String) (members : List MemberDescriptor) : TypeDeclaration :=
  { name, capabilities := .both, members }

/-- A concrete record that opts into both capabilities. -/
def ofRecord (name : String) (members : List MemberDescriptor) : TypeDeclaration :=
  { ofClass name members with recordLike := true }

/-- The declaration with one more ancestor, behind all others. -/
def withAncestor (declaration : TypeDeclaration) (name : String)
    (members : List MemberDescriptor) : TypeDeclaration :=
  { declaration with ancestors := declaration.ancestors ++ [{ name, members }] }

end TypeDeclaration

end ClonePlanner
