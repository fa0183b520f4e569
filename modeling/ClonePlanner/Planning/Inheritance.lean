import ClonePlanner.Model.Declaration
import ClonePlanner.OrderedMap

/-!
The members that a type declares or inherits. The levels of the type are walked most-derived
first, and the first declaration of a name decides, also when it hides the member; only then are
the members left out that a clone does not carry over.
-/

namespace ClonePlanner

/-- A member with the type that declares it. -/
structure DeclaredMember where
  member : MemberDescriptor
  declaredIn : String
deriving Inhabited, Repr

namespace DeclaredMember

def name (declared : DeclaredMember) : String :=
  declared.member.name

end DeclaredMember

namespace TypeDeclaration

/-- The levels of a type: its own members, then each ancestor's. -/
def levels (declaration : TypeDeclaration) : List (String × List MemberDescriptor) :=
  (declaration.name, declaration.members)
    :: declaration.ancestors.map fun ancestor => (ancestor.name, ancestor.members)

/-- The members seen after one more level is walked: names seen before keep their member. -/
def walkLevel (seen : OrderedMap DeclaredMember) (declaredIn : String)
    (members : List MemberDescriptor)
    : OrderedMap DeclaredMember :=
  members.foldl (fun seen member => seen.insertIfNew member.name ⟨member, declaredIn⟩) seen

/-- The first declaration of every name, by name, in the order of the walk. -/
def firstDeclarations (declaration : TypeDeclaration) : OrderedMap DeclaredMember :=
  declaration.levels.foldl (fun seen (declaredIn, members) => walkLevel seen declaredIn members)
    .empty

/-- The members that a plan covers, by name. -/
def collected (declaration : TypeDeclaration) : OrderedMap DeclaredMember :=
  declaration.firstDeclarations.filter fun declared => declared.member.isEligible

def collectedMembers (declaration : TypeDeclaration) : List DeclaredMember :=
  declaration.collected.values

end TypeDeclaration

end ClonePlanner
