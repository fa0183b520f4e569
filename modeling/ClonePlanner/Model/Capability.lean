import ClonePlanner.Model.Named

/-!
The two ways to clone, and sets of them.
-/

namespace ClonePlanner

/-- A way to clone: copying members with their own clones, or sharing them. -/
inductive Capability where
  | deep
  | shallow
deriving DecidableEq, Inhabited, Repr

namespace Capability

def name : Capability → String
  | .deep => "deep"
  | .shallow => "shallow"

instance : Named Capability where
  all := [.deep, .shallow]
  name := name
  complete := by intro value; cases value <;> decide
  name_injective := by intro left right; cases left <;> cases right <;> decide

end Capability

structure Capabilities where
  deep : Bool := false
  shallow : Bool := false
deriving DecidableEq, Inhabited, Repr

namespace Capabilities

def none : Capabilities := ⟨false, false⟩

def both : Capabilities := ⟨true, true⟩

/-- Whether the capability belongs to the set. -/
def has (capabilities : Capabilities) : Capability → Bool
  | .deep => capabilities.deep
  | .shallow => capabilities.shallow

end Capabilities

end ClonePlanner
