import ClonePlanner.Model.Variant

/-!
What a member's clone is made of: the action for one member, chosen from the shape of its type.
-/

namespace ClonePlanner

/-- What happens to the elements of a container. -/
inductive ElementAction where
  /-- An element is taken over as it is. -/
  | copy
  /-- An element is cloned by its own clone method. -/
  | clone
deriving DecidableEq, Inhabited, Repr

namespace ElementAction

def name : ElementAction → String
  | .copy => "copy"
  | .clone => "clone"

instance : Named ElementAction where
  all := [.copy, .clone]
  name := name
  complete := by intro value; cases value <;> decide
  name_injective := by intro left right; cases left <;> cases right <;> decide

end ElementAction

/-- How one member is carried over into a clone. -/
inductive CloneAction where
  | copyScalar
  | recurseCloneable
  | cloneArray (rank : UInt32) (element : ElementAction)
  | cloneDictionary (variant : DictionaryVariant) (value : ElementAction)
  | cloneCollection (variant : CollectionVariant) (element : ElementAction)
  | copyReference
deriving DecidableEq, Inhabited, Repr

namespace CloneAction

/-- Whether the member is assigned without any transformation. -/
def isDirectAssignment : CloneAction → Bool
  | .copyScalar | .copyReference => true
  | _ => false

end CloneAction

end ClonePlanner
