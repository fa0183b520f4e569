import ClonePlanner.Model.Capability
import ClonePlanner.OrderedMap
import ClonePlanner.Planning.Action

/-!
Clone plans: what planning produces for a type and a capability.
-/

namespace ClonePlanner

/-- How a clone is put together. -/
inductive ConstructionStrategy where
  /-- All members in one initializer. -/
  | objectInitializer
  /-- A copy of a record with members replaced. -/
  | functionalUpdate
  /-- Statements one after another. -/
  | statementSequence
deriving DecidableEq, Inhabited, Repr

namespace ConstructionStrategy

def name : ConstructionStrategy → String
  | .objectInitializer => "object_initializer"
  | .functionalUpdate => "functional_update"
  | .statementSequence => "statement_sequence"

instance : Named ConstructionStrategy where
  all := [.objectInitializer, .functionalUpdate, .statementSequence]
  name := name
  complete := by intro value; cases value <;> decide
  name_injective := by intro left right; cases left <;> cases right <;> decide

end ConstructionStrategy

/-- One member of a plan. -/
structure PlanEntry where
  action : CloneAction
  /-- An absent value stays absent. -/
  nullGuarded : Bool
  initOnly : Bool
  /-- The type that declares the member. -/
  declaredIn : String
deriving DecidableEq, Inhabited, Repr

/-- A plan for one capability of one type; the members stand in order of declaration,
most-derived first.
-/
structure ClonePlan where
  typeName : String
  capability : Capability
  strategy : ConstructionStrategy
  members : OrderedMap PlanEntry

namespace ClonePlan

def action? (plan : ClonePlan) (member : String) : Option CloneAction :=
  (plan.members.get? member).map PlanEntry.action

/-- Whether there is nothing to carry over. -/
def isEmpty (plan : ClonePlan) : Bool :=
  plan.members.isEmpty

end ClonePlan

/-- Why a type has no plan for a capability. -/
inductive SkipReason where
  | abstract
  | userImplemented
  | notMarked
  | notRequested
deriving DecidableEq, Inhabited, Repr

namespace SkipReason

def name : SkipReason → String
  | .abstract => "abstract"
  | .userImplemented => "user_implemented"
  | .notMarked => "not_marked"
  | .notRequested => "not_requested"

instance : Named SkipReason where
  all := [.abstract, .userImplemented, .notMarked, .notRequested]
  name := name
  complete := by intro value; cases value <;> decide
  name_injective := by intro left right; cases left <;> cases right <;> decide

end SkipReason

/-- What planning one capability of one type comes to. -/
inductive PlanOutcome where
  | planned (plan : ClonePlan)
  | skipped (reason : SkipReason)

namespace PlanOutcome

def plan? : PlanOutcome → Option ClonePlan
  | .planned plan => some plan
  | .skipped _ => none

end PlanOutcome

/-- The outcomes for both capabilities of one type. -/
structure PlanSet where
  name : String
  deep : PlanOutcome
  shallow : PlanOutcome

namespace PlanSet

def outcome (set : PlanSet) : Capability → PlanOutcome
  | .deep => set.deep
  | .shallow => set.shallow

end PlanSet

end ClonePlanner
