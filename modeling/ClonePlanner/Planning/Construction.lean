import ClonePlanner.Model.Member
import ClonePlanner.Planning.Options
import ClonePlanner.Planning.Plan

/-!
How a clone is put together from the actions for its members.
-/

namespace ClonePlanner

/-- Whether an action can be written as one value of an initializer. -/
def CloneAction.isInline (options : PlannerOptions) : CloneAction → Bool
  | .cloneArray rank _ => rank ≤ 1 || options.inlineMultiRankArrays
  | _ => true

/-- The strategy for members paired with their actions. A record with a member that is written
during construction only is updated functionally; a class with one, or any type with an action
that is not a single value, takes statements.
-/
def ConstructionStrategy.select (recordLike : Bool)
    (entries : List (MemberDescriptor × CloneAction)) (options : PlannerOptions)
    : ConstructionStrategy :=
  let anyInitOnly := entries.any (·.1.isInitOnly)
  let anyStatement := entries.any (!·.2.isInline options)
  if recordLike && anyInitOnly then .functionalUpdate
  else if anyStatement || anyInitOnly then .statementSequence
  else .objectInitializer

end ClonePlanner
