import ClonePlanner.Model.Capability

/-!
What a planning run is asked for.
-/

namespace ClonePlanner

/-- The choices of a planning run. -/
structure PlannerOptions where
  /-- The capabilities to plan, among those that a type opts into. -/
  requested : Capabilities := .both
  /-- Whether copying an array of rank two or more counts as a single expression. -/
  inlineMultiRankArrays : Bool := true
deriving DecidableEq, Inhabited, Repr

namespace PlannerOptions

def deepOnly : PlannerOptions :=
  { requested := { deep := true, shallow := false } }

def shallowOnly : PlannerOptions :=
  { requested := { deep := false, shallow := true } }

/-- The options, with arrays of rank two or more copied by statements. -/
def withMultiRankArraysAsStatements (options : PlannerOptions) : PlannerOptions :=
  { options with inlineMultiRankArrays := false }

end PlannerOptions

end ClonePlanner
