import ClonePlanner.Planning.Outcome

/-!
Reports: the outcomes for a list of declarations, in the order of the list.
-/

namespace ClonePlanner

/-- The outcomes for several types. -/
structure PlanReport where
  types : List PlanSet

namespace PlanReport

def ofDeclarations (declarations : List TypeDeclaration) (options : PlannerOptions)
    : PlanReport :=
  ⟨declarations.map fun declaration => declaration.planSet options⟩

/-- The outcomes of all types, deep before shallow. -/
def outcomes (report : PlanReport) : List PlanOutcome :=
  report.types.flatMap fun set => [set.deep, set.shallow]

/-- The number of plans in the report. -/
def plannedCount (report : PlanReport) : Nat :=
  report.outcomes.countP (·.plan?.isSome)

end PlanReport

end ClonePlanner
