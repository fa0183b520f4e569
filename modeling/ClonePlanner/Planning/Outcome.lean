import ClonePlanner.Planning.Classification
import ClonePlanner.Planning.Construction
import ClonePlanner.Planning.Inheritance

/-!
Planning a declaration: whether a capability is planned at all, and the plan if it is.
-/

namespace ClonePlanner

namespace TypeDeclaration

/-- Why a capability of the type is not planned, if it is not. -/
def skipReason? (declaration : TypeDeclaration) (capability : Capability)
    (options : PlannerOptions) : Option SkipReason :=
  if declaration.isAbstract then some .abstract
  else if !options.requested.has capability then some .notRequested
  else if !declaration.capabilities.has capability then some .notMarked
  else if declaration.userImplemented.has capability then some .userImplemented
  else none

end TypeDeclaration

/-- The action for a member of a type. A shallow plan never clones and never rebuilds. -/
def Capability.action (capability : Capability) (type : TypeDescriptor) : CloneAction :=
  match capability with
  | .deep => type.classify
  | .shallow => type.directAssignment

/-- The plan entry of a collected member with its action. -/
def DeclaredMember.entry (declared : DeclaredMember) (action : CloneAction) : PlanEntry :=
  {
    action
    nullGuarded := !action.isDirectAssignment && declared.member.type.canBeAbsent
    initOnly := declared.member.isInitOnly
    declaredIn := declared.declaredIn
  }

namespace TypeDeclaration

/-- The plan for a capability, whether or not it is wanted. The actions are chosen first, then
the strategy for all of them, and then each member is entered with its action.
-/
def plan (declaration : TypeDeclaration) (capability : Capability) (options : PlannerOptions)
    : ClonePlan :=
  let collected := declaration.collectedMembers
  let actions := collected.map fun declared => capability.action declared.member.type
  {
    typeName := declaration.name
    capability
    strategy :=
      .select declaration.recordLike ((collected.map DeclaredMember.member).zip actions) options
    members := .ofList ((collected.zip actions).map fun (declared, action) =>
      (declared.name, declared.entry action))
  }

/-- What planning a capability of the type comes to. -/
def outcome (declaration : TypeDeclaration) (capability : Capability) (options : PlannerOptions)
    : PlanOutcome :=
  match declaration.skipReason? capability options with
  | some reason => .skipped reason
  | none => .planned (declaration.plan capability options)

/-- The plan for a capability, if the type gets one. -/
def plan? (declaration : TypeDeclaration) (capability : Capability)
    (options : PlannerOptions) : Option ClonePlan :=
  (declaration.outcome capability options).plan?

def planSet (declaration : TypeDeclaration) (options : PlannerOptions) : PlanSet :=
  {
    name := declaration.name
    deep := declaration.outcome .deep options
    shallow := declaration.outcome .shallow options
  }

end TypeDeclaration

end ClonePlanner
