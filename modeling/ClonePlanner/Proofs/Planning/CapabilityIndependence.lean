import ClonePlanner.Proofs.Planning.PlanCoverage
import ClonePlanner.Report
import Mathlib.Data.List.ProdSigma

/-! The two capabilities are planned independently. What one of them comes to depends on the
declaration and the options only through what they say of it, so nothing that is said of the
other one is noticed: neither what the type opts into, nor what is written by hand, nor whether
it is requested at all.
-/

namespace ClonePlanner

/-- The set in which it is decided anew whether one capability belongs to it. -/
def Capabilities.set (capabilities : Capabilities) (capability : Capability) (value : Bool)
    : Capabilities :=
  match capability with
  | .deep => { capabilities with deep := value }
  | .shallow => { capabilities with shallow := value }

theorem Capabilities.has_set (capabilities : Capabilities) (capability other : Capability)
    (value : Bool)
    : (capabilities.set capability value).has other
      = if other = capability then value else capabilities.has other := by
  cases capability <;> cases other <;> rfl

namespace PlannerOptions

/-- Both capabilities are requested. -/
def forBoth (inlineMultiRankArrays : Bool) : PlannerOptions :=
  { inlineMultiRankArrays }

/-- One capability is requested. -/
def forOnly (capability : Capability) (inlineMultiRankArrays : Bool) : PlannerOptions :=
  match capability with
  | .deep => { deepOnly with inlineMultiRankArrays }
  | .shallow => { shallowOnly with inlineMultiRankArrays }

/-- Two options say the same of a capability. -/
structure AgreeOn (capability : Capability) (options others : PlannerOptions) : Prop where
  requested : options.requested.has capability = others.requested.has capability
  inlineMultiRankArrays : options.inlineMultiRankArrays = others.inlineMultiRankArrays

theorem forBoth_agreeOn_forOnly (capability : Capability) (inlineMultiRankArrays : Bool)
    : (forBoth inlineMultiRankArrays).AgreeOn capability
        (forOnly capability inlineMultiRankArrays) := by
  cases capability <;> exact ⟨rfl, rfl⟩

end PlannerOptions

namespace TypeDeclaration

variable {declaration other : TypeDeclaration} {capability : Capability}
  {options others : PlannerOptions}

/-- The declaration with the flags for one capability decided anew: whether the type opts into
it, and whether it is written by hand.
-/
def withFlags (declaration : TypeDeclaration) (capability : Capability)
    (marked byHand : Bool) : TypeDeclaration :=
  { declaration with
    capabilities := declaration.capabilities.set capability marked
    userImplemented := declaration.userImplemented.set capability byHand }

/-- Two declarations say the same of a capability. -/
structure AgreeOn (capability : Capability) (declaration other : TypeDeclaration) : Prop where
  name : declaration.name = other.name
  isAbstract : declaration.isAbstract = other.isAbstract
  recordLike : declaration.recordLike = other.recordLike
  marked : declaration.capabilities.has capability = other.capabilities.has capability
  byHand : declaration.userImplemented.has capability = other.userImplemented.has capability
  members : declaration.members = other.members
  ancestors : declaration.ancestors = other.ancestors

theorem AgreeOn.refl (capability : Capability) (declaration : TypeDeclaration)
    : declaration.AgreeOn capability declaration :=
  ⟨rfl, rfl, rfl, rfl, rfl, rfl, rfl⟩

theorem withFlags_agreeOn (declaration : TypeDeclaration) {flagged : Capability}
    (differs : capability ≠ flagged) (marked byHand : Bool)
    : (declaration.withFlags flagged marked byHand).AgreeOn capability declaration where
  name := rfl
  isAbstract := rfl
  recordLike := rfl
  marked := by simp only [withFlags, Capabilities.has_set, differs, if_false]
  byHand := by simp only [withFlags, Capabilities.has_set, differs, if_false]
  members := rfl
  ancestors := rfl

-----------------------------------------------------------------------------------------
-- What is said of the capability decides
-----------------------------------------------------------------------------------------

/-- Nothing but what is said of the capability can speak against planning it. -/
theorem skipReason?_congr (agree : declaration.AgreeOn capability other)
    (sameOptions : options.AgreeOn capability others)
    : declaration.skipReason? capability options = other.skipReason? capability others := by
  simp only [skipReason?, agree.isAbstract, agree.marked, agree.byHand, sameOptions.requested]

/-- The members are collected from the levels alone. -/
theorem collectedMembers_congr (agree : declaration.AgreeOn capability other)
    : declaration.collectedMembers = other.collectedMembers := by
  have levels : declaration.levels = other.levels := by
    simp only [TypeDeclaration.levels, agree.name, agree.members, agree.ancestors]
  simp only [collectedMembers, collected, firstDeclarations, levels]

/-- A strategy is selected without a look at what is requested. -/
theorem select_congr (sameOptions : options.AgreeOn capability others) (recordLike : Bool)
    (entries : List (MemberDescriptor × CloneAction))
    : ConstructionStrategy.select recordLike entries options
      = ConstructionStrategy.select recordLike entries others := by
  have inline (action : CloneAction) : action.isInline options = action.isInline others := by
    cases action <;> simp only [CloneAction.isInline, sameOptions.inlineMultiRankArrays]
  simp only [ConstructionStrategy.select, inline]

theorem plan_congr (agree : declaration.AgreeOn capability other)
    (sameOptions : options.AgreeOn capability others)
    : declaration.plan capability options = other.plan capability others := by
  simp only [plan, collectedMembers_congr agree, select_congr sameOptions, agree.name,
    agree.recordLike]

/-- Declarations and options that say the same of a capability give it the same outcome: it is
left out for the same reason, or planned with the same members and the same strategy.
-/
theorem outcome_congr (agree : declaration.AgreeOn capability other)
    (sameOptions : options.AgreeOn capability others)
    : declaration.outcome capability options = other.outcome capability others := by
  simp only [outcome, skipReason?_congr agree sameOptions, plan_congr agree sameOptions]

/-- A capability that is not requested is left out, for that or for being of no concrete type. -/
theorem outcome_of_not_requested (declaration : TypeDeclaration)
    (notRequested : options.requested.has capability = false)
    : declaration.outcome capability options
      = .skipped (if declaration.isAbstract then .abstract else .notRequested) := by
  cases concrete : declaration.isAbstract <;>
    simp [outcome, skipReason?, concrete, notRequested]

theorem isSome_plan?_outcome (declaration : TypeDeclaration) (capability : Capability)
    (options : PlannerOptions)
    : (declaration.outcome capability options).plan?.isSome
      = (declaration.skipReason? capability options).isNone := by
  unfold outcome
  cases declaration.skipReason? capability options <;> rfl

end TypeDeclaration

-----------------------------------------------------------------------------------------
-- Reports
-----------------------------------------------------------------------------------------

namespace PlanReport

/-- What one capability comes to, type by type. -/
def outcomesFor (report : PlanReport) (capability : Capability) : List (String × PlanOutcome) :=
  report.types.map fun set => (set.name, set.outcome capability)

/-- The number of plans for one capability. -/
def plannedCountFor (report : PlanReport) (capability : Capability) : Nat :=
  (report.outcomesFor capability).countP (·.2.plan?.isSome)

/-- Every plan is for one of the capabilities, by induction over the types. -/
theorem plannedCount_eq_add (report : PlanReport)
    : report.plannedCount = report.plannedCountFor .deep + report.plannedCountFor .shallow := by
  obtain ⟨types⟩ := report
  simp only [plannedCount, plannedCountFor, outcomes, outcomesFor]
  induction types with
  | nil => rfl
  | cons set rest ih =>
      simp only [List.flatMap_cons, List.map_cons, List.countP_cons, List.countP_append, ih,
        List.countP_nil, PlanSet.outcome]
      omega

variable (declarations : List TypeDeclaration) (options : PlannerOptions)
  (capability : Capability)

theorem outcomesFor_ofDeclarations
    : (ofDeclarations declarations options).outcomesFor capability
      = declarations.map fun declaration =>
          (declaration.name, declaration.outcome capability options) := by
  simp only [outcomesFor, ofDeclarations, List.map_map]
  cases capability <;> rfl

/-- Requesting the other capability, too, does not change what a capability comes to. -/
theorem outcomesFor_forBoth (inlineMultiRankArrays : Bool)
    : (ofDeclarations declarations (.forBoth inlineMultiRankArrays)).outcomesFor capability
      = (ofDeclarations declarations (.forOnly capability inlineMultiRankArrays)).outcomesFor
          capability := by
  rw [outcomesFor_ofDeclarations, outcomesFor_ofDeclarations]
  refine List.map_congr_left fun declaration _ => ?_
  rw [TypeDeclaration.outcome_congr (.refl capability declaration)
    (PlannerOptions.forBoth_agreeOn_forOnly capability inlineMultiRankArrays)]

theorem plannedCountFor_ofDeclarations
    : (ofDeclarations declarations options).plannedCountFor capability
      = declarations.countP fun declaration =>
          (declaration.skipReason? capability options).isNone := by
  rw [plannedCountFor, outcomesFor_ofDeclarations, List.countP_map]
  refine congrArg (declarations.countP ·) (funext fun declaration => ?_)
  exact declaration.isSome_plan?_outcome capability options

/-- There is a plan for every declaration and capability that nothing speaks against, by
induction over the declarations.
-/
theorem plannedCount_ofDeclarations
    : (ofDeclarations declarations options).plannedCount
      = (declarations ×ˢ [.deep, .shallow]).countP fun pair =>
          (pair.1.skipReason? pair.2 options).isNone := by
  rw [plannedCount_eq_add, plannedCountFor_ofDeclarations, plannedCountFor_ofDeclarations]
  induction declarations with
  | nil => rfl
  | cons declaration rest ih =>
      rw [List.product_cons, List.countP_append, ← ih, List.countP_cons, List.countP_cons]
      simp only [List.map_cons, List.map_nil, List.countP_cons, List.countP_nil]
      omega

theorem plannedCountFor_of_not_requested
    (notRequested : options.requested.has capability = false)
    : (ofDeclarations declarations options).plannedCountFor capability = 0 := by
  rw [plannedCountFor, outcomesFor_ofDeclarations, List.countP_map]
  refine List.countP_eq_zero.mpr fun declaration _ => ?_
  simp [declaration.outcome_of_not_requested notRequested, PlanOutcome.plan?]

/-- A report for one capability counts the plans for it. -/
theorem plannedCount_forOnly (inlineMultiRankArrays : Bool)
    : (ofDeclarations declarations (.forOnly capability inlineMultiRankArrays)).plannedCount
      = (ofDeclarations declarations (.forBoth inlineMultiRankArrays)).plannedCountFor
          capability := by
  have counted (capability : Capability) := congrArg
    (List.countP fun outcome => outcome.2.plan?.isSome)
    (outcomesFor_forBoth declarations capability inlineMultiRankArrays)
  rw [plannedCount_eq_add]
  cases capability with
  | deep =>
      rw [plannedCountFor_of_not_requested _ _ .shallow rfl, Nat.add_zero]
      exact (counted .deep).symm
  | shallow =>
      rw [plannedCountFor_of_not_requested _ _ .deep rfl, Nat.zero_add]
      exact (counted .shallow).symm

/-- The two capabilities are planned independently. If both are requested, each comes to what it
comes to alone, type by type; one that is not requested is left out everywhere, for an abstract
type or for that. The flags for one capability do not touch what the other comes to. So the
plans of the report for both are those of the two reports for one, and there is one for every
declaration and capability that nothing speaks against.
-/
theorem ofDeclarations_independent (inlineArrays : Bool)
    : (∀ capability,
        (ofDeclarations declarations (.forBoth inlineArrays)).outcomesFor capability
        = (ofDeclarations declarations (.forOnly capability inlineArrays)).outcomesFor capability)
      ∧ (∀ options capability, options.requested.has capability = false →
        (ofDeclarations declarations options).outcomesFor capability
        = declarations.map fun declaration =>
            (declaration.name,
              .skipped (if declaration.isAbstract then .abstract else .notRequested)))
      ∧ (∀ (declaration : TypeDeclaration) options capability flagged, capability ≠ flagged →
        ∀ marked byHand,
          (declaration.withFlags flagged marked byHand).outcome capability options
          = declaration.outcome capability options)
      ∧ (ofDeclarations declarations (.forBoth inlineArrays)).plannedCount
        = (ofDeclarations declarations (.forOnly .deep inlineArrays)).plannedCount
          + (ofDeclarations declarations (.forOnly .shallow inlineArrays)).plannedCount
      ∧ (ofDeclarations declarations (.forBoth inlineArrays)).plannedCount
        = (declarations ×ˢ [.deep, .shallow]).countP fun pair =>
            (pair.1.skipReason? pair.2 (.forBoth inlineArrays)).isNone := by
  refine ⟨?_, ?_, ?_, ?_, plannedCount_ofDeclarations ..⟩
  · intro capability
    exact outcomesFor_forBoth declarations capability inlineArrays
  · intro options capability notRequested
    rw [outcomesFor_ofDeclarations]
    refine List.map_congr_left fun declaration _ => ?_
    rw [declaration.outcome_of_not_requested notRequested]
  · intro declaration options capability flagged differs marked byHand
    exact TypeDeclaration.outcome_congr (declaration.withFlags_agreeOn differs marked byHand)
      ⟨rfl, rfl⟩
  · rw [plannedCount_eq_add, plannedCount_forOnly, plannedCount_forOnly]

/-- Planned for deep clones only, a class and its abstract twin have no shallow plan, for two
reasons; the deep plan of the class is there whatever is said of its shallow clone.
-/
theorem inheritingClass_independent
    : let twins := [inheritingClass, { inheritingClass with isAbstract := true }]
      (PlannerOptions.forOnly .deep true).requested.has .shallow = false
      ∧ (ofDeclarations twins (.forOnly .deep true)).outcomesFor .shallow
        = [("Order", .skipped .notRequested), ("Order", .skipped .abstract)]
      ∧ Capability.deep ≠ .shallow
      ∧ (inheritingClass.withFlags .shallow false true).outcome .deep {}
        = .planned (inheritingClass.plan .deep {})
      ∧ (ofDeclarations twins (.forBoth true)).plannedCount = 2 := by
  intro twins
  obtain ⟨_, notRequested, otherFlags, _, counted⟩ := ofDeclarations_independent twins true
  exact ⟨
    rfl,
    notRequested _ .shallow rfl,
    nofun,
    otherFlags inheritingClass {} .deep .shallow nofun false true,
    counted
  ⟩

end PlanReport

end ClonePlanner
