import ClonePlanner.Proofs.Planning.ClassificationCases
import ClonePlanner.Proofs.Planning.PlanCoverage

/-! The deep and the shallow plan of a type enumerate the same members. Their actions part
exactly where the deep plan transforms a member, and their strategies part exactly where an
array of rank two or more is all that asks for statements.
-/

namespace ClonePlanner

/-- The second entry assigns the member that the first one clones or assigns. -/
structure PlanEntry.AssignedBy (deep shallow : PlanEntry) : Prop where
  initOnly : shallow.initOnly = deep.initOnly
  declaredIn : shallow.declaredIn = deep.declaredIn
  direct : shallow.action.isDirectAssignment = true
  unguarded : shallow.nullGuarded = false
  sameAction : shallow.action = deep.action ↔ deep.action.isDirectAssignment = true

/-- Both entries of a member carry over its kind of mutability and its origin. -/
theorem DeclaredMember.entry_assignedBy (declared : DeclaredMember)
    : (declared.entry (Capability.deep.action declared.member.type)).AssignedBy
        (declared.entry (Capability.shallow.action declared.member.type)) := by
  have direct := declared.member.type.isDirectAssignment_directAssignment
  refine {
    initOnly := rfl
    declaredIn := rfl
    direct
    unguarded := by
      simp only [entry, Capability.action, direct, Bool.not_true, Bool.false_and]
    sameAction := ?_
  }
  simp only [entry, Capability.action]
  constructor
  · intro same
    rwa [← same]
  · intro assigned
    exact (TypeDescriptor.classify_eq_directAssignment assigned).symm

namespace TypeDeclaration

variable (declaration : TypeDeclaration) (options : PlannerOptions)

/-- Nothing but an array of rank two or more asks for statements. -/
def NeedsArrayStatements : Prop :=
  options.inlineMultiRankArrays = false
  ∧ (∀ declared ∈ declaration.collectedMembers, declared.member.isInitOnly = false)
  ∧ ∃ declared ∈ declaration.collectedMembers, declared.member.type.IsMultiRankArray

theorem outcome_eq_planned {declaration : TypeDeclaration} {options : PlannerOptions}
    {capability : Capability} {plan : ClonePlan}
    (planned : declaration.outcome capability options = .planned plan)
    : plan = declaration.plan capability options := by
  unfold outcome at planned
  split at planned
  · cases planned
  · exact (PlanOutcome.planned.inj planned).symm

/-- Both plans are made of the members collected once, so they are aligned one for one. -/
theorem plan_members_assignedBy
    : List.Forall₂ (fun deep shallow => shallow.1 = deep.1 ∧ deep.2.AssignedBy shallow.2)
        (declaration.plan .deep options).members.entries
        (declaration.plan .shallow options).members.entries := by
  apply forall₂_plan_entries
  rw [List.forall₂_same]
  intro entry _
  exact ⟨rfl, entry.2.entry_assignedBy⟩

theorem deep_plan_hasMultiRankArray_iff
    : (declaration.plan .deep options).HasMultiRankArray
      ↔ ∃ declared ∈ declaration.collectedMembers, declared.member.type.IsMultiRankArray := by
  simp only [ClonePlan.HasMultiRankArray, mem_plan_members_values]
  constructor
  · rintro ⟨_, ⟨declared, member, rfl⟩, array⟩
    exact ⟨declared, member, TypeDescriptor.classify_copiesMultiRankArray_iff.mp array⟩
  · rintro ⟨declared, member, array⟩
    exact ⟨_, ⟨declared, member, rfl⟩, TypeDescriptor.classify_copiesMultiRankArray_iff.mpr array⟩

theorem needsArrayStatements_iff (capability : Capability)
    : declaration.NeedsArrayStatements options
      ↔ options.inlineMultiRankArrays = false
        ∧ ¬ (declaration.plan capability options).HasInitOnly
        ∧ (declaration.plan .deep options).HasMultiRankArray := by
  simp only [NeedsArrayStatements, plan_hasInitOnly_iff, deep_plan_hasMultiRankArray_iff,
    not_exists, not_and, Bool.not_eq_true]

/-- The shallow plan needs a functional update exactly where the deep plan does, since both
ask the same members.
-/
theorem functionalUpdate_iff_functionalUpdate
    : (declaration.plan .shallow options).strategy = .functionalUpdate
      ↔ (declaration.plan .deep options).strategy = .functionalUpdate := by
  rw [(declaration.plan_strategyFits .shallow options).functionalUpdate,
    (declaration.plan_strategyFits .deep options).functionalUpdate, plan_hasInitOnly_iff,
    plan_hasInitOnly_iff]

/-- Where nothing but an array asks for statements, only the deep plan takes them. -/
theorem strategies_of_needsArrayStatements
    (needs : declaration.NeedsArrayStatements options)
    : (declaration.plan .deep options).strategy = .statementSequence
      ∧ (declaration.plan .shallow options).strategy = .objectInitializer := by
  obtain ⟨asStatements, noInitOnly, array⟩ :=
    (declaration.needsArrayStatements_iff options .deep).mp needs
  obtain ⟨_, stillNone, _⟩ := (declaration.needsArrayStatements_iff options .shallow).mp needs
  constructor
  · apply (declaration.plan_strategyFits .deep options).statementSequence.mpr
    exact ⟨fun update => noInitOnly update.2, .inr ⟨asStatements, array⟩⟩
  · apply (declaration.plan_strategyFits .shallow options).objectInitializer.mpr
    exact ⟨stillNone, fun copied => shallow_plan_not_hasMultiRankArray _ _ copied.2⟩

/-- Where something else decides, it decides for both plans. -/
theorem strategies_eq_of_not_needsArrayStatements
    (other : ¬ declaration.NeedsArrayStatements options)
    : (declaration.plan .deep options).strategy
      = (declaration.plan .shallow options).strategy := by
  have shallowFits := declaration.plan_strategyFits .shallow options
  have sameInitOnly : (declaration.plan .deep options).HasInitOnly
      ↔ (declaration.plan .shallow options).HasInitOnly := by
    rw [plan_hasInitOnly_iff, plan_hasInitOnly_iff]
  apply (declaration.plan_strategyFits .deep options).strategy_eq shallowFits sameInitOnly
  intro noInitOnly
  apply iff_of_false
  · intro array
    exact other ((declaration.needsArrayStatements_iff options .shallow).mpr
      ⟨array.1, noInitOnly, array.2⟩)
  · intro array
    exact shallow_plan_not_hasMultiRankArray _ _ array.2

/-- The two plans of a type are views of one enumeration. They have the same names in the same
order, and the shallow entry of each member assigns it: as the deep entry does where that one
assigns it too, and otherwise in another way. The strategies are equal, and functional updates
at once, unless an array of rank two or more is all that asks for statements; then, and only
then, the deep plan takes statements and the shallow plan an initializer.
-/
theorem deep_shallow_agree {deep shallow : ClonePlan}
    (deepPlanned : declaration.outcome .deep options = .planned deep)
    (shallowPlanned : declaration.outcome .shallow options = .planned shallow)
    : shallow.members.keys = deep.members.keys
      ∧ List.Forall₂ (fun deep shallow => shallow.1 = deep.1 ∧ deep.2.AssignedBy shallow.2)
          deep.members.entries shallow.members.entries
      ∧ (shallow.strategy = .functionalUpdate ↔ deep.strategy = .functionalUpdate)
      ∧ (deep.strategy = shallow.strategy ↔ ¬ declaration.NeedsArrayStatements options)
      ∧ (deep.strategy = .statementSequence ∧ shallow.strategy = .objectInitializer
        ↔ declaration.NeedsArrayStatements options) := by
  obtain rfl := outcome_eq_planned deepPlanned
  obtain rfl := outcome_eq_planned shallowPlanned
  have parted := declaration.strategies_of_needsArrayStatements options
  have equal := declaration.strategies_eq_of_not_needsArrayStatements options
  refine ⟨?_, plan_members_assignedBy .., functionalUpdate_iff_functionalUpdate .., ?_, ?_⟩
  · simp only [OrderedMap.keys, plan_members_entries, Entries.keys_mapValues]
  · refine ⟨fun same needs => ?_, equal⟩
    obtain ⟨statements, initializer⟩ := parted needs
    rw [statements, initializer] at same
    cases same
  · refine ⟨?_, parted⟩
    intro chosen
    obtain ⟨statements, initializer⟩ := chosen
    by_contra other
    have same := equal other
    rw [statements, initializer] at same
    cases same

end TypeDeclaration

/-- A class with an array of rank two, another one that is hidden, and an inherited list. -/
def gridClass : TypeDeclaration :=
  {
    TypeDeclaration.ofClass "Board" [
      .writable "cells" (.array (.cloneable "Cell") 2),
      (MemberDescriptor.writable "cache" (.array (.scalar "int") 3)).hidden] with
    ancestors := [⟨"Entity", [.writable "tags" (.list (.cloneable "Tag"))]⟩]
  }

/-- If arrays are duplicated by statements, only the deep plan of the class takes statements. -/
theorem gridClass_deep_shallow_agree
    : let options : PlannerOptions := .withMultiRankArraysAsStatements {}
      ∃ deep shallow,
        gridClass.outcome .deep options = .planned deep
        ∧ gridClass.outcome .shallow options = .planned shallow
        ∧ shallow.members.keys = deep.members.keys
        ∧ deep.strategy = .statementSequence
        ∧ shallow.strategy = .objectInitializer := by
  intro options
  refine ⟨gridClass.plan .deep options, gridClass.plan .shallow options, rfl, rfl, ?_⟩
  obtain ⟨names, _, _, _, parted⟩ := gridClass.deep_shallow_agree options rfl rfl
  have noInitOnly : ∀ declared ∈ gridClass.collectedMembers,
      declared.member.isInitOnly = false := by
    decide
  have cells : ∃ declared ∈ gridClass.collectedMembers,
      declared.member.type.IsMultiRankArray :=
    ⟨⟨.writable "cells" (.array (.cloneable "Cell") 2), "Board"⟩,
      List.mem_of_getElem? (i := 0) rfl, 2, .cloneable "Cell", rfl, by decide⟩
  exact ⟨names, parted.mpr ⟨rfl, noInitOnly, cells⟩⟩

end ClonePlanner
