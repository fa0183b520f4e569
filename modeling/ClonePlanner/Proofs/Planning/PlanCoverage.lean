import ClonePlanner.Planning.Outcome
import ClonePlanner.Proofs.Planning.FirstDeclarations
import Mathlib.Data.List.Forall2

/-! A plan covers the collected members one for one, and its strategy can be told from its
entries. The members, the actions and the entries are three lists of one length, made one
after another; distinct names keep them aligned when the entries are written into a map.
-/

namespace ClonePlanner

-----------------------------------------------------------------------------------------
-- What a strategy says about the entries it was selected for
-----------------------------------------------------------------------------------------

namespace ConstructionStrategy

variable {recordLike : Bool} {entries : List (MemberDescriptor × CloneAction)}
  {options : PlannerOptions}

/-- Functional updates are for records with a member written during construction only. -/
theorem select_eq_functionalUpdate_iff
    : select recordLike entries options = .functionalUpdate
      ↔ recordLike = true ∧ ∃ entry ∈ entries, entry.1.isInitOnly = true := by
  rw [← List.any_eq_true]
  simp only [select]
  cases recordLike <;> cases entries.any (·.1.isInitOnly) <;>
    cases entries.any (!·.2.isInline options) <;> simp

/-- One initializer does where no member is written during construction only and no action
takes statements.
-/
theorem select_eq_objectInitializer_iff
    : select recordLike entries options = .objectInitializer
      ↔ (¬ ∃ entry ∈ entries, entry.1.isInitOnly = true)
        ∧ ¬ ∃ entry ∈ entries, (!entry.2.isInline options) = true := by
  rw [← List.any_eq_true, ← List.any_eq_true]
  simp only [select]
  cases recordLike <;> cases entries.any (·.1.isInitOnly) <;>
    cases entries.any (!·.2.isInline options) <;> simp

end ConstructionStrategy

/-- Only a copy of an array of rank two or more may take statements. -/
theorem CloneAction.isInline_eq_false_iff {action : CloneAction} {options : PlannerOptions}
    : action.isInline options = false
      ↔ options.inlineMultiRankArrays = false
        ∧ ∃ rank element, action = .cloneArray rank element ∧ 1 < rank := by
  cases action <;> simp [isInline, UInt32.not_le, and_comm]

-----------------------------------------------------------------------------------------
-- The three passes stay aligned
-----------------------------------------------------------------------------------------

/-- Some entry of the plan is written during construction only. -/
def ClonePlan.HasInitOnly (plan : ClonePlan) : Prop :=
  ∃ entry ∈ plan.members.values, entry.initOnly = true

/-- Some entry of the plan copies an array of rank two or more. -/
def ClonePlan.HasMultiRankArray (plan : ClonePlan) : Prop :=
  ∃ entry ∈ plan.members.values,
    ∃ rank element, entry.action = .cloneArray rank element ∧ 1 < rank

namespace TypeDeclaration

variable (declaration : TypeDeclaration) (capability : Capability) (options : PlannerOptions)

/-- Each collected member is entered once, in order, with the action for its own type.
Witness: the actions are paired with the members they were chosen for, and the names under
which the pairs are written are distinct.
-/
theorem plan_members_entries
    : (declaration.plan capability options).members.entries
      = declaration.collected.entries.mapValues fun declared =>
          declared.entry (capability.action declared.member.type) := by
  have written : (declaration.plan capability options).members
      = .ofList (declaration.collected.entries.mapValues fun declared =>
          declared.entry (capability.action declared.member.type)) := by
    simp only [plan]
    rw [← List.map_prod_left_eq_zip, List.map_map]
    refine congrArg _ ?_
    simp only [collectedMembers, OrderedMap.values, Entries.values, List.map_map]
    refine List.map_congr_left fun entry member => ?_
    simp only [Function.comp_apply, collected_entry_name member]
  have distinct : (Entries.keys declaration.collected.entries).Nodup :=
    declaration.collected.nodup
  rw [written, OrderedMap.entries_ofList]
  rwa [Entries.keys_mapValues]

/-- Entries of two plans are related if they are for the members that they are made of. -/
theorem forall₂_plan_entries {declaration other : TypeDeclaration}
    {capability otherCapability : Capability} {options others : PlannerOptions}
    {related : String × PlanEntry → String × PlanEntry → Prop}
    (collected
      : List.Forall₂
          (fun entry otherEntry =>
            related
              (entry.1, entry.2.entry (capability.action entry.2.member.type))
              (otherEntry.1, otherEntry.2.entry (otherCapability.action otherEntry.2.member.type)))
          declaration.collected.entries other.collected.entries)
    : List.Forall₂ related (declaration.plan capability options).members.entries
        (other.plan otherCapability others).members.entries := by
  rw [plan_members_entries, plan_members_entries, Entries.mapValues, Entries.mapValues,
    List.forall₂_map_left_iff, List.forall₂_map_right_iff]
  exact collected

theorem plan_strategy
    : (declaration.plan capability options).strategy
      = .select declaration.recordLike
          (declaration.collectedMembers.map fun declared =>
            (declared.member, capability.action declared.member.type))
          options := by
  simp only [plan, List.zip_map']

theorem mem_plan_members_values {entry : PlanEntry}
    : entry ∈ (declaration.plan capability options).members.values
      ↔ ∃ declared ∈ declaration.collectedMembers,
          declared.entry (capability.action declared.member.type) = entry := by
  rw [OrderedMap.values, plan_members_entries]
  simp only [Entries.values, Entries.mapValues, List.map_map, collectedMembers,
    OrderedMap.values, List.mem_map, Function.comp_apply, exists_exists_and_eq_and]

theorem plan_hasInitOnly_iff
    : (declaration.plan capability options).HasInitOnly
      ↔ ∃ declared ∈ declaration.collectedMembers, declared.member.isInitOnly = true := by
  simp only [ClonePlan.HasInitOnly, mem_plan_members_values]
  constructor
  · rintro ⟨_, ⟨declared, member, rfl⟩, initOnly⟩
    exact ⟨declared, member, initOnly⟩
  · rintro ⟨declared, member, initOnly⟩
    exact ⟨_, ⟨declared, member, rfl⟩, initOnly⟩

/-- A shallow plan copies no array of any rank, since it only assigns. -/
theorem shallow_plan_not_hasMultiRankArray
    : ¬ (declaration.plan .shallow options).HasMultiRankArray := by
  rintro ⟨entry, member, rank, element, array, _⟩
  obtain ⟨declared, _, rfl⟩ := (mem_plan_members_values ..).mp member
  simp only [DeclaredMember.entry, Capability.action, TypeDescriptor.directAssignment] at array
  split at array <;> exact CloneAction.noConfusion array

theorem plan_takesStatements_iff
    : (∃ declared ∈ declaration.collectedMembers,
        (capability.action declared.member.type).isInline options = false)
      ↔ options.inlineMultiRankArrays = false
        ∧ (declaration.plan capability options).HasMultiRankArray := by
  simp only [CloneAction.isInline_eq_false_iff, ClonePlan.HasMultiRankArray,
    mem_plan_members_values]
  constructor
  · rintro ⟨declared, member, asStatements, array⟩
    exact ⟨asStatements, _, ⟨declared, member, rfl⟩, array⟩
  · rintro ⟨asStatements, _, ⟨declared, member, rfl⟩, array⟩
    exact ⟨declared, member, asStatements, array⟩

end TypeDeclaration

/-- An entry is what its capability makes of a collected member. -/
structure PlanEntry.Covers (entry : PlanEntry) (declared : DeclaredMember)
    (capability : Capability)
    : Prop where
  deep : capability = .deep → entry.action = declared.member.type.classify
  shallow : capability = .shallow → entry.action = declared.member.type.directAssignment
  initOnly : entry.initOnly = declared.member.isInitOnly
  declaredIn : entry.declaredIn = declared.declaredIn
  nullGuarded
    : entry.nullGuarded = true
      ↔ entry.action.isDirectAssignment = false
        ∧ (declared.member.type.nullable = true
          ∨ declared.member.type.isReferenceType = true)

/-- The strategy of a plan is the one that its entries call for. -/
structure ClonePlan.StrategyFits (plan : ClonePlan) (recordLike : Bool)
    (options : PlannerOptions)
    : Prop where
  functionalUpdate
    : plan.strategy = .functionalUpdate ↔ recordLike = true ∧ plan.HasInitOnly
  statementSequence
    : plan.strategy = .statementSequence
      ↔ ¬ (recordLike = true ∧ plan.HasInitOnly)
        ∧ (plan.HasInitOnly ∨ options.inlineMultiRankArrays = false ∧ plan.HasMultiRankArray)
  objectInitializer
    : plan.strategy = .objectInitializer
      ↔ ¬ plan.HasInitOnly
        ∧ ¬ (options.inlineMultiRankArrays = false ∧ plan.HasMultiRankArray)
  empty : plan.isEmpty = true → plan.strategy = .objectInitializer
  shallow
    : plan.capability = .shallow → plan.strategy = .statementSequence → plan.HasInitOnly

/-- Two plans for a record, or for a class, have one strategy if the same speaks for it: whether
a member is written during construction only and, where none is, whether an array takes
statements. By cases on the strategy.
-/
theorem ClonePlan.StrategyFits.strategy_eq {plan other : ClonePlan} {recordLike : Bool}
    {options others : PlannerOptions}
    (fits : plan.StrategyFits recordLike options)
    (otherFits : other.StrategyFits recordLike others)
    (initOnly : plan.HasInitOnly ↔ other.HasInitOnly)
    (arrays
      : ¬ other.HasInitOnly
        → (options.inlineMultiRankArrays = false ∧ plan.HasMultiRankArray
          ↔ others.inlineMultiRankArrays = false ∧ other.HasMultiRankArray))
    : plan.strategy = other.strategy := by
  cases strategy : other.strategy with
  | functionalUpdate =>
      obtain ⟨record, marked⟩ := otherFits.functionalUpdate.mp strategy
      exact fits.functionalUpdate.mpr ⟨record, initOnly.mpr marked⟩
  | objectInitializer =>
      obtain ⟨noInitOnly, noArray⟩ := otherFits.objectInitializer.mp strategy
      apply fits.objectInitializer.mpr
      exact ⟨fun marked => noInitOnly (initOnly.mp marked),
        fun array => noArray ((arrays noInitOnly).mp array)⟩
  | statementSequence =>
      obtain ⟨noUpdate, marks⟩ := otherFits.statementSequence.mp strategy
      apply fits.statementSequence.mpr
      refine ⟨fun update => noUpdate ⟨update.1, initOnly.mp update.2⟩, ?_⟩
      by_cases marked : other.HasInitOnly
      · exact .inl (initOnly.mpr marked)
      · exact .inr ((arrays marked).mpr (marks.resolve_left marked))

theorem DeclaredMember.entry_covers (declared : DeclaredMember) (capability : Capability)
    : (declared.entry (capability.action declared.member.type)).Covers declared capability where
  deep := by
    rintro rfl
    rfl
  shallow := by
    rintro rfl
    rfl
  initOnly := rfl
  declaredIn := rfl
  nullGuarded := by
    simp [DeclaredMember.entry, TypeDescriptor.canBeAbsent]

namespace TypeDeclaration

variable (declaration : TypeDeclaration) (capability : Capability) (options : PlannerOptions)

/-- The strategy selected for the members is the one that the finished entries call for.
Witness: the conditions of two strategies are carried over from the members to the entries;
the third strategy is left for what meets neither.
-/
theorem plan_strategyFits
    : (declaration.plan capability options).StrategyFits declaration.recordLike options := by
  have functional
      : (declaration.plan capability options).strategy = .functionalUpdate
        ↔ declaration.recordLike = true
          ∧ (declaration.plan capability options).HasInitOnly := by
    rw [plan_strategy, ConstructionStrategy.select_eq_functionalUpdate_iff, plan_hasInitOnly_iff]
    simp only [List.mem_map, exists_exists_and_eq_and]
  have initializer
      : (declaration.plan capability options).strategy = .objectInitializer
        ↔ ¬ (declaration.plan capability options).HasInitOnly
          ∧ ¬ (options.inlineMultiRankArrays = false
              ∧ (declaration.plan capability options).HasMultiRankArray) := by
    rw [plan_strategy, ConstructionStrategy.select_eq_objectInitializer_iff,
      plan_hasInitOnly_iff, ← plan_takesStatements_iff]
    simp only [List.mem_map, exists_exists_and_eq_and, Bool.not_eq_true']
  have statements
      : (declaration.plan capability options).strategy = .statementSequence
        ↔ ¬ (declaration.recordLike = true
              ∧ (declaration.plan capability options).HasInitOnly)
          ∧ ((declaration.plan capability options).HasInitOnly
            ∨ options.inlineMultiRankArrays = false
              ∧ (declaration.plan capability options).HasMultiRankArray) := by
    rw [← functional, or_iff_not_and_not, ← initializer]
    cases (declaration.plan capability options).strategy <;> simp
  refine ⟨functional, statements, initializer, ?_, ?_⟩
  · intro empty
    have noEntry (entry : PlanEntry)
        : entry ∉ (declaration.plan capability options).members.values := by
      rw [OrderedMap.values, List.isEmpty_iff.mp empty]
      exact List.not_mem_nil
    refine initializer.mpr ⟨?_, ?_⟩
    · rintro ⟨entry, member, _⟩
      exact noEntry entry member
    · rintro ⟨_, entry, member, _⟩
      exact noEntry entry member
  · rintro rfl chosen
    rcases (statements.mp chosen).2 with initOnly | ⟨_, array⟩
    · exact initOnly
    · exact (shallow_plan_not_hasMultiRankArray _ _ array).elim

/-- A capability that nothing speaks against is planned. The plan has the collected names in
their order, one entry for each collected member that carries over its action, its kind of
mutability and its origin and guards it where it may be absent, and the strategy that these
entries call for.
-/
theorem outcome_planned_of_eligible
    (eligible : declaration.skipReason? capability options = none)
    : ∃ plan,
        declaration.outcome capability options = .planned plan
        ∧ plan.typeName = declaration.name
        ∧ plan.capability = capability
        ∧ plan.members.keys = declaration.collectedMembers.map DeclaredMember.name
        ∧ List.Forall₂
            (fun declared entry =>
              entry.1 = DeclaredMember.name declared ∧ entry.2.Covers declared capability)
            declaration.collectedMembers plan.members.entries
        ∧ plan.StrategyFits declaration.recordLike options := by
  have planned : declaration.outcome capability options
      = .planned (declaration.plan capability options) := by
    simp only [outcome, eligible]
  refine ⟨_, planned, rfl, rfl, ?_, ?_, plan_strategyFits ..⟩
  · rw [← collected_keys, OrderedMap.keys, plan_members_entries, Entries.keys_mapValues]
    rfl
  · rw [plan_members_entries, Entries.mapValues, List.forall₂_map_right_iff, collectedMembers,
      OrderedMap.values, Entries.values, List.forall₂_map_left_iff, List.forall₂_same]
    intro entry member
    exact ⟨collected_entry_name member, entry.2.entry_covers capability⟩

end TypeDeclaration

/-- A class below two levels: it redeclares `id` and hides `secret`, both of which the levels
above it declare again.
-/
def inheritingClass : TypeDeclaration :=
  {
    TypeDeclaration.ofClass "Order" [
      .initOnly "id" (.scalar "int"),
      .writable "grid" (.array (.scalar "int") 2),
      (MemberDescriptor.writable "secret" .string).hidden] with
    ancestors := [
      ⟨"Entity", [.writable "secret" .string, .writable "tags" (.list (.cloneable "Tag"))]⟩,
      ⟨"Root", [.writable "id" .string, .writable "tags" .string, .writable "owner" .string]⟩]
  }

/-- The deep plan of the class covers four members, of which two are inherited. -/
theorem inheritingClass_outcome_planned
    : inheritingClass.skipReason? .deep {} = none
      ∧ ∃ plan,
          inheritingClass.outcome .deep {} = .planned plan
          ∧ plan.members.keys = ["id", "grid", "tags", "owner"] := by
  refine ⟨rfl, ?_⟩
  obtain ⟨plan, planned, _, _, names, _⟩ :=
    inheritingClass.outcome_planned_of_eligible .deep {} rfl
  exact ⟨plan, planned, names.trans (by decide)⟩

end ClonePlanner
