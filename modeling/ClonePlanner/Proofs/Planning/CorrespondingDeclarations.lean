import ClonePlanner.Proofs.Planning.PlanCoverage

/-! Two declarations planned side by side. They say the same of themselves, and their levels
correspond in some way; so they are left out for the same reason or planned both. The strategy
of a plan sees no more of the entries than what they do and when they can be written.
-/

namespace ClonePlanner

/-- What a strategy depends on: whether the member is written during construction only, and how
it is carried over.
-/
def PlanEntry.marks (entry : PlanEntry) : Bool × CloneAction :=
  (entry.initOnly, entry.action)

namespace ClonePlan

variable {plan other : ClonePlan}

theorem hasInitOnly_iff_marks
    : plan.HasInitOnly ↔ ∃ marks ∈ plan.members.values.map PlanEntry.marks, marks.1 = true := by
  simp only [HasInitOnly, List.mem_map, exists_exists_and_eq_and, PlanEntry.marks]

theorem hasMultiRankArray_iff_marks
    : plan.HasMultiRankArray
      ↔ ∃ marks ∈ plan.members.values.map PlanEntry.marks,
          ∃ rank element, marks.2 = .cloneArray rank element ∧ 1 < rank := by
  simp only [HasMultiRankArray, List.mem_map, exists_exists_and_eq_and, PlanEntry.marks]

/-- Plans whose entries have the same marks, in any order, have one strategy. -/
theorem StrategyFits.strategy_eq_of_marks {recordLike : Bool} {options : PlannerOptions}
    (fits : plan.StrategyFits recordLike options)
    (otherFits : other.StrategyFits recordLike options)
    (marks
      : (plan.members.values.map PlanEntry.marks).Perm
          (other.members.values.map PlanEntry.marks))
    : plan.strategy = other.strategy := by
  have initOnly : plan.HasInitOnly ↔ other.HasInitOnly := by
    simp only [hasInitOnly_iff_marks, marks.mem_iff]
  have arrays : plan.HasMultiRankArray ↔ other.HasMultiRankArray := by
    simp only [hasMultiRankArray_iff_marks, marks.mem_iff]
  exact fits.strategy_eq otherFits initOnly fun _ => and_congr_right' arrays

end ClonePlan

/-- Entries under the same keys in the same order, with values that are related. -/
def Entries.Aligned {α β : Type} (related : α → β → Prop) : Entries α → Entries β → Prop :=
  List.Forall₂ fun entry other => entry.1 = other.1 ∧ related entry.2 other.2

/-- The first entries of aligned lists are aligned, by induction along both. -/
theorem Entries.Aligned.firstOfEachKey {α β : Type} {related : α → β → Prop}
    {entries : Entries α} {others : Entries β} (aligned : entries.Aligned related others)
    : entries.firstOfEachKey.Aligned related others.firstOfEachKey := by
  induction aligned with
  | nil => exact .nil
  | cons head _ ih =>
      refine .cons head (List.rel_filter ?_ ih)
      intro later otherLater same
      simp [same.1, head.1]

/-- Two members correspond, and their levels have one name. -/
def DeclaredMember.Corresponds (alike : MemberDescriptor → MemberDescriptor → Prop)
    (declared other : DeclaredMember)
    : Prop :=
  declared.declaredIn = other.declaredIn ∧ alike declared.member other.member

namespace TypeDeclaration

/-- Two declarations say the same of themselves, and the members of their levels correspond. -/
structure Corresponds (alike : List MemberDescriptor → List MemberDescriptor → Prop)
    (declaration other : TypeDeclaration)
    : Prop where
  name : declaration.name = other.name
  isAbstract : declaration.isAbstract = other.isAbstract
  recordLike : declaration.recordLike = other.recordLike
  capabilities : declaration.capabilities = other.capabilities
  userImplemented : declaration.userImplemented = other.userImplemented
  members : alike declaration.members other.members
  ancestors
    : List.Forall₂
        (fun ancestor otherAncestor =>
          ancestor.name = otherAncestor.name ∧ alike ancestor.members otherAncestor.members)
        declaration.ancestors other.ancestors

/-- Two planning runs end alike if the same speaks against both. -/
theorem outcome_cases {declaration other : TypeDeclaration} {capability : Capability}
    {options others : PlannerOptions}
    (same : declaration.skipReason? capability options = other.skipReason? capability others)
    : (∃ reason,
        declaration.outcome capability options = .skipped reason
        ∧ other.outcome capability others = .skipped reason)
      ∨ declaration.outcome capability options = .planned (declaration.plan capability options)
        ∧ other.outcome capability others = .planned (other.plan capability others) := by
  cases found : other.skipReason? capability others with
  | some reason => exact .inl ⟨reason, by simp only [outcome, same, found, and_self]⟩
  | none => exact .inr (by simp only [outcome, same, found, and_self])

namespace Corresponds

variable {alike : List MemberDescriptor → List MemberDescriptor → Prop}
  {declaration other : TypeDeclaration}

theorem levels (same : declaration.Corresponds alike other)
    : List.Forall₂ (fun level otherLevel => level.1 = otherLevel.1 ∧ alike level.2 otherLevel.2)
        declaration.levels other.levels := by
  refine .cons ⟨same.name, same.members⟩ ?_
  rw [List.forall₂_map_left_iff, List.forall₂_map_right_iff]
  exact same.ancestors

theorem skipReason? (same : declaration.Corresponds alike other) (capability : Capability)
    (options : PlannerOptions)
    : declaration.skipReason? capability options = other.skipReason? capability options := by
  simp only [TypeDeclaration.skipReason?, same.isAbstract, same.capabilities,
    same.userImplemented]

/-- If the members correspond one by one, and in all that has a say in collecting them, then so
do the collected ones.
-/
theorem collected {alike : MemberDescriptor → MemberDescriptor → Prop}
    (same : declaration.Corresponds (List.Forall₂ alike) other)
    (name : ∀ {member otherMember}, alike member otherMember → member.name = otherMember.name)
    (eligible
      : ∀ {member otherMember},
          alike member otherMember → member.isEligible = otherMember.isEligible)
    : declaration.collected.entries.Aligned (DeclaredMember.Corresponds alike)
        other.collected.entries := by
  have declared : declaration.declaredEntries.Aligned (DeclaredMember.Corresponds alike)
      other.declaredEntries := by
    refine List.rel_flatMap same.levels ?_
    intro level otherLevel levels
    refine List.rel_map ?_ levels.2
    intro member otherMember members
    exact ⟨name members, levels.1, members⟩
  rw [collected_entries, collected_entries]
  refine List.rel_filter ?_ declared.firstOfEachKey
  intro entry otherEntry entries
  simp only [eligible entries.2.2]

end Corresponds

end TypeDeclaration

end ClonePlanner
