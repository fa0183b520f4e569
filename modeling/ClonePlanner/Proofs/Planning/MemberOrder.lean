import ClonePlanner.Proofs.Planning.CorrespondingDeclarations

/-! The order of the members inside a level reaches the order of a plan and nothing else. Names
are distinct within each level, so no member of a level hides another one of it; which level a
name stands for is settled between the levels, where the order of members has no say.
-/

namespace ClonePlanner

namespace TypeDeclaration

/-- No level of the type declares a name twice. -/
def DistinctInLevels (declaration : TypeDeclaration) : Prop :=
  ∀ level ∈ declaration.levels, (level.2.map MemberDescriptor.name).Nodup

instance (declaration : TypeDeclaration) : Decidable declaration.DistinctInLevels :=
  inferInstanceAs (Decidable (∀ level ∈ declaration.levels, _))

/-- Two declarations differ only in the order of the members inside their levels. -/
def Reordered (declaration other : TypeDeclaration) : Prop :=
  declaration.Corresponds List.Perm other

end TypeDeclaration

-----------------------------------------------------------------------------------------
-- Levels in other orders
-----------------------------------------------------------------------------------------

/-- The second list has the same entries in such an order that the levels they come from follow
each other as in the first one.
-/
structure SameLevelwise (entries others : Entries DeclaredMember) : Prop where
  perm : entries.Perm others
  origins
    : entries.map (fun entry => entry.2.declaredIn)
      = others.map (fun entry => entry.2.declaredIn)

theorem SameLevelwise.append {entries others more next : Entries DeclaredMember}
    (front : SameLevelwise entries others) (back : SameLevelwise more next)
    : SameLevelwise (entries ++ more) (others ++ next) where
  perm := front.perm.append back.perm
  origins := by rw [List.map_append, List.map_append, front.origins, back.origins]

/-- Entries of one level come from it, however they are ordered. -/
theorem SameLevelwise.ofLevel {entries others : Entries DeclaredMember} (declaredIn : String)
    (perm : entries.Perm others)
    (origin : ∀ entry ∈ entries, entry.2.declaredIn = declaredIn)
    : SameLevelwise entries others where
  perm
  origins := by
    rw [List.map_congr_left origin, List.map_congr_left fun entry member =>
      origin entry (perm.mem_iff.mpr member), List.map_const', List.map_const', perm.length_eq]

namespace TypeDeclaration

theorem levelEntries_perm {level other : String × List MemberDescriptor}
    (name : level.1 = other.1) (members : level.2.Perm other.2)
    : (levelEntries level).Perm (levelEntries other) := by
  rw [levelEntries, levelEntries, name]
  exact members.map _

theorem nodup_keys_levelEntries {level : String × List MemberDescriptor}
    (distinct : (level.2.map MemberDescriptor.name).Nodup)
    : (Entries.keys (levelEntries level)).Nodup := by
  rwa [Entries.keys, levelEntries, List.map_map]

/-- Of levels in other orders the same first declarations are kept, level by level. Witness:
induction over the levels; all of a level is kept but for the names that are declared above it,
and which names those are does not depend on their order.
-/
theorem firstOfEachKey_sameLevelwise {levels others : List (String × List MemberDescriptor)}
    (aligned
      : List.Forall₂ (fun level other => level.1 = other.1 ∧ level.2.Perm other.2)
          levels others)
    (distinct : ∀ level ∈ levels, (level.2.map MemberDescriptor.name).Nodup)
    (keep : String × DeclaredMember → Bool)
    : SameLevelwise
        ((Entries.firstOfEachKey (levels.flatMap levelEntries)).filter keep)
        ((Entries.firstOfEachKey (others.flatMap levelEntries)).filter keep) := by
  induction aligned generalizing keep with
  | nil => exact ⟨.nil, rfl⟩
  | @cons level other levels others head _ ih =>
      obtain ⟨ownDistinct, restDistinct⟩ := List.forall_mem_cons.mp distinct
      have perm := levelEntries_perm head.1 head.2
      have ownNodup := nodup_keys_levelEntries ownDistinct
      have otherNodup := (perm.map Prod.fst).nodup_iff.mp ownNodup
      have sameNames (name : String)
          : name ∈ Entries.keys (levelEntries level) ↔ name ∈ Entries.keys (levelEntries other) :=
        (perm.map Prod.fst).mem_iff
      simp only [List.flatMap_cons, Entries.firstOfEachKey_append, List.filter_append,
        List.filter_filter, Entries.firstOfEachKey_of_nodup ownNodup,
        Entries.firstOfEachKey_of_nodup otherNodup, sameNames]
      refine (SameLevelwise.ofLevel level.1 (perm.filter keep) ?_).append (ih restDistinct _)
      intro entry there
      obtain ⟨member, _, rfl⟩ := List.mem_map.mp (List.mem_filter.mp there).1
      rfl

variable {declaration other : TypeDeclaration}

theorem Reordered.collected (reordered : declaration.Reordered other)
    (distinct : declaration.DistinctInLevels)
    : SameLevelwise declaration.collected.entries other.collected.entries := by
  rw [collected_entries, collected_entries]
  exact firstOfEachKey_sameLevelwise reordered.levels distinct _

theorem Reordered.plan_entries_perm (reordered : declaration.Reordered other)
    (distinct : declaration.DistinctInLevels) (capability : Capability)
    (options : PlannerOptions)
    : (declaration.plan capability options).members.entries.Perm
        (other.plan capability options).members.entries := by
  rw [plan_members_entries, plan_members_entries]
  exact (reordered.collected distinct).perm.map _

/-- Entries are as their levels follow each other, since an entry names the level of its
member.
-/
theorem Reordered.plan_origins (reordered : declaration.Reordered other)
    (distinct : declaration.DistinctInLevels) (capability : Capability)
    (options : PlannerOptions)
    : (declaration.plan capability options).members.values.map PlanEntry.declaredIn
      = (other.plan capability options).members.values.map PlanEntry.declaredIn := by
  have origins (declaration : TypeDeclaration)
      : (declaration.plan capability options).members.values.map PlanEntry.declaredIn
        = declaration.collected.entries.map fun entry => entry.2.declaredIn := by
    rw [OrderedMap.values, plan_members_entries]
    simp only [Entries.values, Entries.mapValues, List.map_map]
    rfl
  rw [origins, origins, (reordered.collected distinct).origins]

/-- The order of the members inside the levels reaches the order of a plan and nothing else, if
no level declares a name twice. The type is left out for the same reason, or it is planned with
the same strategy and the same entry under every name; and the entries come from the same levels
one after another.
-/
theorem outcome_reordered (reordered : declaration.Reordered other)
    (distinct : declaration.DistinctInLevels) (capability : Capability)
    (options : PlannerOptions)
    : (∃ reason,
        declaration.outcome capability options = .skipped reason
        ∧ other.outcome capability options = .skipped reason)
      ∨ ∃ plan otherPlan,
          declaration.outcome capability options = .planned plan
          ∧ other.outcome capability options = .planned otherPlan
          ∧ plan.typeName = otherPlan.typeName
          ∧ plan.capability = otherPlan.capability
          ∧ plan.strategy = otherPlan.strategy
          ∧ (∀ name, plan.members.get? name = otherPlan.members.get? name)
          ∧ plan.members.entries.Perm otherPlan.members.entries
          ∧ plan.members.values.map PlanEntry.declaredIn
            = otherPlan.members.values.map PlanEntry.declaredIn := by
  rcases outcome_cases (reordered.skipReason? capability options) with
    skipped | ⟨planned, otherPlanned⟩
  · exact .inl skipped
  · have perm := reordered.plan_entries_perm distinct capability options
    have fits := declaration.plan_strategyFits capability options
    have otherFits := other.plan_strategyFits capability options
    rw [← reordered.recordLike] at otherFits
    have strategy := fits.strategy_eq_of_marks otherFits ((perm.map Prod.snd).map PlanEntry.marks)
    refine .inr ⟨_, _, planned, otherPlanned, reordered.name, rfl, strategy, ?_, perm,
      reordered.plan_origins distinct capability options⟩
    intro name
    exact Entries.get?_of_perm perm (declaration.plan capability options).members.nodup

end TypeDeclaration

/-- The class with the members of every level in the opposite order. -/
def invertedClass : TypeDeclaration :=
  { inheritingClass with
    members := inheritingClass.members.reverse
    ancestors := inheritingClass.ancestors.map fun ancestor =>
      { ancestor with members := ancestor.members.reverse } }

theorem inheritingClass_reordered : inheritingClass.Reordered invertedClass where
  name := rfl
  isAbstract := rfl
  recordLike := rfl
  capabilities := rfl
  userImplemented := rfl
  members := (List.reverse_perm _).symm
  ancestors := by
    rw [invertedClass, List.forall₂_map_right_iff, List.forall₂_same]
    exact fun ancestor _ => ⟨rfl, (List.reverse_perm _).symm⟩

/-- The plans of the two classes have the same entries in different orders. -/
theorem inheritingClass_outcome_reordered
    : inheritingClass.Reordered invertedClass
      ∧ inheritingClass.DistinctInLevels
      ∧ ∃ plan otherPlan,
          inheritingClass.outcome .deep {} = .planned plan
          ∧ invertedClass.outcome .deep {} = .planned otherPlan
          ∧ plan.members.entries.Perm otherPlan.members.entries
          ∧ plan.members.keys = ["id", "grid", "tags", "owner"]
          ∧ otherPlan.members.keys = ["grid", "id", "tags", "owner"] := by
  have distinct : inheritingClass.DistinctInLevels := by decide
  refine ⟨inheritingClass_reordered, distinct, ?_⟩
  rcases TypeDeclaration.outcome_reordered inheritingClass_reordered distinct .deep {} with
    ⟨reason, skipped, _⟩ | ⟨plan, otherPlan, planned, otherPlanned, _, _, _, _, perm, _⟩
  · cases skipped
  · have own : inheritingClass.plan .deep {} = plan := PlanOutcome.planned.inj planned
    have others : invertedClass.plan .deep {} = otherPlan := PlanOutcome.planned.inj otherPlanned
    refine ⟨plan, otherPlan, planned, otherPlanned, perm, ?_, ?_⟩
    · rw [← own]
      decide
    · rw [← others]
      decide

end ClonePlanner
