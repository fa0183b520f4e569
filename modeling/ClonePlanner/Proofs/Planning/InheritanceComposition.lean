import ClonePlanner.Proofs.Planning.PlanCoverage

/-! Plans compose along the chain of ancestors. Wherever the chain is cut, the plan of the
whole type is the plan of the levels above the cut, followed by what the plan of the levels
below it has under names that no level above declares.
-/

namespace ClonePlanner

/-- The place of a strategy in the order of how much it takes to put a clone together. -/
def ConstructionStrategy.rank : ConstructionStrategy → Nat
  | .objectInitializer => 0
  | .statementSequence => 1
  | .functionalUpdate => 2

/-- More entries never take less: a plan that has the marks of another plan has a strategy that
is not below the other's, by cases on the lower strategy.
-/
theorem ClonePlan.StrategyFits.rank_le {part whole : ClonePlan} {recordLike : Bool}
    {options : PlannerOptions}
    (partFits : part.StrategyFits recordLike options)
    (wholeFits : whole.StrategyFits recordLike options)
    (initOnly : part.HasInitOnly → whole.HasInitOnly)
    (arrays : part.HasMultiRankArray → whole.HasMultiRankArray)
    : part.strategy.rank ≤ whole.strategy.rank := by
  cases strategy : part.strategy with
  | objectInitializer => exact Nat.zero_le _
  | functionalUpdate =>
      obtain ⟨record, marked⟩ := partFits.functionalUpdate.mp strategy
      exact Nat.le_of_eq (congrArg _ (wholeFits.functionalUpdate.mpr
        ⟨record, initOnly marked⟩).symm)
  | statementSequence =>
      obtain ⟨_, marks⟩ := partFits.statementSequence.mp strategy
      have more : whole.strategy ≠ .objectInitializer := by
        intro initializer
        obtain ⟨noInitOnly, noArray⟩ := wholeFits.objectInitializer.mp initializer
        rcases marks with marked | ⟨asStatements, array⟩
        · exact noInitOnly (initOnly marked)
        · exact noArray ⟨asStatements, arrays array⟩
      cases chosen : whole.strategy with
      | objectInitializer => exact (more chosen).elim
      | functionalUpdate => decide
      | statementSequence => exact Nat.le_refl _

namespace TypeDeclaration

/-- Some level of the type declares the name, whether or not a clone carries the member. -/
def Declares (declaration : TypeDeclaration) (name : String) : Prop :=
  ∃ level ∈ declaration.levels, ∃ member ∈ level.2, member.name = name

instance (declaration : TypeDeclaration) (name : String)
    : Decidable (declaration.Declares name) :=
  inferInstanceAs (Decidable (∃ level ∈ declaration.levels, ∃ member ∈ level.2, _))

/-- The type with other ancestors. -/
def withAncestors (declaration : TypeDeclaration) (ancestors : List AncestorDeclaration)
    : TypeDeclaration :=
  { declaration with ancestors }

/-- An ancestor as a type of its own, with the flags of the type that inherits from it. -/
def ofAncestor (declaration : TypeDeclaration) (ancestor : AncestorDeclaration)
    (ancestors : List AncestorDeclaration)
    : TypeDeclaration :=
  { declaration with name := ancestor.name, members := ancestor.members, ancestors }

theorem mem_keys_declaredEntries_iff {declaration : TypeDeclaration} {name : String}
    : name ∈ Entries.keys declaration.declaredEntries ↔ declaration.Declares name := by
  simp only [Entries.keys, declaredEntries, Declares, List.map_flatMap, List.map_map,
    List.mem_flatMap, List.mem_map, Function.comp_apply]

section Cut

variable {declaration : TypeDeclaration} {before after : List AncestorDeclaration}
  {ancestor : AncestorDeclaration}

theorem declaredEntries_cut (cut : declaration.ancestors = before ++ ancestor :: after)
    : declaration.declaredEntries
      = (declaration.withAncestors before).declaredEntries
        ++ (declaration.ofAncestor ancestor after).declaredEntries := by
  simp [declaredEntries, levels, cut, withAncestors, ofAncestor]

/-- The members collected above a cut come first, then those collected below it under names
that are not declared above. Shadowing is settled over all declarations, so a member that is
declared above and not collected still leaves out the one below.
-/
theorem collected_entries_cut (cut : declaration.ancestors = before ++ ancestor :: after)
    : declaration.collected.entries
      = (declaration.withAncestors before).collected.entries
        ++ (declaration.ofAncestor ancestor after).collected.entries.filter fun entry =>
            ¬ (declaration.withAncestors before).Declares entry.1 := by
  simp only [collected_entries, declaredEntries_cut cut, Entries.firstOfEachKey_append,
    List.filter_append, List.filter_filter, mem_keys_declaredEntries_iff, Bool.and_comm]

/-- The plan of a type is the plan above a cut, followed by the entries of the plan below it
whose names are not declared above. Entries keep their member, so they keep their action.
-/
theorem plan_members_entries_cut (cut : declaration.ancestors = before ++ ancestor :: after)
    (capability : Capability) (options : PlannerOptions)
    : (declaration.plan capability options).members.entries
      = ((declaration.withAncestors before).plan capability options).members.entries
        ++ ((declaration.ofAncestor ancestor after).plan capability options).members.entries.filter
            fun entry => ¬ (declaration.withAncestors before).Declares entry.1 := by
  have leftOut := Entries.mapValues_filter_key
    (fun declared => declared.entry (capability.action declared.member.type))
    (fun name => ¬ (declaration.withAncestors before).Declares name)
    (declaration.ofAncestor ancestor after).collected.entries
  simp only [plan_members_entries, collected_entries_cut cut, ← leftOut]
  exact List.map_append

theorem mem_plan_members_values_of_above
    (cut : declaration.ancestors = before ++ ancestor :: after)
    {capability : Capability} {options : PlannerOptions} {entry : PlanEntry}
    (member
      : entry ∈ ((declaration.withAncestors before).plan capability options).members.values)
    : entry ∈ (declaration.plan capability options).members.values := by
  simp only [OrderedMap.values, Entries.values, plan_members_entries_cut cut, List.map_append]
  exact List.mem_append_left _ member

end Cut

/-- Inheritance composes. Cut the ancestors of a planned type anywhere: the type with the
ancestors above the cut is planned, and so is the first ancestor below it with the rest of
the chain. The plan of the whole has the entries of the first plan and then, in their order,
the entries of the second one whose names no level above the cut declares. So ancestors that
are added at the end only append entries, and never lower the strategy.
-/
theorem outcome_planned_cut (declaration : TypeDeclaration)
    (before : List AncestorDeclaration) (ancestor : AncestorDeclaration)
    (after : List AncestorDeclaration) (capability : Capability) (options : PlannerOptions)
    (cut : declaration.ancestors = before ++ ancestor :: after)
    (eligible : declaration.skipReason? capability options = none)
    : ∃ whole upper lower,
        declaration.outcome capability options = .planned whole
        ∧ (declaration.withAncestors before).outcome capability options = .planned upper
        ∧ (declaration.ofAncestor ancestor after).outcome capability options = .planned lower
        ∧ whole.members.entries
          = upper.members.entries
            ++ lower.members.entries.filter (fun entry =>
                ¬ (declaration.withAncestors before).Declares entry.1)
        ∧ upper.members.entries <+: whole.members.entries
        ∧ upper.strategy.rank ≤ whole.strategy.rank := by
  have upperEligible
      : (declaration.withAncestors before).skipReason? capability options = none := eligible
  have lowerEligible
      : (declaration.ofAncestor ancestor after).skipReason? capability options = none := eligible
  have entries := plan_members_entries_cut cut capability options
  have upperFits
      : ((declaration.withAncestors before).plan capability options).StrategyFits
          declaration.recordLike options :=
    plan_strategyFits ..
  refine ⟨
    declaration.plan capability options,
    (declaration.withAncestors before).plan capability options,
    (declaration.ofAncestor ancestor after).plan capability options,
    by simp only [outcome, eligible],
    by simp only [outcome, upperEligible],
    by simp only [outcome, lowerEligible],
    entries,
    ⟨_, entries.symm⟩,
    ?_
  ⟩
  apply upperFits.rank_le (plan_strategyFits declaration capability options)
  · rintro ⟨entry, member, initOnly⟩
    exact ⟨entry, mem_plan_members_values_of_above cut member, initOnly⟩
  · rintro ⟨entry, member, array⟩
    exact ⟨entry, mem_plan_members_values_of_above cut member, array⟩

end TypeDeclaration

/-- Cutting the class below its own level leaves `secret` of the next level without an entry,
since the class declares the name, although its own member is hidden.
-/
theorem inheritingClass_outcome_planned_cut
    : inheritingClass.ancestors
        = [] ++ inheritingClass.ancestors[0] :: [inheritingClass.ancestors[1]]
      ∧ inheritingClass.skipReason? .shallow {} = none
      ∧ ∃ whole upper lower,
          inheritingClass.outcome .shallow {} = .planned whole
          ∧ (inheritingClass.withAncestors []).outcome .shallow {} = .planned upper
          ∧ (inheritingClass.ofAncestor inheritingClass.ancestors[0]
              [inheritingClass.ancestors[1]]).outcome .shallow {} = .planned lower
          ∧ whole.members.entries
            = upper.members.entries
              ++ lower.members.entries.filter fun entry =>
                  ¬ (inheritingClass.withAncestors []).Declares entry.1 := by
  refine ⟨rfl, rfl, ?_⟩
  obtain ⟨whole, upper, lower, planned, above, below, entries, _⟩ :=
    inheritingClass.outcome_planned_cut [] inheritingClass.ancestors[0]
      [inheritingClass.ancestors[1]] .shallow {} rfl rfl
  exact ⟨whole, upper, lower, planned, above, below, entries⟩

end ClonePlanner
