import ClonePlanner.Proofs.Planning.CapabilityAgreement
import ClonePlanner.Proofs.Planning.CorrespondingDeclarations

/-! Whether arrays of rank two or more are copied by statements is a matter of the strategy
alone. Two runs that differ in this choice leave a type out for the same reason or plan the same
members, and their strategies part exactly where nothing but such an array asks for statements.
-/

namespace ClonePlanner

namespace TypeDeclaration

variable (declaration : TypeDeclaration) (requested : Capabilities)

/-- The members of a plan are entered without a look at the options. -/
theorem plan_members_congr (capability : Capability) (options others : PlannerOptions)
    : (declaration.plan capability options).members
      = (declaration.plan capability others).members := by
  ext1
  rw [plan_members_entries, plan_members_entries]

/-- If nothing but arrays asks for statements, the deep plan takes them where arrays do. -/
theorem strategies_of_arrayStatements
    (needs
      : declaration.NeedsArrayStatements
          (PlannerOptions.withMultiRankArraysAsStatements { requested }))
    : (declaration.plan .deep { requested }).strategy = .objectInitializer
      ∧ (declaration.plan .deep
          (PlannerOptions.withMultiRankArraysAsStatements { requested })).strategy
        = .statementSequence := by
  have noInitOnly : ¬ (declaration.plan .deep { requested }).HasInitOnly := by
    rw [plan_hasInitOnly_iff]
    intro marked
    obtain ⟨declared, member, initOnly⟩ := marked
    rw [needs.2.1 declared member] at initOnly
    cases initOnly
  refine ⟨?_, (declaration.strategies_of_needsArrayStatements _ needs).1⟩
  apply (declaration.plan_strategyFits .deep { requested }).objectInitializer.mpr
  exact ⟨noInitOnly, fun array => Bool.noConfusion array.1⟩

/-- In all other cases both runs choose one strategy: a member written during construction only
decides before arrays do, and a shallow plan has none of them.
-/
theorem strategies_eq_of_not_arrayStatements (capability : Capability)
    (other
      : ¬ (capability = .deep
          ∧ declaration.NeedsArrayStatements
              (PlannerOptions.withMultiRankArraysAsStatements { requested })))
    : (declaration.plan capability { requested }).strategy
      = (declaration.plan capability
          (PlannerOptions.withMultiRankArraysAsStatements { requested })).strategy := by
  have stated := declaration.plan_strategyFits capability
    (PlannerOptions.withMultiRankArraysAsStatements { requested })
  apply (declaration.plan_strategyFits capability { requested }).strategy_eq stated
  · rw [plan_hasInitOnly_iff, plan_hasInitOnly_iff]
  · intro noInitOnly
    apply iff_of_false
    · exact fun array => Bool.noConfusion array.1
    · intro array
      cases capability with
      | shallow => exact shallow_plan_not_hasMultiRankArray _ _ array.2
      | deep =>
          exact other ⟨rfl, (declaration.needsArrayStatements_iff _ .deep).mpr
            ⟨rfl, noInitOnly, array.2⟩⟩

/-- Copying arrays of rank two or more by statements touches nothing but the strategy. A type is
left out for the same reason with and without it, or it is planned with the same members. The
strategies are equal unless the plan is deep, no collected member is written during construction
only and some collected member is such an array; then, and only then, an initializer becomes
statements.
-/
theorem outcome_arrayStatements (capability : Capability)
    : let inlined : PlannerOptions := { requested }
      let stated := inlined.withMultiRankArraysAsStatements
      (∃ reason,
        declaration.outcome capability inlined = .skipped reason
        ∧ declaration.outcome capability stated = .skipped reason)
      ∨ ∃ inlinedPlan statedPlan,
          declaration.outcome capability inlined = .planned inlinedPlan
          ∧ declaration.outcome capability stated = .planned statedPlan
          ∧ inlinedPlan.typeName = statedPlan.typeName
          ∧ inlinedPlan.capability = statedPlan.capability
          ∧ inlinedPlan.members = statedPlan.members
          ∧ (inlinedPlan.strategy = statedPlan.strategy
            ↔ ¬ (capability = .deep ∧ declaration.NeedsArrayStatements stated))
          ∧ (inlinedPlan.strategy = .objectInitializer
                ∧ statedPlan.strategy = .statementSequence
            ↔ capability = .deep ∧ declaration.NeedsArrayStatements stated) := by
  intro inlined stated
  have sameReason : declaration.skipReason? capability inlined
      = declaration.skipReason? capability stated :=
    rfl
  rcases outcome_cases sameReason with skipped | ⟨planned, otherPlanned⟩
  · exact .inl skipped
  · have equal := declaration.strategies_eq_of_not_arrayStatements requested capability
    have parted (needs : capability = .deep ∧ declaration.NeedsArrayStatements stated)
        : (declaration.plan capability inlined).strategy = .objectInitializer
          ∧ (declaration.plan capability stated).strategy = .statementSequence := by
      obtain ⟨rfl, arrays⟩ := needs
      exact declaration.strategies_of_arrayStatements requested arrays
    refine .inr ⟨_, _, planned, otherPlanned, rfl, rfl, declaration.plan_members_congr ..,
      ⟨?_, equal⟩, ⟨?_, parted⟩⟩
    · intro same needs
      obtain ⟨initializer, statements⟩ := parted needs
      rw [initializer, statements] at same
      cases same
    · intro chosen
      obtain ⟨initializer, statements⟩ := chosen
      by_contra other
      have same := equal other
      rw [initializer, statements] at same
      cases same

end TypeDeclaration

end ClonePlanner
