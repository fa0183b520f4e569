import ClonePlanner.Proofs.Planning.Shapes

/-! Plans depend on the shapes of the members' types and on the annotations that let values be
absent. An annotation reaches the guard of its own member and nothing else, and even that only if
the member is the one that its name stands for.
-/

namespace ClonePlanner

/-- A list with a function applied at one place, around what stands there. -/
theorem modify_of_getElem? {α : Type} {list : List α} {place : Nat} {value : α}
    (found : list[place]? = some value) (f : α → α)
    : list = list.take place ++ value :: list.drop (place + 1)
      ∧ list.modify place f = list.take place ++ f value :: list.drop (place + 1) := by
  obtain ⟨inside, rfl⟩ := List.getElem?_eq_some_iff.mp found
  refine ⟨?_, List.modify_eq_take_cons_drop inside⟩
  have same := List.modify_eq_take_cons_drop (f := id) inside
  rwa [List.modify_id] at same

theorem map_modify {α β : Type} {f : α → α} {g : α → β} {h : β → β}
    (commutes : ∀ value, g (f value) = h (g value)) (list : List α) (place : Nat)
    : (list.modify place f).map g = (list.map g).modify place h := by
  induction list generalizing place with
  | nil => simp
  | cons value rest ih =>
      cases place with
      | zero => simp [commutes]
      | succ place => simp [ih]

-----------------------------------------------------------------------------------------
-- One type annotated anew
-----------------------------------------------------------------------------------------

/-- The member with its type annotated anew. -/
def MemberDescriptor.withNullable (member : MemberDescriptor) (nullable : Bool)
    : MemberDescriptor :=
  { member with type := { member.type with nullable } }

theorem MemberDescriptor.type_withNullable_sameShape (member : MemberDescriptor)
    (nullable : Bool)
    : (member.withNullable nullable).type.SameShape member.type :=
  ⟨rfl, rfl, .refl _⟩

namespace DeclaredMember

def withNullable (declared : DeclaredMember) (nullable : Bool) : DeclaredMember :=
  { declared with member := declared.member.withNullable nullable }

/-- A member with its type annotated anew is carried over as before. -/
theorem entry_withNullable (declared : DeclaredMember) (nullable : Bool)
    (capability : Capability)
    : ∃ nullGuarded,
        (declared.withNullable nullable).entry
            (capability.action (declared.withNullable nullable).member.type)
          = { declared.entry (capability.action declared.member.type) with nullGuarded } := by
  have sameAction :=
    (declared.member.type_withNullable_sameShape nullable).action capability
  rw [withNullable, sameAction]
  exact ⟨_, rfl⟩

/-- The second entry is the first one, or it has one of these names and its type is annotated
anew.
-/
def Reannotated (names : String → Prop) (entry other : String × DeclaredMember) : Prop :=
  entry = other
  ∨ names entry.1 ∧ ∃ nullable, other = (entry.1, entry.2.withNullable nullable)

end DeclaredMember

namespace TypeDeclaration

variable (declaration : TypeDeclaration) (level place : Nat) (nullable : Bool)

/-- The declaration with the type of one member annotated anew: of the member at the place of
the level, where the own members are level zero and the ancestors are the levels behind it.
-/
def withNullable : TypeDeclaration :=
  match level with
  | 0 => { declaration with members := declaration.members.modify place (·.withNullable nullable) }
  | level + 1 =>
    { declaration with
      ancestors := declaration.ancestors.modify level fun ancestor =>
        { ancestor with members := ancestor.members.modify place (·.withNullable nullable) } }

/-- The member at the place of the level, with the name of its level. -/
def memberAt? : Option DeclaredMember :=
  declaration.levels[level]?.bind fun level => level.2[place]?.map (⟨·, level.1⟩)

/-- The members that the walk meets before it comes to the place. -/
def membersBefore : List MemberDescriptor :=
  (declaration.levels.take level).flatMap Prod.snd
    ++ declaration.levels[level]?.elim [] fun level => level.2.take place

/-- The member at the place is the one that is collected under the name: no member before it has
the name, and a clone carries it over.
-/
def CollectsAt (name : String) : Prop :=
  ∃ declared,
    declaration.memberAt? level place = some declared
    ∧ declared.name = name
    ∧ declared.member.isEligible = true
    ∧ ∀ earlier ∈ declaration.membersBefore level place, earlier.name ≠ name

theorem name_withNullable
    : (declaration.withNullable level place nullable).name = declaration.name := by
  cases level <;> rfl

theorem levels_withNullable
    : (declaration.withNullable level place nullable).levels
      = declaration.levels.modify level fun level =>
          (level.1, level.2.modify place (·.withNullable nullable)) := by
  cases level with
  | zero => rfl
  | succ level =>
      simp only [levels, withNullable, List.modify_succ_cons]
      refine congrArg (_ :: ·) (map_modify ?_ declaration.ancestors level)
      exact fun ancestor => rfl

theorem levels_withNullable_of_none (absent : declaration.memberAt? level place = none)
    : (declaration.withNullable level place nullable).levels = declaration.levels := by
  rw [levels_withNullable]
  cases atLevel : declaration.levels[level]? with
  | none => rw [List.modify_eq_self (List.getElem?_eq_none_iff.mp atLevel)]
  | some found =>
      obtain ⟨declaredIn, members⟩ := found
      obtain ⟨levels, changed⟩ := modify_of_getElem? atLevel fun level =>
        (level.1, level.2.modify place (·.withNullable nullable))
      rw [memberAt?, atLevel, Option.bind_some, Option.map_eq_none_iff] at absent
      rw [List.modify_eq_self (List.getElem?_eq_none_iff.mp absent)] at changed
      rw [changed, ← levels]

/-- Annotating a type anew changes one entry of the walk, and none before or behind it. -/
theorem declaredEntries_withNullable {declared : DeclaredMember}
    (found : declaration.memberAt? level place = some declared)
    : ∃ before after,
        Entries.keys before
            = (declaration.membersBefore level place).map MemberDescriptor.name
        ∧ declaration.declaredEntries = before ++ (declared.name, declared) :: after
        ∧ (declaration.withNullable level place nullable).declaredEntries
          = before ++ (declared.name, declared.withNullable nullable) :: after := by
  obtain ⟨⟨declaredIn, members⟩, atLevel, inLevel⟩ := Option.bind_eq_some_iff.mp found
  obtain ⟨member, atPlace, rfl⟩ := Option.map_eq_some_iff.mp inLevel
  obtain ⟨levels, changed⟩ := modify_of_getElem? atLevel fun level =>
    (level.1, level.2.modify place (·.withNullable nullable))
  obtain ⟨own, ownChanged⟩ := modify_of_getElem? atPlace (·.withNullable nullable)
  simp only at own ownChanged changed
  refine ⟨
    (declaration.levels.take level).flatMap levelEntries
      ++ levelEntries (declaredIn, members.take place),
    levelEntries (declaredIn, members.drop (place + 1))
      ++ (declaration.levels.drop (level + 1)).flatMap levelEntries,
    ?_,
    ?_,
    ?_
  ⟩
  · rw [membersBefore, atLevel]
    simp only [Entries.keys, levelEntries, List.map_append, List.map_flatMap, List.map_map]
    rfl
  · conv_lhs => rw [declaredEntries_eq_flatMap, levels, own]
    simp [levelEntries, DeclaredMember.name]
  · conv_lhs => rw [declaredEntries_eq_flatMap, levels_withNullable, changed, ownChanged]
    simp [levelEntries, DeclaredMember.name, DeclaredMember.withNullable,
      MemberDescriptor.withNullable]

/-- What is collected before and behind the member is collected as it was. The member itself is
collected as it was or not at all, unless it is the one that its name stands for.
-/
theorem collected_withNullable
    : List.Forall₂ (DeclaredMember.Reannotated (declaration.CollectsAt level place))
        declaration.collected.entries
        (declaration.withNullable level place nullable).collected.entries := by
  have unchanged (entries : Entries DeclaredMember)
      : List.Forall₂ (DeclaredMember.Reannotated (declaration.CollectsAt level place))
          entries entries :=
    List.forall₂_same.mpr fun _ _ => .inl rfl
  rw [collected_entries, collected_entries]
  cases found : declaration.memberAt? level place with
  | none =>
      rw [declaredEntries_eq_flatMap, declaredEntries_eq_flatMap,
        declaration.levels_withNullable_of_none level place nullable found]
      exact unchanged _
  | some declared =>
      obtain ⟨before, after, keys, entries, changed⟩ :=
        declaration.declaredEntries_withNullable level place nullable found
      rw [entries, changed, Entries.firstOfEachKey_middle, Entries.firstOfEachKey_middle]
      simp only [List.filter_append]
      refine List.rel_append (List.rel_append (unchanged _) ?_) (unchanged _)
      by_cases known : declared.name ∈ Entries.keys before
      · simp [known]
      · have first : ∀ earlier ∈ declaration.membersBefore level place,
            earlier.name ≠ declared.name := by
          intro earlier there same
          rw [keys, ← same] at known
          exact known (List.mem_map_of_mem there)
        have sameEligible : (declared.withNullable nullable).member.isEligible
            = declared.member.isEligible :=
          rfl
        cases eligible : declared.member.isEligible with
        | false => simp [known, sameEligible, eligible]
        | true =>
            simp only [List.filter_cons, List.filter_nil, known, sameEligible, eligible,
              not_false_eq_true, decide_true, if_true]
            exact .cons (.inr ⟨⟨declared, found, rfl, eligible, first⟩, nullable, rfl⟩) .nil

end TypeDeclaration

-----------------------------------------------------------------------------------------
-- Plans that differ in guards
-----------------------------------------------------------------------------------------

/-- The second entry is the first one, or it has one of these names and differs in the guard at
most.
-/
def PlanEntry.Reguarded (names : String → Prop) (entry other : String × PlanEntry) : Prop :=
  entry = other
  ∨ names entry.1 ∧ ∃ nullGuarded, other = (entry.1, { entry.2 with nullGuarded })

/-- Two plans differ at most in the guards of the members with these names. -/
structure ClonePlan.SameButGuards (names : String → Prop) (plan other : ClonePlan) : Prop where
  typeName : plan.typeName = other.typeName
  capability : plan.capability = other.capability
  strategy : plan.strategy = other.strategy
  members : List.Forall₂ (PlanEntry.Reguarded names) plan.members.entries other.members.entries

/-- Two outcomes differ at most in the guards of the members with these names. -/
inductive PlanOutcome.SameButGuards (names : String → Prop) : PlanOutcome → PlanOutcome → Prop
  | planned {plan other : ClonePlan} (same : plan.SameButGuards names other)
    : SameButGuards names (.planned plan) (.planned other)
  | skipped (reason : SkipReason) : SameButGuards names (.skipped reason) (.skipped reason)

/-- A guard is none of the marks that a strategy depends on. -/
theorem ClonePlan.marks_of_reguarded {names : String → Prop} {plan other : ClonePlan}
    (members
      : List.Forall₂ (PlanEntry.Reguarded names) plan.members.entries other.members.entries)
    : plan.members.values.map PlanEntry.marks = other.members.values.map PlanEntry.marks := by
  simp only [OrderedMap.values, Entries.values, List.map_map]
  rw [← List.forall₂_eq_eq_eq, List.forall₂_map_left_iff, List.forall₂_map_right_iff]
  refine members.imp ?_
  intro entry otherEntry entries
  rcases entries with rfl | ⟨_, _, rfl⟩
  · rfl
  · rfl

namespace TypeDeclaration

variable (declaration : TypeDeclaration) (level place : Nat) (nullable : Bool)
  (capability : Capability) (options : PlannerOptions)

theorem plan_members_withNullable
    : List.Forall₂ (PlanEntry.Reguarded (declaration.CollectsAt level place))
        (declaration.plan capability options).members.entries
        ((declaration.withNullable level place nullable).plan capability
          options).members.entries := by
  apply forall₂_plan_entries
  refine (declaration.collected_withNullable level place nullable).imp ?_
  intro entry otherEntry entries
  rcases entries with rfl | ⟨named, nullable, rfl⟩
  · exact .inl rfl
  · obtain ⟨nullGuarded, changed⟩ := entry.2.entry_withNullable nullable capability
    exact .inr ⟨named, nullGuarded, Prod.ext rfl changed⟩

theorem plan_withNullable
    : (declaration.plan capability options).SameButGuards (declaration.CollectsAt level place)
        ((declaration.withNullable level place nullable).plan capability options) := by
  have members :=
    declaration.plan_members_withNullable level place nullable capability options
  have recordLike
      : (declaration.withNullable level place nullable).recordLike = declaration.recordLike := by
    cases level <;> rfl
  have fits := declaration.plan_strategyFits capability options
  have otherFits :=
    (declaration.withNullable level place nullable).plan_strategyFits capability options
  rw [recordLike] at otherFits
  exact {
    typeName := (declaration.name_withNullable level place nullable).symm
    capability := rfl
    strategy := fits.strategy_eq_of_marks otherFits (.of_eq (ClonePlan.marks_of_reguarded members))
    members
  }

theorem outcome_withNullable
    : (declaration.outcome capability options).SameButGuards (declaration.CollectsAt level place)
        ((declaration.withNullable level place nullable).outcome capability options) := by
  have sameReason : declaration.skipReason? capability options
      = (declaration.withNullable level place nullable).skipReason? capability options := by
    cases level <;> rfl
  rcases outcome_cases sameReason with ⟨reason, skipped, otherSkipped⟩ | ⟨planned, otherPlanned⟩
  · rw [skipped, otherSkipped]
    exact .skipped reason
  · rw [planned, otherPlanned]
    exact .planned (declaration.plan_withNullable level place nullable capability options)

/-- Plans depend on nothing but the shapes that they are made for. Declarations whose members
differ only in what no plan looks at have the same outcomes for both capabilities. If one type is
annotated anew, what changes at most is a guard, and it is the guard of that member.
-/
theorem planSet_dependsOnShape
    : (∀ declaration other : TypeDeclaration, declaration.SameShape other →
        declaration.planSet options = other.planSet options)
      ∧ ∀ (declaration : TypeDeclaration) level place nullable,
          ((declaration.withNullable level place nullable).planSet options).name
            = (declaration.planSet options).name
          ∧ ∀ capability,
            ((declaration.planSet options).outcome capability).SameButGuards
              (declaration.CollectsAt level place)
              (((declaration.withNullable level place nullable).planSet options).outcome
                capability) := by
  refine ⟨?_, ?_⟩
  · intro declaration other same
    simp only [planSet, same.name, same.outcome]
  · intro declaration level place nullable
    refine ⟨declaration.name_withNullable level place nullable, ?_⟩
    intro capability
    have guards := declaration.outcome_withNullable level place nullable capability options
    cases capability with
    | deep => exact guards
    | shallow => exact guards

end TypeDeclaration

/-- A class with a vector of rows, a grid and an index by keys. -/
def storeClass : TypeDeclaration :=
  .ofClass "Store" [
    .writable "rows" (.array (.cloneable "Row") 1),
    .writable "grid" (.array (.scalar "int") 2),
    .writable "index" (.dictionary .other .string (.list (.cloneable "Item")))]

/-- The class with other rows that have clone methods, another grid of rank two, and an index by
other keys whose values have no clone methods either.
-/
def respelledStoreClass : TypeDeclaration :=
  .ofClass "Store" [
    .writable "rows" (.array (.asNullable (.asDeepCloneable (.list .string))) 1),
    .writable "grid" { TypeDescriptor.array (.cloneable "Cell") 2 with recordLike := true },
    .writable "index" (.dictionary .other (.cloneable "Key") .string)]

theorem storeClass_sameShape : storeClass.SameShape respelledStoreClass := by
  refine ⟨rfl, rfl, rfl, rfl, rfl, ?_, .nil⟩
  refine .cons ⟨rfl, ⟨rfl, rfl, ?_⟩, rfl, rfl, rfl, rfl, rfl⟩ ?_
  · exact .vector (by decide) ⟨rfl, rfl⟩
  refine .cons ⟨rfl, ⟨rfl, rfl, ?_⟩, rfl, rfl, rfl, rfl, rfl⟩ ?_
  · exact .multiRankArray (by decide) _ _
  refine .cons ⟨rfl, ⟨rfl, rfl, ?_⟩, rfl, rfl, rfl, rfl, rfl⟩ .nil
  exact .dictionary .other rfl (.some ⟨rfl, rfl⟩)

/-- The two classes get the same plans. -/
theorem storeClass_planSet
    : storeClass.SameShape respelledStoreClass
      ∧ storeClass.planSet {} = respelledStoreClass.planSet {} :=
  ⟨storeClass_sameShape,
    (TypeDeclaration.planSet_dependsOnShape {}).1 _ _ storeClass_sameShape⟩

end ClonePlanner
