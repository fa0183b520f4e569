import ClonePlanner.Proofs.Planning.CanonicalActions
import ClonePlanner.Proofs.Planning.CorrespondingDeclarations

/-! The shapes of types, as far as plans look at them. What a type is called, what is inside the
keys of a dictionary or inside an array of rank two or more, and all but two facts about the
parts of other containers do not reach a plan.
-/

namespace ClonePlanner

/-- Two types are treated alike as parts of a container: both are arrays or neither is, and
either both or neither have a clone method of their own.
-/
structure TypeDescriptor.AlikeAsParts (part other : TypeDescriptor) : Prop where
  isArray : part.kind.isArray = other.kind.isArray
  isUserCloneable : part.isUserCloneable = other.isUserCloneable

/-- Two shapes differ only in what no action looks at: in the elements of arrays of rank two or
more and the keys of dictionaries in every way, and in other parts as far as they are treated
alike.
-/
inductive TypeKind.SameShape : TypeKind TypeDescriptor → TypeKind TypeDescriptor → Prop
  | scalar : SameShape .scalar .scalar
  | string : SameShape .string .string
  | userCloneable : SameShape .userCloneable .userCloneable
  | opaqueType : SameShape .opaqueType .opaqueType
  | vector {rank : UInt32} {element other : TypeDescriptor} (small : rank ≤ 1)
    (elements : element.AlikeAsParts other)
    : SameShape (.array rank element) (.array rank other)
  | multiRankArray {rank : UInt32} (large : 1 < rank) (element other : TypeDescriptor)
    : SameShape (.array rank element) (.array rank other)
  | dictionary (variant : DictionaryVariant) {key otherKey value otherValue : Option TypeDescriptor}
    (keys : key.isSome = otherKey.isSome)
    (values : Option.Rel TypeDescriptor.AlikeAsParts value otherValue)
    : SameShape (.dictionary variant key value) (.dictionary variant otherKey otherValue)
  | collection (variant : CollectionVariant) {element other : Option TypeDescriptor}
    (elements : Option.Rel TypeDescriptor.AlikeAsParts element other)
    : SameShape (.collection variant element) (.collection variant other)

/-- Two types differ only in what no action looks at: in their names, in the flags that are not
about deep clones, in their annotations and in their shapes as far as that goes.
-/
structure TypeDescriptor.SameShape (type other : TypeDescriptor) : Prop where
  isValueType : type.isValueType = other.isValueType
  deepCloneable : type.deepCloneable = other.deepCloneable
  kind : type.kind.SameShape other.kind

/-- Two members differ only in what no plan looks at. -/
structure MemberDescriptor.SameShape (member other : MemberDescriptor) : Prop where
  name : member.name = other.name
  type : member.type.SameShape other.type
  nullable : member.type.nullable = other.type.nullable
  mutability : member.mutability = other.mutability
  visibility : member.visibility = other.visibility
  readable : member.readable = other.readable
  isStatic : member.isStatic = other.isStatic

/-- Two declarations have the same structure, and their members differ only in what no plan
looks at.
-/
def TypeDeclaration.SameShape (declaration other : TypeDeclaration) : Prop :=
  declaration.Corresponds (List.Forall₂ MemberDescriptor.SameShape) other

-----------------------------------------------------------------------------------------
-- Types of one shape have one action
-----------------------------------------------------------------------------------------

theorem TypeDescriptor.AlikeAsParts.refl (part : TypeDescriptor) : part.AlikeAsParts part :=
  ⟨rfl, rfl⟩

theorem TypeDescriptor.AlikeAsParts.elementAction {part other : TypeDescriptor}
    (alike : part.AlikeAsParts other)
    : part.elementAction = other.elementAction := by
  have cloned : part.elementAction = .clone ↔ other.elementAction = .clone := by
    simp only [elementAction_eq_clone_iff, HasOwnClone, alike.isArray, alike.isUserCloneable]
  cases own : other.elementAction with
  | clone => exact cloned.mpr own
  | copy =>
      cases action : part.elementAction with
      | copy => rfl
      | clone => exact (cloned.mp action).symm.trans own

namespace TypeKind.SameShape

variable {kind other : TypeKind TypeDescriptor}

theorem refl (kind : TypeKind TypeDescriptor) : kind.SameShape kind := by
  have parts (part? : Option TypeDescriptor)
      : Option.Rel TypeDescriptor.AlikeAsParts part? part? := by
    cases part? with
    | none => exact .none
    | some part => exact .some (.refl part)
  cases kind with
  | scalar => exact .scalar
  | string => exact .string
  | userCloneable => exact .userCloneable
  | opaqueType => exact .opaqueType
  | array rank element =>
      by_cases small : rank ≤ 1
      · exact .vector small (.refl element)
      · exact .multiRankArray (UInt32.not_le.mp small) element element
  | dictionary variant key value => exact .dictionary variant rfl (parts value)
  | collection variant element => exact .collection variant (parts element)

theorem isArray (same : kind.SameShape other) : kind.isArray = other.isArray := by
  cases same <;> rfl

theorem isString (same : kind.SameShape other) : kind.isString = other.isString := by
  cases same <;> rfl

theorem rebuildAction? (same : kind.SameShape other)
    : kind.rebuildAction? = other.rebuildAction? := by
  cases same with
  | @dictionary variant key otherKey value otherValue keys values =>
      cases values with
      | none => cases key <;> cases otherKey <;> rfl
      | @some value otherValue alike =>
          cases key with
          | none =>
              cases otherKey with
              | none => rfl
              | some otherKey => cases keys
          | some key =>
              cases otherKey with
              | none => cases keys
              | some otherKey =>
                  simp only [TypeKind.rebuildAction?, alike.elementAction]
  | collection variant elements =>
      cases elements with
      | none => rfl
      | some alike => simp only [TypeKind.rebuildAction?, alike.elementAction]
  | _ => rfl

end TypeKind.SameShape

namespace TypeDescriptor.SameShape

variable {type other : TypeDescriptor}

theorem directAssignment (same : type.SameShape other)
    : type.directAssignment = other.directAssignment := by
  simp only [TypeDescriptor.directAssignment, same.isValueType, same.kind.isString]

theorem isUserCloneable (same : type.SameShape other)
    : type.isUserCloneable = other.isUserCloneable := by
  obtain ⟨_, deepCloneable, kinds⟩ := same
  simp only [TypeDescriptor.isUserCloneable, deepCloneable]
  generalize type.kind = kind, other.kind = otherKind at kinds ⊢
  cases kinds <;> rfl

/-- An array of rank two or more is duplicated without a look at its elements, and every other
container without a look inside its parts; by cases on the shapes.
-/
theorem classify (same : type.SameShape other) : type.classify = other.classify := by
  cases shape : other.kind.isArray with
  | false =>
      rw [classify_of_not_array (same.kind.isArray.trans shape), classify_of_not_array shape,
        same.isUserCloneable, same.kind.rebuildAction?, same.directAssignment]
  | true =>
      obtain ⟨_, _, kinds⟩ := same
      obtain ⟨rank, otherElement, otherArray⟩ := TypeKind.isArray_iff.mp shape
      rw [otherArray] at kinds
      generalize array : type.kind = kind at kinds
      cases kinds with
      | vector _ elements =>
          rw [classify_of_array array, classify_of_array otherArray, elements.elementAction]
      | multiRankArray large =>
          rw [classify_of_array array, classify_of_array otherArray, arrayAction, arrayAction,
            if_neg (UInt32.not_le.mpr large), if_neg (UInt32.not_le.mpr large)]

theorem action (same : type.SameShape other) (capability : Capability)
    : capability.action type = capability.action other := by
  cases capability with
  | deep => exact same.classify
  | shallow => exact same.directAssignment

end TypeDescriptor.SameShape

-----------------------------------------------------------------------------------------
-- Declarations of one shape have one plan
-----------------------------------------------------------------------------------------

theorem MemberDescriptor.SameShape.isEligible {member other : MemberDescriptor}
    (same : member.SameShape other)
    : member.isEligible = other.isEligible := by
  simp only [MemberDescriptor.isEligible, same.visibility, same.readable, same.isStatic]

/-- Members that correspond are entered alike. -/
theorem DeclaredMember.entry_of_sameShape {declared other : DeclaredMember}
    (same : declared.Corresponds MemberDescriptor.SameShape other) (capability : Capability)
    : declared.entry (capability.action declared.member.type)
      = other.entry (capability.action other.member.type) := by
  obtain ⟨declaredIn, member⟩ := same
  simp only [entry, TypeDescriptor.canBeAbsent, TypeDescriptor.isReferenceType,
    MemberDescriptor.isInitOnly, member.type.action capability, member.type.isValueType,
    member.nullable, member.mutability, declaredIn]

attribute [ext] ClonePlan

namespace TypeDeclaration.SameShape

variable {declaration other : TypeDeclaration}

theorem plan_members (same : declaration.SameShape other) (capability : Capability)
    (options : PlannerOptions)
    : (declaration.plan capability options).members
      = (other.plan capability options).members := by
  have collected := Corresponds.collected same (·.name) (·.isEligible)
  ext1
  rw [← List.forall₂_eq_eq_eq]
  apply forall₂_plan_entries
  refine collected.imp ?_
  intro entry otherEntry entries
  exact Prod.ext entries.1 (DeclaredMember.entry_of_sameShape entries.2 capability)

theorem plan (same : declaration.SameShape other) (capability : Capability)
    (options : PlannerOptions)
    : declaration.plan capability options = other.plan capability options := by
  have members := same.plan_members capability options
  have otherFits := other.plan_strategyFits capability options
  rw [← same.recordLike] at otherFits
  have strategy := (declaration.plan_strategyFits capability options).strategy_eq_of_marks otherFits
    (by rw [members])
  exact ClonePlan.ext same.name rfl strategy members

theorem outcome (same : declaration.SameShape other) (capability : Capability)
    (options : PlannerOptions)
    : declaration.outcome capability options = other.outcome capability options := by
  simp only [TypeDeclaration.outcome, same.skipReason?, same.plan]

end TypeDeclaration.SameShape

end ClonePlanner
