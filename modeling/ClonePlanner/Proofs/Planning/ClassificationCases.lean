import ClonePlanner.Planning.Classification

/-! What classification can come to. An array is duplicated, a type with a clone method of its
own is left to it, a container with known arguments is rebuilt, and whatever is left is assigned.
-/

namespace ClonePlanner

namespace CloneAction

/-- The action duplicates an array of rank two or more. -/
def CopiesMultiRankArray (action : CloneAction) : Prop :=
  ∃ rank element, action = .cloneArray rank element ∧ 1 < rank

/-- An action that is not the duplication of an array is not one of rank two or more. -/
theorem not_copiesMultiRankArray {action : CloneAction}
    (other : ∀ rank element, action ≠ .cloneArray rank element)
    : ¬ action.CopiesMultiRankArray := by
  rintro ⟨rank, element, array, _⟩
  exact other rank element array

end CloneAction

theorem TypeKind.isArray_iff {τ : Type} {kind : TypeKind τ}
    : kind.isArray = true ↔ ∃ rank element, kind = .array rank element := by
  cases kind <;> simp [isArray]

/-- How a container with known arguments is rebuilt. -/
def TypeKind.rebuildAction? : TypeKind TypeDescriptor → Option CloneAction
  | .dictionary variant (some _) (some value) =>
    some (.cloneDictionary variant.rebuilt value.elementAction)
  | .collection variant (some element) =>
    some (.cloneCollection variant.rebuilt element.elementAction)
  | _ => none

/-- A container is rebuilt as a dictionary or as a collection. -/
theorem TypeKind.rebuildAction?_cases {kind : TypeKind TypeDescriptor} {action : CloneAction}
    (rebuilds : kind.rebuildAction? = some action)
    : (∃ variant value, action = .cloneDictionary variant value)
      ∨ ∃ variant element, action = .cloneCollection variant element := by
  unfold rebuildAction? at rebuilds
  split at rebuilds
  · exact .inl ⟨_, _, (Option.some.inj rebuilds).symm⟩
  · exact .inr ⟨_, _, (Option.some.inj rebuilds).symm⟩
  · cases rebuilds

namespace TypeDescriptor

variable {type : TypeDescriptor}

/-- The type is an array of rank two or more. -/
def IsMultiRankArray (type : TypeDescriptor) : Prop :=
  ∃ rank element, type.kind = .array rank element ∧ 1 < rank

theorem classify_of_array {rank : UInt32} {element : TypeDescriptor}
    (array : type.kind = .array rank element)
    : type.classify = arrayAction rank element.elementAction := by
  obtain ⟨name, isValueType, nullable, deepCloneable, shallowCloneable, recordLike, kind⟩ := type
  subst array
  rw [classify]
  rfl

/-- Behind the arrays a type's own clone method decides, and then its structure, by cases on
the kind.
-/
theorem classify_of_not_array (notArray : type.kind.isArray = false)
    : type.classify
      = if type.isUserCloneable then .recurseCloneable
        else type.kind.rebuildAction?.getD type.directAssignment := by
  obtain ⟨name, isValueType, nullable, deepCloneable, shallowCloneable, recordLike, kind⟩ := type
  cases kind with
  | array rank element => cases notArray
  | dictionary variant key value => cases key <;> cases value <;> rfl
  | collection variant element => cases element <;> rfl
  | scalar | string | userCloneable | opaqueType => rfl

/-- All that classification can do, in the order of its tests. -/
theorem classify_cases (type : TypeDescriptor)
    : (∃ rank element, type.kind = .array rank element
        ∧ type.classify = arrayAction rank element.elementAction)
      ∨ (type.kind.isArray = false
        ∧ (type.isUserCloneable = true ∧ type.classify = .recurseCloneable
          ∨ type.isUserCloneable = false
            ∧ type.classify = type.kind.rebuildAction?.getD type.directAssignment)) := by
  cases shape : type.kind.isArray with
  | true =>
      obtain ⟨rank, element, array⟩ := TypeKind.isArray_iff.mp shape
      exact .inl ⟨rank, element, array, classify_of_array array⟩
  | false =>
      refine .inr ⟨rfl, ?_⟩
      have chosen := classify_of_not_array shape
      cases cloneable : type.isUserCloneable with
      | true => exact .inl ⟨rfl, by rw [chosen, if_pos cloneable]⟩
      | false => exact .inr ⟨rfl, by rw [chosen, if_neg (by simp [cloneable])]⟩

theorem isDirectAssignment_directAssignment (type : TypeDescriptor)
    : type.directAssignment.isDirectAssignment = true := by
  unfold directAssignment
  split <;> rfl

theorem isDirectAssignment_arrayAction (rank : UInt32) (element : ElementAction)
    : (arrayAction rank element).isDirectAssignment = false := by
  unfold arrayAction
  split <;> rfl

/-- The rank of a duplicated array is that of the type, unless the type is a vector. -/
theorem arrayAction_copiesMultiRankArray_iff {rank : UInt32} {element : ElementAction}
    : (arrayAction rank element).CopiesMultiRankArray ↔ 1 < rank := by
  unfold arrayAction
  split
  case isTrue vector =>
    refine ⟨?_, fun more => (UInt32.not_le.mpr more vector).elim⟩
    rintro ⟨_, _, array, more⟩
    cases array
    exact (UInt32.lt_irrefl 1 more).elim
  case isFalse more =>
    exact ⟨fun _ => UInt32.not_le.mp more, fun large => ⟨rank, .copy, rfl, large⟩⟩

/-- A type that is assigned in a deep plan is assigned in the same way in a shallow one. -/
theorem classify_eq_directAssignment (direct : type.classify.isDirectAssignment = true)
    : type.classify = type.directAssignment := by
  rcases type.classify_cases with ⟨rank, element, _, array⟩ | ⟨_, ⟨_, own⟩ | ⟨_, structural⟩⟩
  · rw [array, isDirectAssignment_arrayAction] at direct
    cases direct
  · rw [own] at direct
    cases direct
  · cases rebuild : type.kind.rebuildAction? with
    | none => rw [structural, rebuild, Option.getD_none]
    | some action =>
        rw [structural, rebuild, Option.getD_some] at direct
        rcases TypeKind.rebuildAction?_cases rebuild with ⟨_, _, rfl⟩ | ⟨_, _, rfl⟩ <;>
          cases direct

theorem directAssignment_not_copiesMultiRankArray (type : TypeDescriptor)
    : ¬ type.directAssignment.CopiesMultiRankArray := by
  unfold directAssignment
  split <;> exact CloneAction.not_copiesMultiRankArray (by simp)

/-- Exactly the arrays of rank two or more are duplicated as such, whatever their flags are. -/
theorem classify_copiesMultiRankArray_iff
    : type.classify.CopiesMultiRankArray ↔ type.IsMultiRankArray := by
  rcases type.classify_cases with ⟨rank, element, kind, array⟩ | ⟨notArray, chosen⟩
  · rw [array, arrayAction_copiesMultiRankArray_iff]
    refine ⟨fun large => ⟨rank, element, kind, large⟩, ?_⟩
    rintro ⟨_, _, same, large⟩
    cases kind.symm.trans same
    exact large
  · have noArray : ¬ type.IsMultiRankArray := by
      rintro ⟨_, _, array, _⟩
      rw [array] at notArray
      cases notArray
    refine iff_of_false ?_ noArray
    rcases chosen with ⟨_, own⟩ | ⟨_, structural⟩
    · rw [own]
      exact CloneAction.not_copiesMultiRankArray (by simp)
    · cases rebuild : type.kind.rebuildAction? with
      | none =>
          rw [structural, rebuild, Option.getD_none]
          exact directAssignment_not_copiesMultiRankArray type
      | some action =>
          rw [structural, rebuild, Option.getD_some]
          rcases TypeKind.rebuildAction?_cases rebuild with ⟨_, _, rfl⟩ | ⟨_, _, rfl⟩ <;>
            exact CloneAction.not_copiesMultiRankArray (by simp)

end TypeDescriptor

end ClonePlanner
