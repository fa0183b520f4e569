import ClonePlanner.Proofs.Planning.ClassificationCases

/-! Every action that classification gives is in one form, and every action in that form is
given for some type. What an action decides for the parts of a container depends on the part
itself and on nothing inside it.
-/

namespace ClonePlanner

namespace CloneAction

/-- The form in which an action is given: a vector has rank one, an array of higher rank has its
elements copied, and a container is rebuilt in a family of its own.
-/
inductive Canonical : CloneAction → Prop
  | copyScalar : Canonical .copyScalar
  | copyReference : Canonical .copyReference
  | recurseCloneable : Canonical .recurseCloneable
  | vector (element : ElementAction) : Canonical (.cloneArray 1 element)
  | multiRankArray {rank : UInt32} (large : 1 < rank) : Canonical (.cloneArray rank .copy)
  | dictionary {variant : DictionaryVariant} (known : variant ≠ .other) (value : ElementAction)
    : Canonical (.cloneDictionary variant value)
  | collection {variant : CollectionVariant} (known : variant ≠ .other)
    (element : ElementAction)
    : Canonical (.cloneCollection variant element)

/-- What the action decides for the elements or the values of a container. -/
def partDecision? : CloneAction → Option ElementAction
  | .cloneArray _ element => some element
  | .cloneDictionary _ value => some value
  | .cloneCollection _ element => some element
  | _ => none

theorem asElement_eq_clone_iff {action : CloneAction}
    : action.asElement = .clone ↔ action = .recurseCloneable := by
  cases action <;> simp [asElement]

end CloneAction

theorem DictionaryVariant.rebuilt_ne_other (variant : DictionaryVariant)
    : variant.rebuilt ≠ .other := by
  cases variant <;> decide

theorem DictionaryVariant.rebuilt_of_known {variant : DictionaryVariant}
    (known : variant ≠ .other)
    : variant.rebuilt = variant := by
  cases variant with
  | other => exact (known rfl).elim
  | _ => rfl

theorem CollectionVariant.rebuilt_ne_other (variant : CollectionVariant)
    : variant.rebuilt ≠ .other := by
  cases variant <;> decide

theorem CollectionVariant.rebuilt_of_known {variant : CollectionVariant}
    (known : variant ≠ .other)
    : variant.rebuilt = variant := by
  cases variant with
  | other => exact (known rfl).elim
  | _ => rfl

namespace TypeKind

variable {τ : Type}

/-- The part of a container that its clone may have to clone: an element of a vector or of a
collection, or a value of a dictionary.
-/
def part? : TypeKind τ → Option τ
  | .array rank element => if rank ≤ 1 then some element else none
  | .dictionary _ _ value => value
  | .collection _ element => element
  | _ => none

/-- The shape is a container and all its arguments are known. -/
def isKnownContainer : TypeKind τ → Bool
  | .dictionary _ key value => key.isSome && value.isSome
  | .collection _ element => element.isSome
  | _ => false

theorem isSome_rebuildAction? (kind : TypeKind TypeDescriptor)
    : kind.rebuildAction?.isSome = kind.isKnownContainer := by
  cases kind with
  | dictionary variant key value => cases key <;> cases value <;> rfl
  | collection variant element => cases element <;> rfl
  | _ => rfl

theorem canonical_of_rebuildAction? {kind : TypeKind TypeDescriptor} {action : CloneAction}
    (rebuilds : kind.rebuildAction? = some action)
    : action.Canonical := by
  unfold rebuildAction? at rebuilds
  split at rebuilds
  · obtain rfl := Option.some.inj rebuilds
    exact .dictionary (DictionaryVariant.rebuilt_ne_other _) _
  · obtain rfl := Option.some.inj rebuilds
    exact .collection (CollectionVariant.rebuilt_ne_other _) _
  · cases rebuilds

/-- A rebuilt container has one decision, which is the one for its part. -/
theorem partDecision?_of_rebuildAction? {kind : TypeKind TypeDescriptor} {action : CloneAction}
    (rebuilds : kind.rebuildAction? = some action)
    : action.partDecision? = kind.part?.map TypeDescriptor.elementAction := by
  unfold rebuildAction? at rebuilds
  split at rebuilds
  · obtain rfl := Option.some.inj rebuilds
    rfl
  · obtain rfl := Option.some.inj rebuilds
    rfl
  · cases rebuilds

end TypeKind

namespace TypeDescriptor

variable {type : TypeDescriptor}

/-- Values of the type are left to a clone method of their own. Arrays have none, whatever they
are flagged as.
-/
def HasOwnClone (type : TypeDescriptor) : Prop :=
  type.kind.isArray = false ∧ type.isUserCloneable = true

-----------------------------------------------------------------------------------------
-- Every action is canonical
-----------------------------------------------------------------------------------------

theorem canonical_directAssignment (type : TypeDescriptor)
    : type.directAssignment.Canonical := by
  unfold directAssignment
  split
  · exact .copyScalar
  · exact .copyReference

theorem canonical_arrayAction (rank : UInt32) (element : ElementAction)
    : (arrayAction rank element).Canonical := by
  unfold arrayAction
  split
  case isTrue _ => exact .vector element
  case isFalse more => exact .multiRankArray (UInt32.not_le.mp more)

theorem canonical_classify (type : TypeDescriptor) : type.classify.Canonical := by
  rcases type.classify_cases with ⟨rank, element, _, array⟩ | ⟨_, ⟨_, own⟩ | ⟨_, structural⟩⟩
  · rw [array]
    exact canonical_arrayAction rank element.elementAction
  · rw [own]
    exact .recurseCloneable
  · rw [structural]
    cases rebuild : type.kind.rebuildAction? with
    | none => exact canonical_directAssignment type
    | some action => exact TypeKind.canonical_of_rebuildAction? rebuild

-----------------------------------------------------------------------------------------
-- Every canonical action is given
-----------------------------------------------------------------------------------------

/-- A type whose values are treated as elements in the given way. -/
def ofDecision : ElementAction → TypeDescriptor
  | .copy => .string
  | .clone => .cloneable ""

theorem elementAction_ofDecision (decision : ElementAction)
    : (ofDecision decision).elementAction = decision := by
  cases decision <;> rfl

/-- A type for each form of an action, by cases on the form. -/
theorem exists_classify_eq {action : CloneAction} (canonical : action.Canonical)
    : ∃ type, classify type = action := by
  cases canonical with
  | copyScalar => exact ⟨.string, rfl⟩
  | copyReference => exact ⟨.unknown "", rfl⟩
  | recurseCloneable => exact ⟨.cloneable "", rfl⟩
  | vector element =>
      refine ⟨.array (ofDecision element) 1, ?_⟩
      rw [classify_of_array rfl, elementAction_ofDecision]
      rfl
  | @multiRankArray rank large =>
      refine ⟨.array .string rank, ?_⟩
      rw [classify_of_array rfl, arrayAction, if_neg (UInt32.not_le.mpr large)]
  | @dictionary variant known value =>
      refine ⟨.dictionary variant .string (ofDecision value), ?_⟩
      have rebuilt : classify (.dictionary variant .string (ofDecision value))
          = .cloneDictionary variant.rebuilt (ofDecision value).elementAction :=
        classify_of_not_array rfl
      rw [rebuilt, DictionaryVariant.rebuilt_of_known known, elementAction_ofDecision]
  | @collection variant known element =>
      refine ⟨.collection variant (ofDecision element), ?_⟩
      have rebuilt : classify (.collection variant (ofDecision element))
          = .cloneCollection variant.rebuilt (ofDecision element).elementAction :=
        classify_of_not_array rfl
      rw [rebuilt, CollectionVariant.rebuilt_of_known known, elementAction_ofDecision]

-----------------------------------------------------------------------------------------
-- What decides about the action for a type
-----------------------------------------------------------------------------------------

theorem arrayAction_ne_recurseCloneable (rank : UInt32) (element : ElementAction)
    : arrayAction rank element ≠ .recurseCloneable := by
  unfold arrayAction
  split <;> simp

theorem structuralAction_ne_recurseCloneable (type : TypeDescriptor)
    : type.kind.rebuildAction?.getD type.directAssignment ≠ .recurseCloneable := by
  cases rebuild : type.kind.rebuildAction? with
  | none =>
      rw [Option.getD_none, directAssignment]
      split <;> simp
  | some action =>
      rcases TypeKind.rebuildAction?_cases rebuild with ⟨_, _, rfl⟩ | ⟨_, _, rfl⟩ <;> simp

theorem classify_eq_recurseCloneable_iff
    : type.classify = .recurseCloneable ↔ type.HasOwnClone := by
  rcases type.classify_cases with
    ⟨rank, element, kind, array⟩ | ⟨notArray, ⟨cloneable, own⟩ | ⟨notCloneable, structural⟩⟩
  · simp [array, arrayAction_ne_recurseCloneable, HasOwnClone, kind, TypeKind.isArray]
  · simp [own, HasOwnClone, notArray, cloneable]
  · simp [structural, structuralAction_ne_recurseCloneable, HasOwnClone, notCloneable]

/-- A value is cloned as an element exactly if it is left to its own clone method. -/
theorem elementAction_eq_clone_iff {element : TypeDescriptor}
    : element.elementAction = .clone ↔ element.HasOwnClone := by
  rw [elementAction, CloneAction.asElement_eq_clone_iff, classify_eq_recurseCloneable_iff]

/-- The decision for the parts of a container looks at the part that is there at once. -/
theorem partDecision_eq_clone_iff {decision : ElementAction}
    (decides : type.classify.partDecision? = some decision)
    : decision = .clone ↔ ∃ part, type.kind.part? = some part ∧ part.HasOwnClone := by
  rcases type.classify_cases with ⟨rank, element, kind, array⟩ | ⟨_, ⟨_, own⟩ | ⟨_, structural⟩⟩
  · rw [array, arrayAction] at decides
    rw [kind, TypeKind.part?]
    split at decides
    case isTrue vector =>
      obtain rfl := Option.some.inj decides
      simp [vector, elementAction_eq_clone_iff]
    case isFalse more =>
      obtain rfl := Option.some.inj decides
      simp [more]
  · rw [own] at decides
    cases decides
  · rw [structural] at decides
    cases rebuild : type.kind.rebuildAction? with
    | none =>
        rw [rebuild, Option.getD_none, directAssignment] at decides
        split at decides <;> cases decides
    | some action =>
        rw [rebuild, Option.getD_some, TypeKind.partDecision?_of_rebuildAction? rebuild] at decides
        obtain ⟨part, isPart, rfl⟩ := Option.map_eq_some_iff.mp decides
        simp [isPart, elementAction_eq_clone_iff]

/-- What is assigned has no array in it, no clone method and nothing to be rebuilt from. -/
theorem isDirectAssignment_classify_iff
    : type.classify.isDirectAssignment = true
      ↔ type.kind.isArray = false
        ∧ type.isUserCloneable = false
        ∧ type.kind.isKnownContainer = false := by
  rw [← TypeKind.isSome_rebuildAction?]
  rcases type.classify_cases with
    ⟨rank, element, kind, array⟩ | ⟨notArray, ⟨cloneable, own⟩ | ⟨notCloneable, structural⟩⟩
  · simp [array, isDirectAssignment_arrayAction, kind, TypeKind.isArray]
  · simp [own, cloneable, CloneAction.isDirectAssignment]
  · rw [structural]
    cases rebuild : type.kind.rebuildAction? with
    | none => simp [isDirectAssignment_directAssignment, notArray, notCloneable]
    | some action =>
        rcases TypeKind.rebuildAction?_cases rebuild with ⟨_, _, rfl⟩ | ⟨_, _, rfl⟩ <;>
          simp [CloneAction.isDirectAssignment]

/-- Classification gives exactly the canonical actions, and it unwraps one level. A type is left
to its own clone method if it has one and is no array. A part of a container is cloned if it is
left to its own clone method, whatever is inside it. A type is assigned if it is no array, has
no clone method and is no container with all its arguments, and it is assigned then as in a
shallow plan. Rank zero counts as one, and a family without a name as lists or dictionaries.
-/
theorem classify_canonical
    : (∀ action, (∃ type, classify type = action) ↔ action.Canonical)
      ∧ ∀ type : TypeDescriptor,
          (type.classify = .recurseCloneable ↔ type.HasOwnClone)
          ∧ (∀ decision, type.classify.partDecision? = some decision
            → (decision = .clone ↔ ∃ part, type.kind.part? = some part ∧ part.HasOwnClone))
          ∧ (type.classify.isDirectAssignment = true
            ↔ type.kind.isArray = false
              ∧ type.isUserCloneable = false
              ∧ type.kind.isKnownContainer = false)
          ∧ (type.classify.isDirectAssignment = true → type.classify = type.directAssignment)
          ∧ (∀ element,
            { type with kind := .array 0 element }.classify
            = { type with kind := .array 1 element }.classify)
          ∧ (∀ key value,
            { type with kind := .dictionary .other key value }.classify
            = { type with kind := .dictionary .dictionary key value }.classify)
          ∧ ∀ element,
            { type with kind := .collection .other element }.classify
            = { type with kind := .collection .list element }.classify := by
  refine ⟨fun action => ⟨?_, exists_classify_eq⟩, fun type => ⟨classify_eq_recurseCloneable_iff,
    fun decision => partDecision_eq_clone_iff, isDirectAssignment_classify_iff,
    classify_eq_directAssignment, ?_, ?_, ?_⟩⟩
  · intro given
    obtain ⟨type, rfl⟩ := given
    exact canonical_classify type
  · intro element
    rw [classify_of_array rfl, classify_of_array rfl]
    rfl
  · intro key value
    rw [classify_of_not_array rfl, classify_of_not_array rfl]
    cases key <;> cases value <;> rfl
  · intro element
    rw [classify_of_not_array rfl, classify_of_not_array rfl]
    cases element <;> rfl

/-- No array of rank two has its elements cloned. The elements of a vector of lists are copied,
although values with clone methods are inside them; a list with a clone method is left to it.
-/
theorem nestedLists_classify
    : let inner : TypeDescriptor := .list (.cloneable "Item")
      (¬ ∃ type, TypeDescriptor.classify type = .cloneArray 2 .clone)
      ∧ (TypeDescriptor.array inner 0).classify.partDecision? = some .copy
      ∧ ¬ inner.HasOwnClone
      ∧ inner.asDeepCloneable.classify = .recurseCloneable := by
  intro inner
  obtain ⟨image, ofType⟩ := classify_canonical
  have decides : (TypeDescriptor.array inner 0).classify.partDecision? = some .copy := rfl
  refine ⟨?_, decides, ?_, ?_⟩
  · rw [image]
    intro canonical
    cases canonical
  · intro own
    have cloned := ((ofType (.array inner 0)).2.1 .copy decides).mpr ⟨inner, rfl, own⟩
    cases cloned
  · exact (ofType inner.asDeepCloneable).1.mpr ⟨rfl, rfl⟩

end TypeDescriptor

end ClonePlanner
