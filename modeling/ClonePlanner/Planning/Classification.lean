import ClonePlanner.Model.TypeDescriptor
import ClonePlanner.Planning.Action

/-!
The clone action that fits a type. Arrays come first, so that an array of cloneable elements is
never handed over to a clone method; a type's own clone method comes before its structure; a
container whose arguments are known is rebuilt; everything else is assigned. Only one level of a
container is unwrapped: an element is cloned by its own method or taken over as it is.
-/

namespace ClonePlanner

/-- What the action for a type makes of it as an element: only a value that is cloned by its own
method is cloned as an element too.
-/
def CloneAction.asElement : CloneAction → ElementAction
  | .recurseCloneable => .clone
  | _ => .copy

namespace TypeDescriptor

/-- Plain assignment: values stored in place and texts are scalars, all else is shared. -/
def directAssignment (type : TypeDescriptor) : CloneAction :=
  if type.isValueType || type.kind.isString then .copyScalar else .copyReference

/-- The action for an array. A vector treats each element by its type; an array of higher rank
is duplicated as it stands. Rank zero counts as one.
-/
def arrayAction (rank : UInt32) (element : ElementAction) : CloneAction :=
  if rank ≤ 1 then .cloneArray 1 element else .cloneArray rank .copy

/-- The clone action for a member of the type in a deep plan. -/
def classify (type : TypeDescriptor) : CloneAction :=
  match type with
  | ⟨_, _, _, _, _, _, .array rank element⟩ => arrayAction rank (classify element).asElement
  | ⟨name, isValueType, nullable, deepCloneable, shallowCloneable, recordLike, kind⟩ =>
    let type : TypeDescriptor :=
      ⟨name, isValueType, nullable, deepCloneable, shallowCloneable, recordLike, kind⟩
    if type.isUserCloneable then
      .recurseCloneable
    else
      match kind with
      | .dictionary variant (some _) (some value) =>
        .cloneDictionary variant.rebuilt (classify value).asElement
      | .collection variant (some element) =>
        .cloneCollection variant.rebuilt (classify element).asElement
      | _ => type.directAssignment
termination_by structural type

/-- What happens to values of the type as elements of a container. -/
def elementAction (element : TypeDescriptor) : ElementAction :=
  element.classify.asElement

end TypeDescriptor

end ClonePlanner
