/-!
Types with finitely many values, each known by a name of its own.
-/

namespace ClonePlanner

/-- All values of a type in their order of declaration, and the name by which each is written.
No two values share a name.
-/
class Named (α : Type) where
  all : List α
  name : α → String
  complete : ∀ value, value ∈ all
  name_injective : ∀ left right, name left = name right → left = right

namespace Named

variable {α : Type} [Named α]

def names (α : Type) [Named α] : List String :=
  (all : List α).map name

def ofName? (text : String) : Option α :=
  (all : List α).find? fun value => name value == text

/-- A value is found by its name, since no other value has it. -/
theorem ofName?_name (value : α) : ofName? (name value) = some value := by
  cases h : (ofName? (name value) : Option α) with
  | none =>
    have := List.find?_eq_none.mp h value (complete value)
    simp at this
  | some found =>
    have hn := List.find?_some h
    exact congrArg some (name_injective _ _ (by simpa using hn))

/-- A value found by a text has that text as its name. -/
theorem name_of_ofName? {text : String} {value : α} (h : ofName? text = some value)
    : name value = text := by
  simpa using List.find?_some h

end Named

end ClonePlanner
