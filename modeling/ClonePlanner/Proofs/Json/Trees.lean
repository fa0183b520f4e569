import ClonePlanner.Json.Writer

/-! Laws of trees: what holds of a container by its items or fields, and the numbers in a tree.
What is demanded of numbers can be changed number by number, and so can the numbers themselves;
a tree is written with its changed numbers as it is written with the old ones changed on the way.
-/

namespace ClonePlanner.Json.Tree

variable {ν μ : Type}

-----------------------------------------------------------------------------------------
-- Containers and their parts
-----------------------------------------------------------------------------------------

theorem wellFormedItems_iff {good : ν → Prop} {items : List (Tree ν)}
    : WellFormedItems good items ↔ ∀ item ∈ items, WellFormed good item := by
  induction items with
  | nil => simp [WellFormedItems]
  | cons item rest ih => simp [WellFormedItems, ih]

theorem wellFormedFields_iff {good : ν → Prop} {fields : List (String × Tree ν)}
    : WellFormedFields good fields ↔ ∀ field ∈ fields, WellFormed good field.2 := by
  induction fields with
  | nil => simp [WellFormedFields]
  | cons field rest ih =>
      rw [WellFormedFields, ih, List.forall_mem_cons]

theorem depthItems_le_iff {items : List (Tree ν)} {limit : Nat}
    : depthItems items ≤ limit ↔ ∀ item ∈ items, depth item ≤ limit := by
  induction items with
  | nil => simp [depthItems]
  | cons item rest ih => rw [depthItems, Nat.max_le, ih, List.forall_mem_cons]

theorem depthFields_le_iff {fields : List (String × Tree ν)} {limit : Nat}
    : depthFields fields ≤ limit ↔ ∀ field ∈ fields, depth field.2 ≤ limit := by
  induction fields with
  | nil => simp [depthFields]
  | cons field rest ih => rw [depthFields, Nat.max_le, ih, List.forall_mem_cons]

-----------------------------------------------------------------------------------------
-- The numbers in a tree
-----------------------------------------------------------------------------------------

mutual

/-- All numbers in the tree, in written order. -/
def numbers : Tree ν → List ν
  | .null | .bool _ | .string _ => []
  | .number value => [value]
  | .array items => itemNumbers items
  | .object fields => fieldNumbers fields
termination_by structural tree => tree

def itemNumbers : List (Tree ν) → List ν
  | [] => []
  | item :: rest => numbers item ++ itemNumbers rest
termination_by structural items => items

def fieldNumbers : List (String × Tree ν) → List ν
  | [] => []
  | (_, value) :: rest => numbers value ++ fieldNumbers rest
termination_by structural fields => fields

end

section Demands

variable {good better : ν → Prop}

mutual

/-- A demand on numbers may be replaced by one that all numbers of the tree satisfy with it, by
induction over the tree.
-/
theorem WellFormed.of_numbers (tree : Tree ν) (formed : WellFormed good tree)
    (improve : ∀ value ∈ numbers tree, good value → better value)
    : WellFormed better tree := by
  cases tree with
  | null | bool _ | string _ => trivial
  | number value => exact improve value List.mem_cons_self formed
  | array items => exact WellFormedItems.of_numbers items formed improve
  | object fields => exact ⟨formed.1, WellFormedFields.of_numbers fields formed.2 improve⟩
termination_by structural tree

theorem WellFormedItems.of_numbers (items : List (Tree ν)) (formed : WellFormedItems good items)
    (improve : ∀ value ∈ itemNumbers items, good value → better value)
    : WellFormedItems better items := by
  cases items with
  | nil => trivial
  | cons item rest =>
      exact ⟨
        WellFormed.of_numbers item formed.1 fun value mem =>
          improve value (List.mem_append_left _ mem),
        WellFormedItems.of_numbers rest formed.2 fun value mem =>
          improve value (List.mem_append_right _ mem)
      ⟩
termination_by structural items

theorem WellFormedFields.of_numbers (fields : List (String × Tree ν))
    (formed : WellFormedFields good fields)
    (improve : ∀ value ∈ fieldNumbers fields, good value → better value)
    : WellFormedFields better fields := by
  cases fields with
  | nil => trivial
  | cons field rest =>
      exact ⟨
        WellFormed.of_numbers field.2 formed.1 fun value mem =>
          improve value (List.mem_append_left _ mem),
        WellFormedFields.of_numbers rest formed.2 fun value mem =>
          improve value (List.mem_append_right _ mem)
      ⟩
termination_by structural fields

end

end Demands

-----------------------------------------------------------------------------------------
-- Changed numbers
-----------------------------------------------------------------------------------------

section Changed

variable (f : ν → μ)

theorem mapItems_eq_map (items : List (Tree ν)) : mapItems f items = items.map (mapNumbers f) := by
  induction items with
  | nil => rfl
  | cons item rest ih => rw [mapItems, ih, List.map_cons]

/-- Fields keep their keys when the numbers below them are changed. -/
theorem mapFields_eq_mapValues (fields : List (String × Tree ν))
    : mapFields f fields = Entries.mapValues (mapNumbers f) fields := by
  induction fields with
  | nil => rfl
  | cons field rest ih =>
      rw [mapFields, ih]
      rfl

variable (style : Style) (number : μ → List Char)

mutual

/-- A tree with changed numbers is written as the tree is with the numbers changed as they are
written, by induction over the tree.
-/
theorem chars_mapNumbers (tree : Tree ν) (level : Nat)
    : chars style number level (mapNumbers f tree)
      = chars style (fun value => number (f value)) level tree := by
  cases tree with
  | null | number _ | string _ => rfl
  | bool value => cases value <;> rfl
  | array items =>
      cases items with
      | nil => rfl
      | cons item rest =>
          simp only [mapNumbers, mapItems, chars, chars_mapNumbers item (level + 1),
            itemChars_mapItems rest (level + 1)]
  | object fields =>
      cases fields with
      | nil => rfl
      | cons field rest =>
          obtain ⟨key, value⟩ := field
          simp only [mapNumbers, mapFields, chars, chars_mapNumbers value (level + 1),
            fieldChars_mapFields rest (level + 1)]
termination_by structural tree

theorem itemChars_mapItems (items : List (Tree ν)) (level : Nat)
    : itemChars style number level (mapItems f items)
      = itemChars style (fun value => number (f value)) level items := by
  cases items with
  | nil => rfl
  | cons item rest =>
      simp only [mapItems, itemChars, chars_mapNumbers item level, itemChars_mapItems rest level]
termination_by structural items

theorem fieldChars_mapFields (fields : List (String × Tree ν)) (level : Nat)
    : fieldChars style number level (mapFields f fields)
      = fieldChars style (fun value => number (f value)) level fields := by
  cases fields with
  | nil => rfl
  | cons field rest =>
      obtain ⟨key, value⟩ := field
      simp only [mapFields, fieldChars, chars_mapNumbers value level,
        fieldChars_mapFields rest level]
termination_by structural fields

end

end Changed

end ClonePlanner.Json.Tree
