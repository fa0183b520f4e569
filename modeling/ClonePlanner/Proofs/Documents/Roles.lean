import ClonePlanner.Decoding.Declaration

/-! What the values in a document of declarations stand for. The role of a value follows from the
steps that lead to it, so places in a document are told without running the decoder.
-/

namespace ClonePlanner.Decoding

open ClonePlanner.Json (Value)

/-- What a value is decoded as. -/
inductive Role where
  | declarations
  | declaration
  | ancestors
  | ancestor
  | members
  | member
  | capabilities
  | descriptor
  /-- A name from a fixed choice. -/
  | choice
  /-- A value without parts of its own, or one that does not count. -/
  | plain
deriving DecidableEq, Repr

namespace Role

/-- The fields of a record in their order, with their roles. A descriptor has those of its kind
beside them.
-/
def fields : Role → Entries Role
  | .declaration => [
    ("name", .plain),
    ("is_abstract", .plain),
    ("record_like", .plain),
    ("capabilities", .capabilities),
    ("user_implemented", .capabilities),
    ("members", .members),
    ("ancestors", .ancestors)]
  | .ancestor => [("name", .plain), ("members", .members)]
  | .member => [
    ("name", .plain),
    ("type", .descriptor),
    ("mutability", .choice),
    ("visibility", .choice),
    ("readable", .plain),
    ("is_static", .plain)]
  | .capabilities => [("deep", .plain), ("shallow", .plain)]
  | .descriptor => [
    ("name", .plain),
    ("is_value_type", .plain),
    ("nullable", .plain),
    ("deep_cloneable", .plain),
    ("shallow_cloneable", .plain),
    ("record_like", .plain)]
  | .declarations | .ancestors | .members | .choice | .plain => []

/-- The kind of a descriptor, and the fields that one kind or another has. -/
def kindFields : Role → Entries Role
  | .descriptor => [
    ("kind", .plain),
    ("rank", .plain),
    ("variant", .choice),
    ("element", .descriptor),
    ("key", .descriptor),
    ("value", .descriptor)]
  | _ => []

/-- The role of the part that a step leads to. Records can be written as arrays, descriptors
cannot.
-/
def part : Role → Step → Role
  | .declarations, .index _ => .declaration
  | .ancestors, .index _ => .ancestor
  | .members, .index _ => .member
  | .descriptor, .index _ => .plain
  | role, .index position => ((role.fields[position]?).map (·.2)).getD .plain
  | role, .key name => (Entries.get? name (role.fields ++ role.kindFields)).getD .plain

/-- The role of the part that a path leads to. -/
def along (role : Role) (path : Path) : Role :=
  path.foldl part role

/-- A document holds a list of declarations, or one. -/
def ofDocument : Value → Role
  | .array _ => .declarations
  | _ => .declaration

@[simp]
theorem along_cons (role : Role) (step : Step) (rest : Path)
    : role.along (step :: rest) = (role.part step).along rest :=
  rfl

theorem along_concat (role : Role) (path : Path) (step : Step)
    : role.along (path ++ [step]) = (role.along path).part step := by
  rw [along, List.foldl_append]
  rfl

theorem fields_nodup (role : Role) : (Entries.keys (role.fields ++ role.kindFields)).Nodup := by
  cases role <;> decide

/-- A field is found behind its key. -/
theorem part_key {role : Role} {name : String} {inner : Role}
    (listed : (name, inner) ∈ role.fields ++ role.kindFields)
    : role.part (.key name) = inner := by
  rw [part, Entries.get?_of_mem role.fields_nodup listed, Option.getD_some]

/-- A field of a record that is written as an array is found at its position. -/
theorem part_index {role : Role} {position : Nat} {name : String} {inner : Role}
    (record : role ≠ .descriptor) (listed : role.fields[position]? = some (name, inner))
    : role.part (.index position) = inner := by
  cases role with
  | descriptor => exact (record rfl).elim
  | declaration | ancestor | member | capabilities | choice | plain =>
      simp only [part, listed, Option.map_some, Option.getD_some]
  | declarations | ancestors | members => cases listed

end Role

end ClonePlanner.Decoding
