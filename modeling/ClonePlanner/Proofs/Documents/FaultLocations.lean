import ClonePlanner.Proofs.Documents.Roles

/-! Where the faults of documents are located. Each decoder puts a fault down to a value that is
there, behind steps through the fields and items that it reads; what is wrong inside a descriptor
is put down to the outermost one, or to one of its own fields.
-/

namespace ClonePlanner.Decoding

open ClonePlanner.Json (Value)

variable {α β : Type}

-----------------------------------------------------------------------------------------
-- Places in values
-----------------------------------------------------------------------------------------

/-- A fault in a value of the one role may lie behind the step, in a part of the other role. -/
inductive Opens : Role → Step → Role → Prop where
  | declaration (position : Nat) : Opens .declarations (.index position) .declaration
  | ancestor (position : Nat) : Opens .ancestors (.index position) .ancestor
  | member (position : Nat) : Opens .members (.index position) .member
  | key {role inner : Role} {name : String} (listed : (name, inner) ∈ role.fields)
    : Opens role (.key name) inner
  | position {role inner : Role} {position : Nat} {name : String} (record : role ≠ .descriptor)
      (listed : role.fields[position]? = some (name, inner))
    : Opens role (.index position) inner
  /-- What stands beside the name of a choice. -/
  | beside (name : String) : Opens .choice (.key name) .plain

/-- The path leads from a value of the role to a place where a fault in it may lie. -/
inductive Sited : Role → Value → Path → Prop where
  | here (role : Role) (value : Value) : Sited role value []
  | inside {role inner : Role} {step : Step} {value part : Value} {rest : Path}
      (opens : Opens role step inner) (found : child? step value = some part)
      (deeper : Sited inner part rest)
    : Sited role value (step :: rest)

theorem Opens.part_eq {role inner : Role} {step : Step} (opens : Opens role step inner)
    : role.part step = inner := by
  cases opens with
  | declaration | ancestor | member | beside => rfl
  | key listed => exact Role.part_key (List.mem_append_left _ listed)
  | position record listed => exact Role.part_index record listed

/-- A place is in the value, by induction over the way there. -/
theorem Sited.resolves {role : Role} {value : Value} {path : Path}
    (sited : Sited role value path)
    : ∃ part, valueAt? path value = some part := by
  induction sited with
  | here role value => exact ⟨value, rfl⟩
  | inside _ found _ ih =>
      obtain ⟨part, there⟩ := ih
      exact ⟨part, by rw [valueAt?, found, Option.bind_some, there]⟩

/-- Whatever lies on the way to a place has the role that the steps give it. -/
theorem Sited.along {role : Role} {value : Value} {before after : Path}
    (sited : Sited role value (before ++ after))
    : ∃ part, Sited (role.along before) part after := by
  induction before generalizing role value with
  | nil => exact ⟨value, sited⟩
  | cons step rest ih =>
      cases sited with
      | inside opens found deeper =>
          rw [Role.along_cons, opens.part_eq]
          exact ih deeper

/-- A value without parts is itself the place of its faults. -/
theorem Sited.plain {value : Value} {path : Path} (sited : Sited .plain value path)
    : path = [] := by
  cases sited with
  | here => rfl
  | inside opens => cases opens <;> contradiction

/-- A fault in a descriptor lies in itself or in one of its own fields. -/
theorem Sited.descriptor {value : Value} {path : Path} (sited : Sited .descriptor value path)
    : path = [] ∨ ∃ name ∈ Entries.keys (Role.fields .descriptor), path = [.key name] := by
  cases sited with
  | here => exact .inl rfl
  | @inside _ inner _ _ _ _ opens _ deeper =>
      cases opens with
      | position record => exact (record rfl).elim
      | @key _ _ name listed =>
          have parts : ∀ field ∈ Role.fields .descriptor, field.2 = .plain := by decide
          obtain rfl : inner = .plain := parts (name, inner) listed
          rw [deeper.plain]
          exact .inr ⟨name, List.mem_map_of_mem listed, rfl⟩

-----------------------------------------------------------------------------------------
-- Decoders that locate their faults
-----------------------------------------------------------------------------------------

/-- A problem, if there is one, lies at a place in the value. -/
def Locates (role : Role) (value : Value) (decoded : Decoded α) : Prop :=
  ∀ problem, decoded = .error problem → Sited role value problem.path

theorem locates_ok {role : Role} {value : Value} (result : α)
    : Locates role value (.ok result) := by
  intro problem failed
  cases failed

theorem locates_here {role : Role} {value : Value} (cause : Cause)
    : Locates role value (.error (.here cause) : Decoded α) := by
  intro problem failed
  cases failed
  exact .here role value

theorem locates_wrongType {role : Role} {value : Value} (found : Value) (expected : String)
    : Locates role value (wrongType found expected : Decoded α) :=
  locates_here _

/-- A problem that ends the decoding of something larger keeps its place. -/
theorem Locates.carried {role : Role} {value : Value} {decoded : Decoded α} {problem : Problem}
    (located : Locates role value decoded) (failed : decoded = .error problem)
    : Locates role value (.error problem : Decoded β) := by
  intro other same
  cases same
  exact located problem failed

/-- A problem of a part lies in the whole behind the step to the part. -/
theorem Locates.under {role inner : Role} {step : Step} {value part : Value}
    {decoded : Decoded α} (located : Locates inner part decoded) (opens : Opens role step inner)
    (found : child? step value = some part)
    : Locates role value (decoded.under step) := by
  intro problem failed
  cases decoded with
  | ok result => cases failed
  | error own =>
      cases failed
      exact .inside opens found (located own rfl)

theorem locates_atRoot {role : Role} {value : Value} (decoded : Decoded α)
    : Locates role value decoded.atRoot := by
  intro problem failed
  cases decoded with
  | ok result => cases failed
  | error own =>
      cases failed
      exact .here role value

theorem Locates.map {role : Role} {value : Value} {decoded : Decoded α}
    (located : Locates role value decoded) (f : α → β)
    : Locates role value (decoded.map f) := by
  intro problem failed
  cases decoded with
  | ok result => cases failed
  | error own =>
      cases failed
      exact located problem rfl

theorem locates_text {role : Role} (value : Value) : Locates role value (text value) := by
  unfold text
  split
  · exact locates_ok _
  · exact locates_wrongType _ _

theorem locates_flag {role : Role} (value : Value) : Locates role value (flag value) := by
  unfold flag
  split
  · exact locates_ok _
  · exact locates_wrongType _ _

theorem locates_choiceName [Named α] {role : Role} {value : Value} (name : String)
    : Locates role value (choiceName name : Decoded α) := by
  unfold choiceName
  split
  · exact locates_ok _
  · exact locates_here _

/-- A choice is at fault itself, or what stands beside its name is. -/
theorem locates_choice [Named α] (setting : Setting) (value : Value)
    : Locates .choice value (choice setting value : Decoded α) := by
  unfold choice
  split
  case h_1 name => exact locates_choiceName name
  case h_2 name inner =>
    split
    case h_1 problem failed => exact (locates_choiceName name).carried failed
    case h_2 =>
      split
      case isTrue => exact locates_ok _
      case isFalse =>
        have beside : child? (.key name) (.object [(name, inner)]) = some inner := by
          simp [child?, Entries.get?]
        have located : Locates .plain inner (wrongType inner "unit" : Decoded α) :=
          locates_wrongType inner "unit"
        exact located.under (.beside name) beside
  case h_3 => exact locates_here _
  case h_4 => exact locates_wrongType _ _

-----------------------------------------------------------------------------------------
-- Items
-----------------------------------------------------------------------------------------

/-- Items locate their faults if each item does, by induction over those that are left. -/
theorem locates_items {role inner : Role} {decode : Value → Decoded α}
    (opens : ∀ index, Opens role (.index index) inner)
    (located : ∀ value, Locates inner value (decode value)) (before after : List Value)
    : Locates role (.array (before ++ after)) (items decode before.length after) := by
  induction after generalizing before with
  | nil => exact locates_ok _
  | cons value rest ih =>
      have found : child? (.index before.length) (.array (before ++ value :: rest))
          = some value := by
        simp [child?]
      have first := (located value).under (opens before.length) found
      rw [items]
      cases decoded : (decode value).under (.index before.length) with
      | error problem => exact first.carried decoded
      | ok result =>
          have others := ih (before ++ [value])
          rw [List.append_assoc, List.singleton_append, List.length_append] at others
          exact others.map _

theorem locates_list {role inner : Role} {decode : Value → Decoded α}
    (opens : ∀ index, Opens role (.index index) inner)
    (located : ∀ value, Locates inner value (decode value)) (value : Value)
    : Locates role value (list decode value) := by
  unfold list
  split
  case h_1 values => exact locates_items opens located [] values
  case h_2 => exact locates_wrongType _ _

-----------------------------------------------------------------------------------------
-- Records
-----------------------------------------------------------------------------------------

/-- The fault of a reading, if it has one, lies at a place in the value. -/
def Reading.Locates (role : Role) (value : Value) : Reading α → Prop
  | .ready _ => True
  | .missing _ => True
  | .fault _ problem => Sited role value problem.path

namespace Reading

variable {role : Role} {value : Value} {reading : Reading α} {function : Reading (α → β)}

theorem Locates.map (located : reading.Locates role value) (f : α → β)
    : (f <$> reading).Locates role value := by
  cases reading with
  | ready | missing => trivial
  | fault place problem => exact located

/-- Of two readings together the fault is that of one of them. -/
theorem Locates.seq (first : function.Locates role value) (second : reading.Locates role value)
    : (function <*> reading).Locates role value := by
  cases function with
  | ready | missing =>
      cases reading with
      | ready | missing => trivial
      | fault place problem => exact second
  | fault place problem =>
      cases reading with
      | ready | missing => exact first
      | fault place' problem' =>
          by_cases earlier : place' < place
          · simpa [Seq.seq, both, Reading.map, earlier, Reading.Locates] using second
          · simpa [Seq.seq, both, Reading.map, earlier, Reading.Locates] using first

theorem Locates.settle (located : reading.Locates role value)
    : Decoding.Locates role value reading.settle := by
  cases reading with
  | ready result => exact locates_ok result
  | missing cause => exact locates_here cause
  | fault place problem =>
      intro other failed
      cases failed
      exact located

end Reading

namespace Source

/-- The parts of the source are found in the value, behind the steps to its fields. -/
def FoundIn (source : Source α) (written : α → Value) (role : Role) (value : Value) : Prop :=
  ∀ (position : Nat) (name : String) (inner : Role) (place : Nat) (step : Step) (part : α),
    role.fields[position]? = some (name, inner) →
    source.part? position name = some (place, step, part) →
    Opens role step inner ∧ child? step value = some (written part)

variable {source : Source α} {written : α → Value} {role inner : Role} {value : Value}
  {position : Nat} {name : String} {decode : α → Decoded β}

/-- A field locates its fault if what stands for it does. -/
theorem FoundIn.field (found : source.FoundIn written role value)
    (listed : role.fields[position]? = some (name, inner)) {absent : Reading β}
    (missing : absent.Locates role value)
    (located : ∀ part, Locates inner (written part) (decode part))
    : (source.field position name absent decode).Locates role value := by
  unfold Source.field
  split
  case h_1 => exact missing
  case h_2 place step part stands =>
    obtain ⟨opens, there⟩ := found _ _ _ _ _ _ listed stands
    have whole := (located part).under opens there
    split
    case h_1 => trivial
    case h_2 problem failed => exact whole problem failed

theorem FoundIn.required (found : source.FoundIn written role value)
    (listed : role.fields[position]? = some (name, inner))
    (located : ∀ part, Locates inner (written part) (decode part))
    : (source.required position name decode).Locates role value :=
  found.field listed trivial located

theorem FoundIn.optional (found : source.FoundIn written role value)
    (listed : role.fields[position]? = some (name, inner)) {default : β}
    (located : ∀ part, Locates inner (written part) (decode part))
    : (source.optional position name default decode).Locates role value :=
  found.field listed trivial located

/-- A key that is located is the one that looking it up finds, by induction over the fields. -/
theorem get?_of_locate {fields : List (String × α)} {place start : Nat} {part : α}
    (located : locate name start fields = some (place, part))
    : Entries.get? name fields = some part := by
  induction fields generalizing start with
  | nil => cases located
  | cons field rest ih =>
      obtain ⟨key, first⟩ := field
      by_cases same : key = name
      · simp only [locate, same, if_true, Option.some.injEq, Prod.mk.injEq] at located
        simp [Entries.get?, same, located.2]
      · simp only [locate, same, if_false] at located
        simp only [Entries.get?, same, if_false, ih located]

theorem foundIn_object (fields : List (String × Value)) (title : String) (role : Role)
    : (⟨.keyed fields, title⟩ : Source Value).FoundIn id role (.object fields) := by
  intro position name inner place step part listed stands
  obtain ⟨⟨place, part⟩, located, same⟩ := Option.map_eq_some_iff.mp stands
  cases same
  exact ⟨.key (List.mem_of_getElem? listed), get?_of_locate located⟩

theorem foundIn_array (values : List Value) (title : String) {role : Role}
    (record : role ≠ .descriptor)
    : (⟨.positional values, title⟩ : Source Value).FoundIn id role (.array values) := by
  intro position name inner place step part listed stands
  obtain ⟨part, there, same⟩ := Option.map_eq_some_iff.mp stands
  cases same
  exact ⟨.position record listed, there⟩

/-- The parts of a descriptor are found behind their keys. -/
theorem foundIn_parts (fields : List (String × Value)) (title : String) (role : Role)
    : (⟨.keyed (parts fields), title⟩ : Source Part).FoundIn Part.value role
        (.object fields) := by
  intro position name inner place step part listed stands
  obtain ⟨⟨place, part⟩, located, same⟩ := Option.map_eq_some_iff.mp stands
  cases same
  have there := get?_of_locate located
  rw [get?_parts] at there
  obtain ⟨value, found, rfl⟩ := Option.map_eq_some_iff.mp there
  exact ⟨.key (List.mem_of_getElem? listed), found⟩

end Source

/-- A record locates its faults if the readings of its fields do, in an object as in an array. -/
theorem locates_record {role : Role} (recorded : role ≠ .descriptor) {title : String}
    {count : Nat} {read : Source Value → Reading α}
    (located : ∀ source value, source.FoundIn id role value → (read source).Locates role value)
    (value : Value)
    : Locates role value (record .direct title count read value) := by
  cases value with
  | object fields => exact (located _ _ (Source.foundIn_object fields title role)).settle
  | array values =>
      have whole := (located _ _ (Source.foundIn_array values
        (title ++ " with " ++ elements count) recorded)).settle
      rw [record, positional]
      split
      case h_1 problem failed =>
        rw [failed] at whole
        exact whole
      case h_2 =>
        split
        case isTrue => exact locates_here _
        case isFalse => exact locates_ok _
  | null | bool _ | number _ | string _ => exact locates_wrongType _ _

-----------------------------------------------------------------------------------------
-- Declarations and their parts
-----------------------------------------------------------------------------------------

theorem locates_capabilities (value : Value)
    : Locates .capabilities value (capabilities value) := by
  refine locates_record (by decide) ?_ value
  intro source value found
  exact .seq (.map (found.optional rfl locates_flag) _) (found.optional rfl locates_flag)

/-- The kind of a descriptor, whatever is wrong with it, is put down to the descriptor. -/
theorem locates_kind (written : List (String × Part)) (value : Value)
    : Locates .descriptor value (kind written) := by
  unfold kind
  split
  case h_1 => exact locates_here _
  case h_2 =>
    split
    case h_1 problem failed => exact (locates_atRoot _).carried failed
    case h_2 => exact locates_atRoot _

theorem locates_ownFields (fields : List (String × Value))
    : (ownFields ⟨.keyed (parts fields), ""⟩).Locates .descriptor (.object fields) := by
  have found := Source.foundIn_parts fields "" .descriptor
  have flag (part : Part) : Locates .plain part.value (flag part.value) := locates_flag _
  have name (part : Part) : Locates .plain part.value (text part.value) := locates_text _
  exact .seq (.seq (.seq (.seq (.seq (.map (found.required rfl name) _) (found.optional rfl flag))
    (found.optional rfl flag)) (found.optional rfl flag)) (found.optional rfl flag))
    (found.optional rfl flag)

theorem locates_descriptor (value : Value)
    : Locates .descriptor value (descriptor value) := by
  cases value with
  | object fields =>
      have own := (locates_ownFields fields).settle
      rw [descriptor_object, assemble]
      cases settled : (ownFields ⟨.keyed (parts fields), ""⟩).settle with
      | error problem => exact own.carried settled
      | ok withKind => exact (locates_kind _ _).map withKind
  | null | bool _ | number _ | string _ | array _ => exact locates_wrongType _ _

theorem locates_member (value : Value) : Locates .member value (member value) := by
  refine locates_record (by decide) ?_ value
  intro source value found
  exact .seq (.seq (.seq (.seq (.seq (.map (found.required rfl locates_text) _)
    (found.required rfl locates_descriptor))
    (found.optional rfl (locates_choice .direct)))
    (found.optional rfl (locates_choice .direct)))
    (found.optional rfl locates_flag)) (found.optional rfl locates_flag)

theorem locates_ancestor (value : Value) : Locates .ancestor value (ancestor value) := by
  refine locates_record (by decide) ?_ value
  intro source value found
  have members := locates_list Opens.member locates_member
  exact .seq (.map (found.required rfl locates_text) _) (found.optional rfl members)

theorem locates_declaration (value : Value)
    : Locates .declaration value (declaration value) := by
  refine locates_record (by decide) ?_ value
  intro source value found
  have members := locates_list Opens.member locates_member
  have ancestors := locates_list Opens.ancestor locates_ancestor
  exact .seq (.seq (.seq (.seq (.seq (.seq (.map (found.required rfl locates_text) _)
    (found.optional rfl locates_flag)) (found.optional rfl locates_flag))
    (found.optional rfl locates_capabilities)) (found.optional rfl locates_capabilities))
    (found.optional rfl members)) (found.optional rfl ancestors)

theorem locates_declarations (document : Value)
    : Locates (Role.ofDocument document) document (declarations document) := by
  cases document with
  | array values => exact locates_items Opens.declaration locates_declaration [] values
  | null | bool _ | number _ | string _ | object _ => exact (locates_declaration _).map ([·])

-----------------------------------------------------------------------------------------
-- The location of a fault
-----------------------------------------------------------------------------------------

/-- A fault is reported at a path that leads to a value of the document. Where the path leads
through the type of a member it ends there, or at one of the own fields of that type, however
deep inside the type the fault is.
-/
theorem fault_located {origin : String} {document : Value} {fault : DescriptorFault}
    (failed : declarationsFrom origin document = .error fault)
    : fault.message = "invalid type declaration in " ++ origin ++ " at "
        ++ fault.problem.path.text ++ ": " ++ fault.problem.cause.message
      ∧ (∃ part, valueAt? fault.problem.path document = some part)
      ∧ ∀ before step after, fault.problem.path = before ++ step :: after →
          (Role.ofDocument document).along before = .member →
          step = .key "type" ∨ step = .index 1 →
          after = [] ∨ ∃ name ∈ ["name", "is_value_type", "nullable", "deep_cloneable",
            "shallow_cloneable", "record_like"], after = [.key name] := by
  unfold declarationsFrom withOrigin at failed
  split at failed
  case h_1 => cases failed
  case h_2 problem wrong =>
    cases failed
    have sited := locates_declarations document problem wrong
    refine ⟨rfl, sited.resolves, ?_⟩
    intro before step after path leads isType
    have toType : (Role.ofDocument document).along (before ++ [step]) = .descriptor := by
      rw [Role.along_concat, leads]
      rcases isType with rfl | rfl <;> rfl
    change problem.path = before ++ step :: after at path
    rw [path, List.append_cons] at sited
    obtain ⟨part, inside⟩ := sited.along
    rw [toType] at inside
    exact inside.descriptor

/-- A list with a declaration that is written as an array. The element of a member's type has no
kind, which is put down to the type itself.
-/
def faultyElement : Value := .array [.array [
  .string "A", .bool false, .bool false, .object [], .object [],
  .array [.object [
    ("name", .string "x"),
    ("type", .object [
      ("name", .string "X[]"),
      ("kind", .string "array"),
      ("rank", .number (.integer 1)),
      ("element", .object [("name", .string "X")])])]]]]

theorem faultyElement_fault_located
    : ∃ fault, declarationsFrom "types" faultyElement = .error fault
        ∧ fault.problem.path = [.index 0, .index 5, .index 0, .key "type"]
        ∧ (∃ part, valueAt? fault.problem.path faultyElement = some part)
        ∧ (([] : Path) = [] ∨ ∃ name ∈ ["name", "is_value_type", "nullable", "deep_cloneable",
          "shallow_cloneable", "record_like"], ([] : Path) = [.key name]) := by
  have failed : declarationsFrom "types" faultyElement = .error ⟨"types",
      [.index 0, .index 5, .index 0, .key "type"], .missingField "kind"⟩ :=
    rfl
  obtain ⟨_, resolves, bound⟩ := fault_located failed
  exact ⟨_, failed, rfl, resolves,
    bound [.index 0, .index 5, .index 0] (.key "type") [] rfl rfl (.inl rfl)⟩

end ClonePlanner.Decoding
