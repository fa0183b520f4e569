import ClonePlanner.Proofs.Documents.Agreement
import ClonePlanner.Proofs.Documents.DeclarationLists
import ClonePlanner.Proofs.Documents.RelaidDocuments

/-! Decoding does not depend on how objects are laid out. Two documents that differ in the order
of keys, and in keys that no record has a field for, decode to the same declarations.
-/

namespace ClonePlanner.Decoding

open ClonePlanner.Json (Value)

variable {α β : Type}

open Decoded (Agree agree_error)

/-- Of two outcomes that stand in a relation, either both are there or neither is. -/
theorem rel_none_iff {R : α → β → Prop} {found : Option α} {other : Option β}
    (rel : Option.Rel R found other)
    : found = none ↔ other = none := by
  cases rel <;> simp

/-- What related parts have in common holds of the one exactly if it does of the other. -/
theorem rel_some_iff {R : α → β → Prop} {P : α → Prop} {Q : β → Prop} {found : Option α}
    {other : Option β} (rel : Option.Rel R found other)
    (alike : ∀ part part', R part part' → (P part ↔ Q part'))
    : (∃ part, found = some part ∧ P part) ↔ ∃ part, other = some part ∧ Q part := by
  cases rel with
  | none => simp
  | some related => simp [alike _ _ related]

-----------------------------------------------------------------------------------------
-- What values of a role are read by
-----------------------------------------------------------------------------------------

/-- What may stand beside a name that carries no data. -/
def nothing (setting : Setting) (value : Value) : Decoded Unit :=
  if isNothing setting value then .ok () else wrongType value "unit"

theorem nothing_eq_ok_iff {setting : Setting} {value : Value}
    : nothing setting value = .ok () ↔ isNothing setting value = true := by
  unfold nothing
  split <;> simp_all [wrongType]

/-- The decoder is one that values of the role are given to. -/
inductive Reads : Role → {α : Type} → (Value → Decoded α) → Prop where
  | declarations : Reads .declarations (list declaration)
  | declaration : Reads .declaration declaration
  | ancestors : Reads .ancestors (list ancestor)
  | ancestor : Reads .ancestor ancestor
  | members : Reads .members (list member)
  | member : Reads .member member
  | capabilities : Reads .capabilities capabilities
  | descriptor : Reads .descriptor descriptor
  | argument : Reads .descriptor fun value => Part.type? ⟨value, descriptor value⟩
  | choice {α : Type} [Named α] (setting : Setting)
    : Reads .choice (choice setting : Value → Decoded α)
  | text : Reads .plain text
  | flag : Reads .plain flag
  | word32 : Reads .plain word32
  | tag : Reads .plain (tag .setAside : Value → Decoded TypeKind.Tag)
  | nothing (setting : Setting) : Reads .plain (nothing setting)

/-- No decoder for values of the role tells the two apart. -/
def SameReading (role : Role) (value other : Value) : Prop :=
  ∀ ⦃α : Type⦄ ⦃decode : Value → Decoded α⦄, Reads role decode →
    (decode value).Agree (decode other)

theorem SameReading.refl (role : Role) (value : Value) : SameReading role value value :=
  fun _ _ _ => .refl _

-----------------------------------------------------------------------------------------
-- Records
-----------------------------------------------------------------------------------------

/-- The parts for each field of a record are read alike. -/
def Matching (role : Role) (layout other : Layout Value) : Prop :=
  ∀ position name inner, role.fields[position]? = some (name, inner) →
    Option.Rel (SameReading inner) (layout.part? position name) (other.part? position name)

section Fields

variable {role inner : Role} {source other : Source Value} {position : Nat} {name : String}
  {decode : Value → Decoded β} (matching : Matching role source.layout other.layout)
  (listed : role.fields[position]? = some (name, inner)) (reads : Reads inner decode)
include matching listed reads

/-- A needed field is read alike from parts that are. -/
theorem Matching.required
    : (source.required position name decode).Agree (other.required position name decode) := by
  intro value
  rw [Source.required_eq_ready_iff, Source.required_eq_ready_iff]
  exact rel_some_iff (matching position name inner listed) fun _ _ same => same reads value

/-- A field that may be missing is read alike from parts that are. -/
theorem Matching.optional {default : β}
    : (source.optional position name default decode).Agree
        (other.optional position name default decode) := by
  intro value
  have parts := matching position name inner listed
  rw [Source.optional_eq_ready_iff, Source.optional_eq_ready_iff, rel_none_iff parts,
    rel_some_iff parts fun _ _ same => same reads value]

end Fields

/-- The decoder reads records of the role by their fields alone, from objects and from arrays. -/
structure ReadsRecord (role : Role) (decode : Value → Decoded α) : Prop where
  object : ∀ {fields others : List (String × Value)},
    Matching role (.keyed fields) (.keyed others) →
    (decode (.object fields)).Agree (decode (.object others))
  array : ∀ {values others : List Value}, values.length = others.length →
    Matching role (.positional values) (.positional others) →
    (decode (.array values)).Agree (decode (.array others))

theorem readsRecord {role : Role} {title : String} {count : Nat}
    {read : Source Value → Reading α}
    (reads : ∀ source other : Source Value, Matching role source.layout other.layout →
      (read source).Agree (read other))
    : ReadsRecord role (record .direct title count read) where
  object := fun {fields others} matching =>
    (reads ⟨.keyed fields, title⟩ ⟨.keyed others, title⟩ matching).settle
  array := by
    intro values others length matching result
    rw [record, record, positional_eq_ok_iff, positional_eq_ok_iff, length]
    rw [reads ⟨.positional values, _⟩ ⟨.positional others, _⟩ matching result]

theorem capabilities_readsRecord : ReadsRecord .capabilities capabilities :=
  readsRecord fun _ _ matching =>
    .seq (.map (matching.optional rfl .flag) _)
      (matching.optional rfl .flag)

theorem member_readsRecord : ReadsRecord .member member :=
  readsRecord fun _ _ matching =>
    .seq (.seq (.seq (.seq (.seq (.map (matching.required rfl .text) _)
      (matching.required rfl .descriptor))
      (matching.optional rfl (.choice .direct)))
      (matching.optional rfl (.choice .direct)))
      (matching.optional rfl .flag))
      (matching.optional rfl .flag)

theorem ancestor_readsRecord : ReadsRecord .ancestor ancestor :=
  readsRecord fun _ _ matching =>
    .seq (.map (matching.required rfl .text) _)
      (matching.optional rfl .members)

theorem declaration_readsRecord : ReadsRecord .declaration declaration :=
  readsRecord fun _ _ matching =>
    .seq (.seq (.seq (.seq (.seq (.seq (.map (matching.required rfl .text) _)
      (matching.optional rfl .flag))
      (matching.optional rfl .flag))
      (matching.optional rfl .capabilities))
      (matching.optional rfl .capabilities))
      (matching.optional rfl .members))
      (matching.optional rfl .ancestors)

-----------------------------------------------------------------------------------------
-- Arrays with items that are read alike
-----------------------------------------------------------------------------------------

/-- Items in their order are read alike if each pair of them is, by induction over the pairs. -/
theorem items_agree {decode : Value → Decoded α} {values others : List Value}
    (aligned : List.Forall₂ (fun value other => (decode value).Agree (decode other))
      values others) (index : Nat)
    : (items decode index values).Agree (items decode index others) := by
  intro found
  rw [items_eq_ok_iff, items_eq_ok_iff]
  induction aligned generalizing found with
  | nil => exact .rfl
  | cons agree _ ih => simp only [List.forall₂_cons_left_iff, agree _, ih]

/-- What two lists have at each index is read alike. -/
structure ItemsAlike (role : Role) (items others : List Value) : Prop where
  length : items.length = others.length
  each : ∀ index item other, items[index]? = some item → others[index]? = some other →
    SameReading (role.part (.index index)) item other

namespace ItemsAlike

variable {role : Role} {values others : List Value}

theorem get (alike : ItemsAlike role values others) (index : Nat)
    : Option.Rel (SameReading (role.part (.index index))) values[index]? others[index]? := by
  by_cases there : index < values.length
  · have otherThere : index < others.length := alike.length ▸ there
    rw [List.getElem?_eq_getElem there, List.getElem?_eq_getElem otherThere]
    exact .some (alike.each index _ _ (List.getElem?_eq_getElem there)
      (List.getElem?_eq_getElem otherThere))
  · have beyond := Nat.le_of_not_lt there
    rw [List.getElem?_eq_none beyond, List.getElem?_eq_none (alike.length ▸ beyond)]
    exact .none

/-- The fields of a record that is written as an array match by their positions. -/
theorem matching (alike : ItemsAlike role values others) (record : role ≠ .descriptor)
    : Matching role (.positional values) (.positional others) := by
  intro position name inner listed
  have same := alike.get position
  rwa [Role.part_index record listed] at same

/-- A list is read alike if its items all have one role. -/
theorem list {inner : Role} {decode : Value → Decoded α} (alike : ItemsAlike role values others)
    (each : ∀ index, role.part (.index index) = inner) (reads : Reads inner decode)
    : (Decoding.list decode (.array values)).Agree (Decoding.list decode (.array others)) := by
  refine items_agree (List.forall₂_iff_get.mpr ⟨alike.length, ?_⟩) 0
  intro index there otherThere
  have same := alike.each index _ _ (List.getElem?_eq_getElem there)
    (List.getElem?_eq_getElem otherThere)
  rw [each index] at same
  exact same reads

end ItemsAlike

/-- Arrays are read alike if their items are, by cases on what reads them. -/
theorem sameReading_array {role : Role} {values others : List Value}
    (alike : ItemsAlike role values others)
    : SameReading role (.array values) (.array others) := by
  intro α decode reads
  cases reads with
  | declarations => exact alike.list (fun _ => rfl) .declaration
  | ancestors => exact alike.list (fun _ => rfl) .ancestor
  | members => exact alike.list (fun _ => rfl) .member
  | declaration => exact declaration_readsRecord.array alike.length (alike.matching nofun)
  | ancestor => exact ancestor_readsRecord.array alike.length (alike.matching nofun)
  | member => exact member_readsRecord.array alike.length (alike.matching nofun)
  | capabilities => exact capabilities_readsRecord.array alike.length (alike.matching nofun)
  | descriptor | argument | choice | text | flag | word32 | tag => exact agree_error _ _
  | nothing setting => cases setting <;> exact agree_error _ _

-----------------------------------------------------------------------------------------
-- Objects with fields that are read alike
-----------------------------------------------------------------------------------------

/-- Two objects have the same under every key that is not foreign, and the same keys if none is. -/
structure FieldsAlike (role : Role) (fields others : List (String × Value)) : Prop where
  get : ∀ key, ¬ role.Foreign fields key →
    Option.Rel (SameReading (role.part (.key key))) (Entries.get? key fields)
      (Entries.get? key others)
  keys : (∀ key, ¬ role.Foreign fields key) →
    (Entries.keys others).Perm (Entries.keys fields)

section Objects

variable {role inner : Role} {fields others : List (String × Value)} {key : String}

theorem FieldsAlike.part (alike : FieldsAlike role fields others)
    (listed : (key, inner) ∈ role.fields ++ role.kindFields) (own : ¬ role.Foreign fields key)
    : Option.Rel (SameReading inner) (Entries.get? key fields) (Entries.get? key others) := by
  have same := alike.get key own
  rwa [Role.part_key listed] at same

/-- The fields of a record that is written as an object match by their keys. -/
theorem FieldsAlike.matching (alike : FieldsAlike role fields others)
    (own : ∀ key ∈ Entries.keys role.fields, ¬ role.Foreign fields key)
    : Matching role (.keyed fields) (.keyed others) := by
  intro position name inner listed
  have mem := List.mem_of_getElem? listed
  exact alike.part (List.mem_append_left _ mem) (own name (List.mem_map_of_mem mem))

/-- An object without fields may be nothing, any other object is not. -/
theorem nothing_object_eq_ok_iff {setting : Setting}
    : nothing setting (.object fields) = .ok ()
      ↔ setting = .setAside ∧ Entries.keys fields = [] := by
  rw [nothing_eq_ok_iff]
  cases setting <;> cases fields <;> simp [isNothing]

/-- An object is a choice by its only key. -/
theorem choice_object_eq_ok_iff [Named α] {setting : Setting} {result : α}
    : choice setting (.object fields) = .ok result
      ↔ Entries.keys fields = [Named.name result]
        ∧ ∃ value, Entries.get? (Named.name result) fields = some value
          ∧ nothing setting value = .ok () := by
  simp only [choice_eq_ok_iff, nothing_eq_ok_iff]
  constructor
  · rintro (string | ⟨value, object, isNothing⟩)
    · cases string
    · cases object
      exact ⟨rfl, value, by simp [Entries.get?], isNothing⟩
  · rintro ⟨single, value, found, isNothing⟩
    obtain ⟨⟨key, first⟩, rfl, named⟩ := List.map_eq_singleton_iff.mp single
    obtain rfl : key = Named.name result := named
    simp only [Entries.get?, if_true, Option.some.injEq] at found
    exact .inr ⟨value, by rw [found], isNothing⟩

theorem nothing_object_agree (alike : FieldsAlike .plain fields others) (setting : Setting)
    : (nothing setting (.object fields)).Agree (nothing setting (.object others)) := by
  rintro ⟨⟩
  have order := alike.keys fun _ => id
  rw [nothing_object_eq_ok_iff, nothing_object_eq_ok_iff, ← List.perm_nil, ← List.perm_nil]
  exact and_congr_right fun _ => ⟨order.trans, order.symm.trans⟩

theorem choice_object_agree [Named α] (alike : FieldsAlike .choice fields others)
    (setting : Setting)
    : (choice setting (.object fields) : Decoded α).Agree (choice setting (.object others)) := by
  intro result
  have order := alike.keys fun _ => id
  have parts := alike.get (Named.name result) id
  rw [choice_object_eq_ok_iff, choice_object_eq_ok_iff, ← List.perm_singleton,
    ← List.perm_singleton, rel_some_iff parts fun _ _ same => same (.nothing setting) ()]
  exact and_congr_left fun _ => ⟨order.trans, order.symm.trans⟩

end Objects

-----------------------------------------------------------------------------------------
-- Descriptors
-----------------------------------------------------------------------------------------

section Descriptors

variable {inner : Role} {fields others : List (String × Value)} {position : Nat} {key : String}

section Parts

variable {decode : Part → Decoded β}
  (alike : Option.Rel (SameReading inner) (Entries.get? key fields) (Entries.get? key others))
  (reads : Reads inner fun value => decode ⟨value, descriptor value⟩)
include alike reads

theorem required_parts_agree
    : ((partsSource fields).required position key decode).Agree
        ((partsSource others).required position key decode) := by
  intro result
  rw [required_parts_iff, required_parts_iff]
  exact rel_some_iff alike fun _ _ same => same reads result

theorem optional_parts_agree {default : β}
    : ((partsSource fields).optional position key default decode).Agree
        ((partsSource others).optional position key default decode) := by
  intro result
  rw [optional_parts_iff, optional_parts_iff, rel_none_iff alike,
    rel_some_iff alike fun _ _ same => same reads result]

end Parts

namespace FieldsAlike

variable (alike : FieldsAlike .descriptor fields others)
include alike

theorem own (listed : (key, inner) ∈ Role.fields .descriptor)
    : Option.Rel (SameReading inner) (Entries.get? key fields) (Entries.get? key others) := by
  have owned : ∀ key ∈ Entries.keys (Role.fields .descriptor), key ∈ ownKeys := by decide
  refine alike.part (List.mem_append_left _ listed) fun foreign => foreign ?_
  exact List.mem_append_left _ (owned key (List.mem_map_of_mem listed))

theorem ofKind {tag : TypeKind.Tag} (named : namedTag? fields = some tag)
    (needed : key ∈ kindKeys tag) (listed : (key, inner) ∈ Role.kindFields .descriptor)
    : Option.Rel (SameReading inner) (Entries.get? key fields) (Entries.get? key others) := by
  refine alike.part (List.mem_append_right _ listed) fun foreign => foreign ?_
  rw [countingKeys, named]
  exact List.mem_append_right _ needed

theorem ownFields
    : (Decoding.ownFields (partsSource fields)).Agree
        (Decoding.ownFields (partsSource others)) :=
  .seq (.seq (.seq (.seq (.seq (.map
    (required_parts_agree (alike.own (by decide)) .text) _)
    (optional_parts_agree (alike.own (by decide)) .flag))
    (optional_parts_agree (alike.own (by decide)) .flag))
    (optional_parts_agree (alike.own (by decide)) .flag))
    (optional_parts_agree (alike.own (by decide)) .flag))
    (optional_parts_agree (alike.own (by decide)) .flag)

/-- The fields of the kind that is named are read alike, by cases on the kind. -/
theorem kindFields {tag : TypeKind.Tag} (named : namedTag? fields = some tag)
    : (Decoding.kindFields (partsSource fields) tag).Agree
        (Decoding.kindFields (partsSource others) tag) := by
  cases tag with
  | scalar | string | userCloneable | opaqueType => exact fun _ => .rfl
  | array =>
      exact .seq (.map
        (required_parts_agree (alike.ofKind named (by decide) (by decide)) .word32) _)
        (required_parts_agree (alike.ofKind named (by decide) (by decide)) .descriptor)
  | dictionary =>
      exact .seq (.seq (.map
        (required_parts_agree (alike.ofKind named (by decide) (by decide)) (.choice .setAside)) _)
        (optional_parts_agree (alike.ofKind named (by decide) (by decide)) .argument))
        (optional_parts_agree (alike.ofKind named (by decide) (by decide)) .argument)
  | collection =>
      exact .seq (.map
        (required_parts_agree (alike.ofKind named (by decide) (by decide)) (.choice .setAside)) _)
        (optional_parts_agree (alike.ofKind named (by decide) (by decide)) .argument)

/-- The kind is read alike: both name the same one, and so the same keys count in both. -/
theorem kind : (Decoding.kind (parts fields)).Agree (Decoding.kind (parts others)) := by
  intro type
  have counts : "kind" ∈ countingKeys fields := List.mem_append_left _ (by decide)
  have listed : ("kind", Role.plain) ∈ Role.fields .descriptor ++ Role.kindFields .descriptor := by
    decide
  have kinds := alike.part listed fun foreign => foreign counts
  -- first the fields of the kind are exchanged, while it is still known which kind it is
  have exchanged : Decoding.kind (parts fields) = .ok type
      ↔ ∃ written, Entries.get? "kind" fields = some written
          ∧ ∃ tag, Decoding.tag .setAside written = .ok tag
            ∧ Decoding.kindFields (partsSource others) tag = .ready type := by
    simp only [kind_eq_ok_iff, exists_and_left]
    refine exists_congr fun written => and_congr_right fun found => exists_congr fun tag => ?_
    exact and_congr_right fun tagged => alike.kindFields (namedTag?_eq_some found tagged) type
  rw [exchanged, kind_eq_ok_iff]
  simp only [exists_and_left]
  exact rel_some_iff kinds fun _ _ same => exists_congr fun tag =>
    and_congr_left fun _ => same .tag tag

theorem descriptor
    : (Decoding.descriptor (.object fields)).Agree (Decoding.descriptor (.object others)) :=
  alike.ownFields.settle.bind fun withKind => alike.kind.map withKind

end FieldsAlike

end Descriptors

-----------------------------------------------------------------------------------------
-- Documents
-----------------------------------------------------------------------------------------

/-- Objects are read alike if their fields are, by cases on what reads them. -/
theorem sameReading_object {role : Role} {fields others : List (String × Value)}
    (alike : FieldsAlike role fields others)
    : SameReading role (.object fields) (.object others) := by
  intro α decode reads
  cases reads with
  | declaration =>
      exact declaration_readsRecord.object (alike.matching fun _ own foreign => foreign own)
  | ancestor => exact ancestor_readsRecord.object (alike.matching fun _ own foreign => foreign own)
  | member => exact member_readsRecord.object (alike.matching fun _ own foreign => foreign own)
  | capabilities =>
      exact capabilities_readsRecord.object (alike.matching fun _ own foreign => foreign own)
  | descriptor => exact alike.descriptor
  | argument => exact alike.descriptor.map some
  | choice setting => exact choice_object_agree alike setting
  | nothing setting => exact nothing_object_agree alike setting
  | declarations | ancestors | members | text | flag | word32 | tag => exact agree_error _ _

/-- Values that are laid out differently are read alike, by induction over how they differ. -/
theorem Relaid.sameReading {role : Role} {value other : Value} (relaid : Relaid role value other)
    : SameReading role value other := by
  induction relaid with
  | null role | bool role | number role | string role => exact .refl role _
  | array length _ ih => exact sameReading_array ⟨length, ih⟩
  | @object role fields kept added written keys _ foreign order unique ih =>
      refine sameReading_object ⟨fun key own => ?_, fun none => ?_⟩
      · exact Entries.rel_get? keys (ih key) (fun mem => own (foreign key mem)) order unique
      · -- no key is foreign, so no field was added
        have nothingAdded : added = [] :=
          List.eq_nil_iff_forall_not_mem.mpr fun entry mem =>
            none entry.1 (foreign entry.1 (List.mem_map_of_mem mem))
        subst nothingAdded
        rw [List.append_nil] at order
        exact keys ▸ order.map _

/-- A document and one that is laid out differently hold the same declarations, or neither holds
any.
-/
theorem declarationsFrom_relaid (origin : String) {document other : Value}
    (relaid : Relaid (Role.ofDocument document) document other) (found : List TypeDeclaration)
    : declarationsFrom origin document = .ok found
      ↔ declarationsFrom origin other = .ok found := by
  rw [declarationsFrom, declarationsFrom, withOrigin_eq_ok_iff, withOrigin_eq_ok_iff]
  have same := relaid.sameReading
  cases relaid with
  | array => exact same .declarations found
  | object => exact (same .declaration).map ([·]) found
  | null | bool | number | string => exact .rfl

/-- A list of one class with one member. -/
def tidyDocument : Value :=
  .array [.object [
    ("name", .string "Box"),
    ("members", .array [.object [
      ("name", .string "label"),
      ("type", .object [("name", .string "string"), ("kind", .string "string")])]])]]

/-- The same with its keys in other orders, and with a key more in the class and in the type. -/
def scatteredDocument : Value :=
  .array [.object [
    ("members", .array [.object [
      ("type", .object [
        ("kind", .string "string"),
        ("rank", .string "none"),
        ("name", .string "string")]),
      ("name", .string "label")]]),
    ("note", .null),
    ("name", .string "Box")]]

theorem tidyDocument_relaid
    : Relaid (Role.ofDocument tidyDocument) tidyDocument scatteredDocument := by
  have single {role : Role} {value other : Value}
      (relaid : Relaid (role.part (.index 0)) value other)
      : Relaid role (.array [value]) (.array [other]) := by
    refine .array rfl ?_
    rintro (_ | index) _ _ found foundOther
    · cases found
      cases foundOther
      exact relaid
    · cases found
  refine single ?_
  refine .ofAligned [("name", .string "Box"), ("members", .array [.object _])] [("note", .null)]
    (.cons ⟨.refl "name", .string _ _⟩ (.cons ⟨.refl "members", single ?_⟩ .nil)) (by decide)
    (List.perm_append_singleton _ [_, _]) (by decide)
  refine .ofAligned [("name", .string "label"), ("type", .object _)] []
    (.cons ⟨.refl "name", .string _ _⟩ (.cons ⟨.refl "type", ?_⟩ .nil)) (by decide)
    (.swap _ _ []) (by decide)
  exact .ofAligned [("name", .string "string"), ("kind", .string "string")]
    [("rank", .string "none")]
    (.cons ⟨.refl "name", .string _ _⟩ (.cons ⟨.refl "kind", .string _ _⟩ .nil)) (by decide)
    (List.perm_append_singleton _ [_, _]) (by decide)

theorem scatteredDocument_declarationsFrom
    : Relaid (Role.ofDocument tidyDocument) tidyDocument scatteredDocument
      ∧ declarationsFrom "box" scatteredDocument
        = .ok [⟨"Box", false, false, .none, .none, [.writable "label" .string], []⟩] :=
  ⟨tidyDocument_relaid, (declarationsFrom_relaid "box" tidyDocument_relaid _).mp rfl⟩

end ClonePlanner.Decoding
