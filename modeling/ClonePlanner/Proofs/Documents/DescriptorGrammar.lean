import ClonePlanner.Decoding.Declaration
import ClonePlanner.Proofs.Documents.AcceptedParts

/-! The grammar of type descriptors, as rules that do not run the decoder. A descriptor is an
object with its own fields, its kind and the fields of that kind; further keys do not matter. A
descriptor decodes exactly if the rules describe it, at every depth and as the type of a member.
-/

namespace ClonePlanner.Decoding

open ClonePlanner.Json (Value)

-----------------------------------------------------------------------------------------
-- The rules
-----------------------------------------------------------------------------------------

/-- What may be left out is told by the value that is written for it, or else the default. -/
inductive Given {α : Type} (tells : Value → α → Prop) (default : α) : Option Value → α → Prop
  where
  | absent : Given tells default none default
  | written {value : Value} {result : α} (told : tells value result)
    : Given tells default (some value) result

def IsFlag (value : Value) (flag : Bool) : Prop :=
  value = .bool flag

/-- A flag is a boolean, or off where nothing is written. -/
abbrev FlagIs (fields : List (String × Value)) (key : String) : Bool → Prop :=
  Given IsFlag false (Entries.get? key fields)

/-- A kind is told by its name or by its place in the order of the kinds. -/
inductive NamesTag : Value → TypeKind.Tag → Prop where
  | name (tag : TypeKind.Tag) : NamesTag (.string tag.name) tag
  | place {tag : TypeKind.Tag} {index : Nat}
      (listed : [.scalar, .string, .array, .dictionary, .collection, .userCloneable,
        .opaqueType][index]? = some tag)
    : NamesTag (.number (.integer index)) tag

/-- A variant is told by its name, or by an object with the name as its only key and nothing as
its value.
-/
inductive NamesVariant {α : Type} [Named α] : Value → α → Prop where
  | name (variant : α) : NamesVariant (.string (Named.name variant)) variant
  | nullKey (variant : α) : NamesVariant (.object [(Named.name variant, .null)]) variant
  | emptyKey (variant : α) : NamesVariant (.object [(Named.name variant, .object [])]) variant

/-- A rank is an integer below 2^32. -/
inductive NamesRank : Value → UInt32 → Prop where
  | integer {number : Int} (least : 0 ≤ number) (below : number < 4294967296)
    : NamesRank (.number (.integer number)) (UInt32.ofNat number.toNat)

mutual

/-- The value is written for the type. -/
inductive Describes : Value → TypeDescriptor → Prop where
  | object {fields : List (String × Value)} {name : String}
      {isValueType nullable deepCloneable shallowCloneable recordLike : Bool}
      {written : Value} {tag : TypeKind.Tag} {kind : TypeKind TypeDescriptor}
      (named : Entries.get? "name" fields = some (.string name))
      (isValueTypeIs : FlagIs fields "is_value_type" isValueType)
      (nullableIs : FlagIs fields "nullable" nullable)
      (deepCloneableIs : FlagIs fields "deep_cloneable" deepCloneable)
      (shallowCloneableIs : FlagIs fields "shallow_cloneable" shallowCloneable)
      (recordLikeIs : FlagIs fields "record_like" recordLike)
      (kindFound : Entries.get? "kind" fields = some written) (tagged : NamesTag written tag)
      (kindIs : DescribesKind fields tag kind)
    : Describes (.object fields)
        ⟨name, isValueType, nullable, deepCloneable, shallowCloneable, recordLike, kind⟩

/-- The fields hold what the kind with the given tag needs. -/
inductive DescribesKind : List (String × Value) → TypeKind.Tag → TypeKind TypeDescriptor → Prop
  where
  | scalar (fields : List (String × Value)) : DescribesKind fields .scalar .scalar
  | string (fields : List (String × Value)) : DescribesKind fields .string .string
  | array {fields : List (String × Value)} {rankWritten elementWritten : Value} {rank : UInt32}
      {element : TypeDescriptor} (rankFound : Entries.get? "rank" fields = some rankWritten)
      (rankIs : NamesRank rankWritten rank)
      (elementFound : Entries.get? "element" fields = some elementWritten)
      (elementIs : Describes elementWritten element)
    : DescribesKind fields .array (.array rank element)
  | dictionary {fields : List (String × Value)} {variantWritten : Value}
      {variant : DictionaryVariant} {key value : Option TypeDescriptor}
      (variantFound : Entries.get? "variant" fields = some variantWritten)
      (variantIs : NamesVariant variantWritten variant)
      (keyIs : DescribesArgument fields "key" key)
      (valueIs : DescribesArgument fields "value" value)
    : DescribesKind fields .dictionary (.dictionary variant key value)
  | collection {fields : List (String × Value)} {variantWritten : Value}
      {variant : CollectionVariant} {element : Option TypeDescriptor}
      (variantFound : Entries.get? "variant" fields = some variantWritten)
      (variantIs : NamesVariant variantWritten variant)
      (elementIs : DescribesArgument fields "element" element)
    : DescribesKind fields .collection (.collection variant element)
  | userCloneable (fields : List (String × Value))
    : DescribesKind fields .userCloneable .userCloneable
  | opaqueType (fields : List (String × Value)) : DescribesKind fields .opaqueType .opaqueType

/-- An argument of a container is missing, or null, or described. -/
inductive DescribesArgument : List (String × Value) → String → Option TypeDescriptor → Prop where
  | missing {fields : List (String × Value)} {key : String}
      (absent : Entries.get? key fields = none)
    : DescribesArgument fields key none
  | null {fields : List (String × Value)} {key : String}
      (found : Entries.get? key fields = some .null)
    : DescribesArgument fields key none
  | written {fields : List (String × Value)} {key : String} {value : Value}
      {type : TypeDescriptor} (found : Entries.get? key fields = some value)
      (described : Describes value type)
    : DescribesArgument fields key (some type)

end

-----------------------------------------------------------------------------------------
-- What is found among the parts of a descriptor
-----------------------------------------------------------------------------------------

theorem given_iff {α : Type} {tells : Value → α → Prop} {default : α} {written : Option Value}
    {result : α}
    : Given tells default written result
      ↔ (∃ value, written = some value ∧ tells value result)
        ∨ written = none ∧ result = default := by
  constructor
  · intro given
    cases given with
    | absent => exact .inr ⟨rfl, rfl⟩
    | written told => exact .inl ⟨_, rfl, told⟩
  · rintro (⟨value, rfl, told⟩ | ⟨rfl, rfl⟩)
    · exact .written told
    · exact .absent

theorem flag_iff {value : Value} {result : Bool}
    : flag value = .ok result ↔ IsFlag value result :=
  flag_eq_ok_iff

theorem namesTag_iff {value : Value} {tag : TypeKind.Tag}
    : Decoding.tag .setAside value = .ok tag ↔ NamesTag value tag := by
  rw [tag_setAside_eq_ok_iff]
  constructor
  · rintro (rfl | ⟨index, rfl, listed⟩)
    · exact .name tag
    · exact .place listed
  · intro names
    cases names with
    | name => exact .inl rfl
    | place listed => exact .inr ⟨_, rfl, listed⟩

theorem namesVariant_iff {α : Type} [Named α] {value : Value} {variant : α}
    : choice .setAside value = .ok variant ↔ NamesVariant value variant := by
  simp only [choice_eq_ok_iff, isNothing_setAside_iff]
  constructor
  · rintro (rfl | ⟨_, rfl, rfl | rfl⟩)
    · exact .name variant
    · exact .nullKey variant
    · exact .emptyKey variant
  · intro names
    cases names with
    | name => exact .inl rfl
    | nullKey => exact .inr ⟨_, rfl, .inl rfl⟩
    | emptyKey => exact .inr ⟨_, rfl, .inr rfl⟩

theorem namesRank_iff {value : Value} {rank : UInt32}
    : word32 value = .ok rank ↔ NamesRank value rank := by
  rw [word32_eq_ok_iff]
  constructor
  · rintro ⟨number, rfl, least, below, rfl⟩
    exact .integer least below
  · rintro ⟨least, below⟩
    exact ⟨_, rfl, least, below, rfl⟩

/-- The keyed parts of a descriptor, as its decoder sees them. -/
def partsSource (fields : List (String × Value)) : Source Part :=
  ⟨.keyed (parts fields), ""⟩

section Parts

variable {α : Type} {fields : List (String × Value)} {position : Nat} {key : String}
  {decode : Part → Decoded α} {result : α}

theorem required_parts_iff
    : (partsSource fields).required position key decode = .ready result
      ↔ ∃ value, Entries.get? key fields = some value
          ∧ decode ⟨value, descriptor value⟩ = .ok result := by
  simp only [partsSource, Source.required_eq_ready_iff, Layout.part?, get?_parts,
    Option.map_eq_some_iff]
  constructor
  · rintro ⟨_, ⟨value, found, rfl⟩, decoded⟩
    exact ⟨value, found, decoded⟩
  · rintro ⟨value, found, decoded⟩
    exact ⟨_, ⟨value, found, rfl⟩, decoded⟩

theorem optional_parts_iff {default : α}
    : (partsSource fields).optional position key default decode = .ready result
      ↔ (∃ value, Entries.get? key fields = some value
          ∧ decode ⟨value, descriptor value⟩ = .ok result)
        ∨ Entries.get? key fields = none ∧ result = default := by
  simp only [partsSource, Source.optional_eq_ready_iff, Layout.part?, get?_parts,
    Option.map_eq_some_iff, Option.map_eq_none_iff]
  refine or_congr_left ⟨?_, ?_⟩
  · rintro ⟨_, ⟨value, found, rfl⟩, decoded⟩
    exact ⟨value, found, decoded⟩
  · rintro ⟨value, found, decoded⟩
    exact ⟨_, ⟨value, found, rfl⟩, decoded⟩

theorem ownFlag_iff {flag : Bool}
    : ownFlag (partsSource fields) position key = .ready flag ↔ FlagIs fields key flag := by
  simp only [ownFlag, optional_parts_iff, flag_iff, FlagIs, given_iff]

/-- An argument is none where its value is null, and else what its value is as a type. -/
theorem type?_eq_ok_iff {value : Value} {argument : Option TypeDescriptor}
    : Part.type? ⟨value, descriptor value⟩ = .ok argument
      ↔ value = .null ∧ argument = none
        ∨ ∃ type, descriptor value = .ok type ∧ argument = some type := by
  by_cases null : value = .null
  · subst null
    constructor
    · intro read
      cases read
      exact .inl ⟨rfl, rfl⟩
    · rintro (⟨_, rfl⟩ | ⟨_, decoded, _⟩)
      · rfl
      · cases decoded
  · have read : Part.type? ⟨value, descriptor value⟩ = (descriptor value).map some := by
      unfold Part.type?
      split
      case h_1 same => exact (null same).elim
      case h_2 => rfl
    rw [read]
    cases descriptor value <;> simp [Except.map, null, eq_comm]

/-- The six own fields are a name and five flags. -/
theorem ownFields_iff {withKind : TypeKind TypeDescriptor → TypeDescriptor}
    : ownFields (partsSource fields) = .ready withKind
      ↔ ∃ name isValueType nullable deepCloneable shallowCloneable recordLike,
          Entries.get? "name" fields = some (.string name)
          ∧ FlagIs fields "is_value_type" isValueType
          ∧ FlagIs fields "nullable" nullable
          ∧ FlagIs fields "deep_cloneable" deepCloneable
          ∧ FlagIs fields "shallow_cloneable" shallowCloneable
          ∧ FlagIs fields "record_like" recordLike
          ∧ withKind = TypeDescriptor.mk name isValueType nullable deepCloneable
              shallowCloneable recordLike := by
  simp only [ownFields, Reading.seq_eq_ready_iff, Reading.map_eq_ready_iff, required_parts_iff,
    ownFlag_iff, text_eq_ok_iff]
  constructor
  · rintro ⟨_, recordLike, ⟨_, shallow, ⟨_, deep, ⟨_, nullable, ⟨_, valueType,
      ⟨name, ⟨_, found, rfl⟩, rfl⟩, valueTypeIs, rfl⟩, nullableIs, rfl⟩, deepIs, rfl⟩,
      shallowIs, rfl⟩, recordLikeIs, rfl⟩
    exact ⟨name, valueType, nullable, deep, shallow, recordLike, found, valueTypeIs, nullableIs,
      deepIs, shallowIs, recordLikeIs, rfl⟩
  · rintro ⟨name, valueType, nullable, deep, shallow, recordLike, found, valueTypeIs,
      nullableIs, deepIs, shallowIs, recordLikeIs, rfl⟩
    exact ⟨_, recordLike, ⟨_, shallow, ⟨_, deep, ⟨_, nullable, ⟨_, valueType,
      ⟨name, ⟨_, found, rfl⟩, rfl⟩, valueTypeIs, rfl⟩, nullableIs, rfl⟩, deepIs, rfl⟩,
      shallowIs, rfl⟩, recordLikeIs, rfl⟩

/-- The kind is the one that is named, read from its fields. -/
theorem kind_eq_ok_iff {type : TypeKind TypeDescriptor}
    : kind (parts fields) = .ok type
      ↔ ∃ written tag, Entries.get? "kind" fields = some written
          ∧ Decoding.tag .setAside written = .ok tag
          ∧ kindFields (partsSource fields) tag = .ready type := by
  unfold kind
  rw [get?_parts]
  cases Entries.get? "kind" fields with
  | none => simp
  | some written =>
      cases tagged : (tag .setAside written : Decoded TypeKind.Tag) with
      | error problem => simp [tagged, Decoded.atRoot]
      | ok found =>
          simp [tagged, Decoded.atRoot_eq_ok_iff, Reading.settle_eq_ok_iff, partsSource]

end Parts

-----------------------------------------------------------------------------------------
-- Decoding follows the rules
-----------------------------------------------------------------------------------------

/-- The values of an object decode as the rules describe them. -/
def InnerDescribed (fields : List (String × Value)) : Prop :=
  ∀ key value, Entries.get? key fields = some value →
    ∀ type, descriptor value = .ok type ↔ Describes value type

section Kinds

variable {fields : List (String × Value)} (inner : InnerDescribed fields)
include inner

theorem argument_iff {position : Nat} {key : String} {argument : Option TypeDescriptor}
    : (partsSource fields).optional position key none Part.type? = .ready argument
      ↔ DescribesArgument fields key argument := by
  rw [optional_parts_iff]
  simp only [type?_eq_ok_iff]
  constructor
  · rintro (⟨value, found, ⟨rfl, rfl⟩ | ⟨type, decoded, rfl⟩⟩ | ⟨absent, rfl⟩)
    · exact .null found
    · exact .written found ((inner key value found type).mp decoded)
    · exact .missing absent
  · intro is
    cases is with
    | missing absent => exact .inr ⟨absent, rfl⟩
    | null found => exact .inl ⟨_, found, .inl ⟨rfl, rfl⟩⟩
    | written found described =>
        exact .inl ⟨_, found, .inr ⟨_, (inner key _ found _).mpr described, rfl⟩⟩

/-- The fields of a kind are read as the rules describe them, by cases on the kind. -/
theorem kindFields_iff {tag : TypeKind.Tag} {kind : TypeKind TypeDescriptor}
    : kindFields (partsSource fields) tag = .ready kind ↔ DescribesKind fields tag kind := by
  cases tag with
  | scalar | string | userCloneable | opaqueType =>
      constructor
      · intro read
        cases read
        constructor
      · intro is
        cases is
        rfl
  | array =>
      simp only [kindFields, Reading.seq_eq_ready_iff, Reading.map_eq_ready_iff,
        required_parts_iff, namesRank_iff]
      constructor
      · rintro ⟨_, element, ⟨rank, ⟨_, rankFound, rankIs⟩, rfl⟩, ⟨_, found, decoded⟩, rfl⟩
        exact .array rankFound rankIs found ((inner _ _ found element).mp decoded)
      · intro is
        cases is with
        | array rankFound rankIs found elementIs =>
            exact ⟨_, _, ⟨_, ⟨_, rankFound, rankIs⟩, rfl⟩,
              ⟨_, found, (inner _ _ found _).mpr elementIs⟩, rfl⟩
  | dictionary =>
      simp only [kindFields, Reading.seq_eq_ready_iff, Reading.map_eq_ready_iff,
        required_parts_iff, namesVariant_iff, argument_iff inner]
      constructor
      · rintro ⟨_, value, ⟨_, key, ⟨variant, ⟨_, found, variantIs⟩, rfl⟩, keyIs, rfl⟩, valueIs, rfl⟩
        exact .dictionary found variantIs keyIs valueIs
      · intro is
        cases is with
        | dictionary found variantIs keyIs valueIs =>
            exact ⟨_, _, ⟨_, _, ⟨_, ⟨_, found, variantIs⟩, rfl⟩, keyIs, rfl⟩, valueIs, rfl⟩
  | collection =>
      simp only [kindFields, Reading.seq_eq_ready_iff, Reading.map_eq_ready_iff,
        required_parts_iff, namesVariant_iff, argument_iff inner]
      constructor
      · rintro ⟨_, element, ⟨variant, ⟨_, found, variantIs⟩, rfl⟩, elementIs, rfl⟩
        exact .collection found variantIs elementIs
      · intro is
        cases is with
        | collection found variantIs elementIs =>
            exact ⟨_, _, ⟨_, ⟨_, found, variantIs⟩, rfl⟩, elementIs, rfl⟩

theorem kind_iff {type : TypeKind TypeDescriptor}
    : kind (parts fields) = .ok type
      ↔ ∃ written tag, Entries.get? "kind" fields = some written ∧ NamesTag written tag
          ∧ DescribesKind fields tag type := by
  simp only [kind_eq_ok_iff, namesTag_iff, kindFields_iff inner]

/-- The parts of an object are assembled as the rules describe the object. -/
theorem assemble_iff {type : TypeDescriptor}
    : assemble (parts fields) = .ok type ↔ Describes (.object fields) type := by
  have own := @ownFields_iff fields
  constructor
  · intro assembled
    unfold assemble at assembled
    cases settled : (ownFields ⟨.keyed (parts fields), ""⟩).settle with
    | error problem =>
        rw [settled] at assembled
        cases assembled
    | ok withKind =>
        cases read : kind (parts fields) with
        | error problem =>
            rw [settled, Except.bind, read] at assembled
            cases assembled
        | ok kind =>
            rw [settled, Except.bind, read] at assembled
            cases assembled
            obtain ⟨_, _, _, _, _, _, named, isValueType, nullable, deep, shallow, recordLike,
              rfl⟩ := own.mp (Reading.settle_eq_ok_iff.mp settled)
            obtain ⟨_, _, found, tagged, kindIs⟩ := (kind_iff inner).mp read
            exact .object named isValueType nullable deep shallow recordLike found tagged kindIs
  · intro described
    cases described with
    | object named isValueType nullable deep shallow recordLike found tagged kindIs =>
        have settled := Reading.settle_eq_ok_iff.mpr (own.mpr ⟨_, _, _, _, _, _, named,
          isValueType, nullable, deep, shallow, recordLike, rfl⟩)
        have read := (kind_iff inner).mpr ⟨_, _, found, tagged, kindIs⟩
        rw [partsSource] at settled
        rw [assemble, settled, Except.bind, read]
        rfl

end Kinds

theorem sizeOf_lt_of_get? {fields : List (String × Value)} {key : String} {value : Value}
    (found : Entries.get? key fields = some value)
    : sizeOf value < sizeOf fields := by
  have listed := List.sizeOf_lt_of_mem (Entries.mem_of_get? found)
  rw [Prod.mk.sizeOf_spec] at listed
  omega

/-- A value decodes to the type that the rules describe it as, and to none where they describe
nothing. By induction over the value: what lies inside an object is smaller.
-/
theorem descriptor_iff (value : Value) (type : TypeDescriptor)
    : descriptor value = .ok type ↔ Describes value type := by
  cases value with
  | object fields =>
      have inner : InnerDescribed fields := by
        intro key value found type
        have smaller := sizeOf_lt_of_get? found
        exact descriptor_iff value type
      rw [descriptor_object]
      exact assemble_iff inner
  | null | bool _ | number _ | string _ | array _ =>
      refine iff_of_false ?_ ?_
      · intro decoded
        cases decoded
      · intro described
        cases described
termination_by sizeOf value

-----------------------------------------------------------------------------------------
-- Descriptors as the types of members
-----------------------------------------------------------------------------------------

/-- A choice of a member is told by its name, or by an object with the name as its only key and
null as its value.
-/
def NamesChoice {α : Type} [Named α] (value : Value) (choice : α) : Prop :=
  value = .string (Named.name choice) ∨ value = .object [(Named.name choice, .null)]

/-- The parts of a member, of which the type has parts of its own. -/
structure DescribesMember (layout : Layout Value) (found : MemberDescriptor) : Prop where
  named : layout.part? 0 "name" = some (.string found.name)
  typed : ∃ written, layout.part? 1 "type" = some written ∧ Describes written found.type
  mutabilityIs : Given NamesChoice .mutable (layout.part? 2 "mutability") found.mutability
  visibilityIs : Given NamesChoice .publicWritable (layout.part? 3 "visibility")
    found.visibility
  readableIs : Given IsFlag true (layout.part? 4 "readable") found.readable
  isStaticIs : Given IsFlag false (layout.part? 5 "is_static") found.isStatic

theorem namesChoice_iff {α : Type} [Named α] {value : Value} {result : α}
    : choice .direct value = .ok result ↔ NamesChoice value result := by
  have nothing_iff (inner : Value) : isNothing .direct inner = true ↔ inner = .null := by
    cases inner <;> simp [isNothing]
  simp only [choice_eq_ok_iff, nothing_iff, exists_eq_right, NamesChoice]

/-- A member decodes, be it an object or an array of its fields, where its parts are as needed;
its type is one exactly if the rules for descriptors say so.
-/
theorem member_iff {value : Value} {found : MemberDescriptor}
    : member value = .ok found
      ↔ ∃ layout, layout? 6 value = some layout ∧ DescribesMember layout found := by
  refine record_eq_ok_iff ?_
  intro source result
  simp only [Reading.seq_eq_ready_iff, Reading.map_eq_ready_iff, Source.required_eq_ready_iff,
    Source.optional_eq_ready_iff, text_eq_ok_iff, descriptor_iff, namesChoice_iff,
    flag_iff, ← given_iff]
  constructor
  · rintro ⟨_, isStatic, ⟨_, readable, ⟨_, visibility, ⟨_, mutability, ⟨_, type, ⟨name,
      ⟨_, named, rfl⟩, rfl⟩, typed, rfl⟩, mutabilityIs, rfl⟩, visibilityIs, rfl⟩,
      readableIs, rfl⟩, isStaticIs, rfl⟩
    exact ⟨named, typed, mutabilityIs, visibilityIs, readableIs, isStaticIs⟩
  · rintro ⟨named, typed, mutabilityIs, visibilityIs, readableIs, isStaticIs⟩
    exact ⟨_, _, ⟨_, _, ⟨_, _, ⟨_, _, ⟨_, _, ⟨_, ⟨_, named, rfl⟩, rfl⟩, typed, rfl⟩,
      mutabilityIs, rfl⟩, visibilityIs, rfl⟩, readableIs, rfl⟩, isStaticIs, rfl⟩

-----------------------------------------------------------------------------------------
-- Keys that do not count
-----------------------------------------------------------------------------------------

/-- The keys of every descriptor. -/
def ownKeys : List String :=
  ["name", "is_value_type", "nullable", "deep_cloneable", "shallow_cloneable", "record_like",
    "kind"]

/-- The keys that a kind needs beside them. -/
def kindKeys : TypeKind.Tag → List String
  | .array => ["rank", "element"]
  | .dictionary => ["variant", "key", "value"]
  | .collection => ["variant", "element"]
  | .scalar | .string | .userCloneable | .opaqueType => []

/-- The kind that the fields of a descriptor name, if they name one. -/
def namedTag? (fields : List (String × Value)) : Option TypeKind.Tag :=
  (Entries.get? "kind" fields).bind fun written => (tag .setAside written).toOption

/-- The keys that count in a descriptor with the given fields. -/
def countingKeys (fields : List (String × Value)) : List String :=
  ownKeys ++ ((namedTag? fields).map kindKeys).getD []

theorem namedTag?_eq_some {fields : List (String × Value)} {written : Value}
    {tag : TypeKind.Tag}
    (found : Entries.get? "kind" fields = some written)
    (tagged : Decoding.tag .setAside written = .ok tag)
    : namedTag? fields = some tag := by
  rw [namedTag?, found, Option.bind_some, tagged]
  rfl

/-- The fields of a descriptor without those that do not count. -/
def countingFields (fields : List (String × Value)) : List (String × Value) :=
  fields.filter fun field => (countingKeys fields).contains field.1

/-- Two objects have the same under every key that counts in the first. -/
structure AgreeWhereItCounts (fields others : List (String × Value)) : Prop where
  own : ∀ key ∈ ownKeys, Entries.get? key fields = Entries.get? key others
  ofKind : ∀ written tag, Entries.get? "kind" fields = some written → NamesTag written tag →
    ∀ key ∈ kindKeys tag, Entries.get? key fields = Entries.get? key others

theorem AgreeWhereItCounts.symm {fields others : List (String × Value)}
    (agree : AgreeWhereItCounts fields others)
    : AgreeWhereItCounts others fields where
  own := fun key own => (agree.own key own).symm
  ofKind := by
    intro written tag found tagged key needed
    have same := agree.own "kind" (by simp [ownKeys])
    exact (agree.ofKind written tag (same.trans found) tagged key needed).symm

theorem DescribesArgument.of_same {fields others : List (String × Value)} {key : String}
    {argument : Option TypeDescriptor} (is : DescribesArgument fields key argument)
    (same : Entries.get? key fields = Entries.get? key others)
    : DescribesArgument others key argument := by
  cases is with
  | missing absent => exact .missing (same ▸ absent)
  | null found => exact .null (same ▸ found)
  | written found described => exact .written (same ▸ found) described

/-- A kind is described by the keys that it needs, by cases on the kind. -/
theorem DescribesKind.of_same {fields others : List (String × Value)} {tag : TypeKind.Tag}
    {kind : TypeKind TypeDescriptor} (is : DescribesKind fields tag kind)
    (same : ∀ key ∈ kindKeys tag, Entries.get? key fields = Entries.get? key others)
    : DescribesKind others tag kind := by
  simp only [kindKeys] at same
  cases is with
  | scalar => exact .scalar others
  | string => exact .string others
  | array rankFound rankIs elementFound elementIs =>
      have sameRank := same "rank" (by simp)
      have sameElement := same "element" (by simp)
      exact .array (sameRank ▸ rankFound) rankIs (sameElement ▸ elementFound) elementIs
  | dictionary variantFound variantIs keyIs valueIs =>
      have sameVariant := same "variant" (by simp)
      exact .dictionary (sameVariant ▸ variantFound) variantIs
        (keyIs.of_same (same "key" (by simp))) (valueIs.of_same (same "value" (by simp)))
  | collection variantFound variantIs elementIs =>
      have sameVariant := same "variant" (by simp)
      exact .collection (sameVariant ▸ variantFound) variantIs
        (elementIs.of_same (same "element" (by simp)))
  | userCloneable => exact .userCloneable others
  | opaqueType => exact .opaqueType others

theorem Describes.of_agree {fields others : List (String × Value)} {type : TypeDescriptor}
    (described : Describes (.object fields) type) (agree : AgreeWhereItCounts fields others)
    : Describes (.object others) type := by
  have flag {key : String} {flag : Bool} (own : key ∈ ownKeys) (is : FlagIs fields key flag)
      : FlagIs others key flag := by
    rw [FlagIs, ← agree.own key own]
    exact is
  cases described with
  | object named isValueType nullable deep shallow recordLike found tagged kindIs =>
      have sameName := agree.own "name" (by simp [ownKeys])
      have sameKind := agree.own "kind" (by simp [ownKeys])
      exact .object (sameName ▸ named) (flag (by simp [ownKeys]) isValueType)
        (flag (by simp [ownKeys]) nullable) (flag (by simp [ownKeys]) deep)
        (flag (by simp [ownKeys]) shallow) (flag (by simp [ownKeys]) recordLike)
        (sameKind ▸ found) tagged (kindIs.of_same (agree.ofKind _ _ found tagged))

theorem agree_countingFields (fields : List (String × Value))
    : AgreeWhereItCounts fields (countingFields fields) where
  own := by
    intro key own
    have counts : key ∈ countingKeys fields := List.mem_append_left _ own
    exact (Entries.get?_filter_key (by simpa using counts) fields).symm
  ofKind := by
    intro written tag found tagged key needed
    have named := namedTag?_eq_some found (namesTag_iff.mpr tagged)
    have counts : key ∈ countingKeys fields := by
      rw [countingKeys, named]
      exact List.mem_append_right _ needed
    exact (Entries.get?_filter_key (by simpa using counts) fields).symm

-----------------------------------------------------------------------------------------
-- What is accepted
-----------------------------------------------------------------------------------------

/-- Values decode to types exactly as the rules describe them, by themselves and as the types of
members; and leaving out all the fields that do not count in a descriptor changes nothing.
-/
theorem descriptor_accepts_iff (value : Value) (fields : List (String × Value))
    (type : TypeDescriptor) (found : MemberDescriptor)
    : (descriptor value = .ok type ↔ Describes value type)
      ∧ (member value = .ok found
        ↔ ∃ layout, layout? 6 value = some layout ∧ DescribesMember layout found)
      ∧ (descriptor (.object fields) = .ok type
        ↔ descriptor (.object (countingFields fields)) = .ok type) := by
  refine ⟨descriptor_iff value type, member_iff, ?_⟩
  have agree := agree_countingFields fields
  rw [descriptor_iff, descriptor_iff]
  constructor
  · intro described
    exact described.of_agree agree
  · intro described
    exact described.of_agree agree.symm

end ClonePlanner.Decoding
