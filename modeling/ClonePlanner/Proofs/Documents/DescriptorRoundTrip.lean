import ClonePlanner.Proofs.Documents.WrittenParts

/-! A written type descriptor decodes to itself at every depth. The six own fields and the
kind's fields stand in one object; no key is used twice, so each is found where it was put,
and null stands for an absent argument only, since a written descriptor is an object.
-/

namespace ClonePlanner.Decoding

open ClonePlanner.Json (Value)

/-- The written fields of a descriptor. -/
def written (type : TypeDescriptor) : List (String × Value) :=
  [
    ("name", .string type.name),
    ("is_value_type", .bool type.isValueType),
    ("nullable", .bool type.nullable),
    ("deep_cloneable", .bool type.deepCloneable),
    ("shallow_cloneable", .bool type.shallowCloneable),
    ("record_like", .bool type.recordLike),
    ("kind", Encoding.name type.kind.tag)] ++ Encoding.kindFields type.kind

theorem descriptor_written (type : TypeDescriptor)
    : Encoding.descriptor type = .object (written type) := by
  obtain ⟨_, _, _, _, _, _, kind⟩ := type
  rw [Encoding.descriptor, written]

/-- No key of a kind is one of the own keys, and no key is used twice. -/
theorem keys_written_nodup (type : TypeDescriptor) : (Entries.keys (written type)).Nodup := by
  cases kind : type.kind <;> simp [written, kind, Encoding.kindFields]

/-- The fields of the kind are among the written ones. -/
theorem mem_written {type : TypeDescriptor} {field : String × Value}
    (mem : field ∈ Encoding.kindFields type.kind)
    : field ∈ written type :=
  List.mem_append_right _ mem

/-- A written field is found under its key, with what it is as a type. -/
theorem get?_parts_written {type : TypeDescriptor} {key : String} {value : Value}
    (mem : (key, value) ∈ written type)
    : Entries.get? key (parts (written type)) = some ⟨value, descriptor value⟩ := by
  rw [get?_parts, Entries.get?_of_mem (keys_written_nodup type) mem, Option.map_some]

/-- The parts of a written descriptor, as its fields are read from them. -/
def writtenSource (type : TypeDescriptor) : Source Part :=
  ⟨.keyed (parts (written type)), ""⟩

section Fields

variable {α : Type} {type : TypeDescriptor} {key : String} {value : Value} {result : α}
  {decode : Part → Decoded α} (position : Nat)

/-- A written field is read if its value decodes. -/
theorem required_written (mem : (key, value) ∈ written type)
    (decoded : decode ⟨value, descriptor value⟩ = .ok result)
    : (writtenSource type).required position key decode = .ready result :=
  Source.required_keyed (get?_parts_written mem) decoded "" position

/-- A written field is read if its value decodes, whatever its default is. -/
theorem optional_written (default : α) (mem : (key, value) ∈ written type)
    (decoded : decode ⟨value, descriptor value⟩ = .ok result)
    : (writtenSource type).optional position key default decode = .ready result :=
  Source.optional_keyed (get?_parts_written mem) decoded "" position default

end Fields

/-- The own fields are read as written, whatever the kind is. -/
theorem ownFields_written (type : TypeDescriptor)
    : ownFields (writtenSource type)
      = .ready
          (TypeDescriptor.mk type.name type.isValueType type.nullable type.deepCloneable
            type.shallowCloneable type.recordLike) := by
  have name : (writtenSource type).required 0 "name" (text ·.value) = .ready type.name :=
    required_written 0 (by simp [written]) (text_string type.name)
  have flags (position : Nat) (key : String) (value : Bool)
      (mem : (key, .bool value) ∈ written type)
      : ownFlag (writtenSource type) position key = .ready value :=
    optional_written position false mem (flag_bool value)
  rw [ownFields, name,
    flags 1 "is_value_type" type.isValueType (by simp [written]),
    flags 2 "nullable" type.nullable (by simp [written]),
    flags 3 "deep_cloneable" type.deepCloneable (by simp [written]),
    flags 4 "shallow_cloneable" type.shallowCloneable (by simp [written]),
    flags 5 "record_like" type.recordLike (by simp [written])]
  rfl

/-- A written argument is read as the argument it was: null stands for none only, since a
written descriptor is an object.
-/
theorem type?_argument {argument : Option TypeDescriptor}
    (inverse : ∀ type ∈ argument, descriptor (Encoding.descriptor type) = .ok type)
    : Part.type? ⟨Encoding.argument argument, descriptor (Encoding.argument argument)⟩
      = .ok argument := by
  cases argument with
  | none => rfl
  | some type =>
      have decoded := inverse type rfl
      simp only [Encoding.argument, descriptor_written] at decoded ⊢
      simp only [Part.type?, decoded, Except.map]

theorem variant_written {α : Type} [Named α] (type : TypeDescriptor) (variant : α)
    (mem : ("variant", Encoding.name variant) ∈ Encoding.kindFields type.kind)
    : (writtenSource type).required 0 "variant" (choice .setAside ·.value) = .ready variant :=
  required_written 0 (mem_written mem) (choice_name .setAside variant)

theorem argument_written {type : TypeDescriptor} {key : String}
    {argument : Option TypeDescriptor} (position : Nat)
    (mem : (key, Encoding.argument argument) ∈ Encoding.kindFields type.kind)
    (inverse : ∀ part ∈ argument, descriptor (Encoding.descriptor part) = .ok part)
    : (writtenSource type).optional position key none Part.type? = .ready argument :=
  optional_written position none (mem_written mem) (type?_argument inverse)

/-- A type is a part of a kind: the element of an array, or an argument of a container. -/
inductive PartOf (part : TypeDescriptor) : TypeKind TypeDescriptor → Prop where
  | arrayElement (rank : UInt32) : PartOf part (.array rank part)
  | dictionaryKey (variant : DictionaryVariant) (value : Option TypeDescriptor)
    : PartOf part (.dictionary variant (some part) value)
  | dictionaryValue (variant : DictionaryVariant) (key : Option TypeDescriptor)
    : PartOf part (.dictionary variant key (some part))
  | collectionElement (variant : CollectionVariant) : PartOf part (.collection variant (some part))

/-- The fields of a kind are read as written if the descriptors in it are. -/
theorem kindFields_written {type : TypeDescriptor}
    (inverse : ∀ part, PartOf part type.kind → descriptor (Encoding.descriptor part) = .ok part)
    : kindFields (writtenSource type) type.kind.tag = .ready type.kind := by
  cases kind : type.kind with
  | scalar => rfl
  | string => rfl
  | array rank element =>
      have rankWritten : ("rank", Encoding.word32 rank) ∈ written type :=
        mem_written (by simp [kind, Encoding.kindFields])
      have rankRead : (writtenSource type).required 0 "rank" (word32 ·.value) = .ready rank :=
        required_written 0 rankWritten (word32_word32 rank)
      have elementRead : (writtenSource type).required 1 "element" Part.type = .ready element :=
        required_written 1 (mem_written (by simp [kind, Encoding.kindFields]))
          (inverse element (by rw [kind]; exact .arrayElement rank))
      rw [TypeKind.tag, kindFields, rankRead, elementRead]
      rfl
  | dictionary variant key value =>
      have variantRead := variant_written type variant (by simp [kind, Encoding.kindFields])
      have keyRead : (writtenSource type).optional 1 "key" none Part.type? = .ready key :=
        argument_written 1 (by simp [kind, Encoding.kindFields]) fun part mem =>
          inverse part (by rw [kind, mem]; exact .dictionaryKey variant value)
      have valueRead : (writtenSource type).optional 2 "value" none Part.type? = .ready value :=
        argument_written 2 (by simp [kind, Encoding.kindFields]) fun part mem =>
          inverse part (by rw [kind, mem]; exact .dictionaryValue variant key)
      rw [TypeKind.tag, kindFields, variantRead, keyRead, valueRead]
      rfl
  | collection variant element =>
      have variantRead := variant_written type variant (by simp [kind, Encoding.kindFields])
      have elementRead
          : (writtenSource type).optional 1 "element" none Part.type? = .ready element :=
        argument_written 1 (by simp [kind, Encoding.kindFields]) fun part mem =>
          inverse part (by rw [kind, mem]; exact .collectionElement variant)
      rw [TypeKind.tag, kindFields, variantRead, elementRead]
      rfl
  | userCloneable => rfl
  | opaqueType => rfl

/-- The kind is read as written if the descriptors in it are. -/
theorem kind_written {type : TypeDescriptor}
    (inverse : ∀ part, PartOf part type.kind → descriptor (Encoding.descriptor part) = .ok part)
    : kind (parts (written type)) = .ok type.kind := by
  have found : Entries.get? "kind" (parts (written type))
      = some ⟨Encoding.name type.kind.tag, descriptor (Encoding.name type.kind.tag)⟩ :=
    get?_parts_written (by simp [written])
  have fields := kindFields_written inverse
  rw [writtenSource] at fields
  simp only [kind, found, tag_name, Decoded.atRoot_ok, fields, Reading.settle_ready]

/-- A descriptor is read as written if the descriptors in its kind are. -/
theorem descriptor_of_parts {type : TypeDescriptor}
    (inverse : ∀ part, PartOf part type.kind → descriptor (Encoding.descriptor part) = .ok part)
    : descriptor (Encoding.descriptor type) = .ok type := by
  have own : (ownFields ⟨.keyed (parts (written type)), ""⟩).settle = .ok _ :=
    congrArg Reading.settle (ownFields_written type)
  have kindRead := kind_written inverse
  rw [descriptor_written, descriptor_object, assemble, own, Except.bind, kindRead, Except.map]
  -- a descriptor holds descriptors, so it is not its fields by definition
  cases type
  rfl

theorem PartOf.sizeOf_lt {part : TypeDescriptor} {kind : TypeKind TypeDescriptor}
    (h : PartOf part kind)
    : sizeOf part < sizeOf kind := by
  cases h <;> simp <;> omega

theorem sizeOf_kind_lt (type : TypeDescriptor) : sizeOf type.kind < sizeOf type := by
  cases type
  simp

/-- A written descriptor decodes to itself, by induction over its depth. -/
theorem descriptor_encoding (type : TypeDescriptor)
    : descriptor (Encoding.descriptor type) = .ok type := by
  refine descriptor_of_parts fun part partOf => ?_
  have smaller : sizeOf part < sizeOf type :=
    Nat.lt_trans partOf.sizeOf_lt (sizeOf_kind_lt type)
  exact descriptor_encoding part
termination_by sizeOf type

end ClonePlanner.Decoding
