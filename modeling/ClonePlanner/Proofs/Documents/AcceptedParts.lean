import ClonePlanner.Decoding.Record
import Mathlib.Data.List.Forall2

/-! What the parts of a record have to be for it to decode. A field counts by its key alone,
wherever it stands among the others, and a record decodes where all of its fields are read.
-/

namespace ClonePlanner.Decoding

open ClonePlanner.Json (Value)

variable {α β γ : Type}

-----------------------------------------------------------------------------------------
-- Values without parts
-----------------------------------------------------------------------------------------

theorem text_eq_ok_iff {value : Value} {result : String}
    : text value = .ok result ↔ value = .string result := by
  cases value <;> simp [text, wrongType]

theorem flag_eq_ok_iff {value : Value} {result : Bool}
    : flag value = .ok result ↔ value = .bool result := by
  cases value <;> simp [flag, wrongType]

theorem word32_eq_ok_iff {value : Value} {result : UInt32}
    : word32 value = .ok result
      ↔ ∃ number : Int, value = .number (.integer number) ∧ 0 ≤ number ∧ number < 4294967296
          ∧ result = UInt32.ofNat number.toNat := by
  unfold word32
  split
  case h_1 number =>
    split
    case isTrue range =>
      simp only [Except.ok.injEq, Json.Tree.number.injEq, Json.Number.integer.injEq]
      constructor
      · rintro rfl
        exact ⟨number, rfl, range.1, range.2, rfl⟩
      · rintro ⟨_, rfl, _, _, rfl⟩
        rfl
    case isFalse outside =>
      refine iff_of_false (by simp) ?_
      rintro ⟨_, same, least, below, _⟩
      cases same
      exact outside ⟨least, below⟩
  case h_2 other =>
    refine iff_of_false (by simp [wrongType]) ?_
    rintro ⟨number, rfl, _⟩
    exact other number rfl

theorem choiceName_eq_ok_iff [Named α] {name : String} {result : α}
    : choiceName name = .ok result ↔ name = Named.name result := by
  unfold choiceName
  constructor
  · intro found
    split at found
    case h_1 value known =>
      cases found
      exact (Named.name_of_ofName? known).symm
    case h_2 => cases found
  · rintro rfl
    rw [Named.ofName?_name]

/-- A choice is its name, or an object with the name as its only key and nothing as its value. -/
theorem choice_eq_ok_iff [Named α] {setting : Setting} {value : Value} {result : α}
    : choice setting value = .ok result
      ↔ value = .string (Named.name result)
        ∨ ∃ inner, value = .object [(Named.name result, inner)]
            ∧ isNothing setting inner = true := by
  constructor
  · intro chosen
    unfold choice at chosen
    split at chosen
    case h_1 name => exact .inl (congrArg _ (choiceName_eq_ok_iff.mp chosen))
    case h_2 name inner =>
      split at chosen
      case h_1 => cases chosen
      case h_2 found known =>
        obtain rfl := choiceName_eq_ok_iff.mp known
        split at chosen
        case isTrue nothing =>
          cases chosen
          exact .inr ⟨inner, rfl, nothing⟩
        case isFalse => cases chosen
    case h_3 => cases chosen
    case h_4 => cases chosen
  · rintro (rfl | ⟨inner, rfl, nothing⟩)
    · simp only [choice, choiceName, Named.ofName?_name]
    · simp only [choice, choiceName, Named.ofName?_name, nothing, if_true]

theorem isNothing_setAside_iff {value : Value}
    : isNothing .setAside value = true ↔ value = .null ∨ value = .object [] := by
  unfold isNothing
  split <;> simp_all

/-- A tag that was set aside is its name, or the position of its name. -/
theorem tag_setAside_eq_ok_iff [Named α] {value : Value} {result : α}
    : tag .setAside value = .ok result
      ↔ value = .string (Named.name result)
        ∨ ∃ index : Nat, value = .number (.integer index)
            ∧ (Named.all : List α)[index]? = some result := by
  constructor
  · intro chosen
    unfold tag at chosen
    split at chosen
    case h_1 name => exact .inl (congrArg _ (choiceName_eq_ok_iff.mp chosen))
    case h_2 number =>
      split at chosen
      case isTrue range =>
        split at chosen
        case h_1 found listed =>
          cases chosen
          have position : (number.toNat : Int) = number := Int.toNat_of_nonneg range.2
          exact .inr ⟨number.toNat, by rw [position], listed⟩
        case h_2 => cases chosen
      case isFalse => cases chosen
    case h_3 => cases chosen
  · rintro (rfl | ⟨index, rfl, found⟩)
    · simp only [tag, choiceName, Named.ofName?_name]
    · simp [tag, found]

-----------------------------------------------------------------------------------------
-- Lists
-----------------------------------------------------------------------------------------

/-- Items decode where each of them does, by induction over them. -/
theorem items_eq_ok_iff {decode : Value → Decoded α} {index : Nat} {values : List Value}
    {found : List α}
    : items decode index values = .ok found
      ↔ List.Forall₂ (fun value result => decode value = .ok result) values found := by
  induction values generalizing index found with
  | nil => simp [items, eq_comm]
  | cons value rest ih =>
      rw [items, List.forall₂_cons_left_iff]
      cases decoded : decode value with
      | error problem => simp [Decoded.under]
      | ok first =>
          simp only [Decoded.under, ← @ih (index + 1)]
          cases items decode (index + 1) rest with
          | error problem => simp [Except.map]
          | ok others => simp [Except.map, eq_comm]

-----------------------------------------------------------------------------------------
-- Fields of records
-----------------------------------------------------------------------------------------

theorem Decoded.atRoot_eq_ok_iff {decoded : Decoded α} {value : α}
    : decoded.atRoot = .ok value ↔ decoded = .ok value := by
  cases decoded <;> simp [Decoded.atRoot]

namespace Reading

variable {reading : Reading α} {value : α}

theorem settle_eq_ok_iff : reading.settle = .ok value ↔ reading = .ready value := by
  cases reading <;> simp [settle]

theorem map_eq_ready_iff {f : α → β} {result : β}
    : f <$> reading = .ready result ↔ ∃ value, reading = .ready value ∧ result = f value := by
  cases reading with
  | ready found => simp [eq_comm]
  | missing cause => simp [Functor.map, map]
  | fault place problem => simp [Functor.map, map]

/-- Two readings are ready together where each of them is. -/
theorem seq_eq_ready_iff {function : Reading (α → β)} {result : β}
    : function <*> reading = .ready result
      ↔ ∃ f value, function = .ready f ∧ reading = .ready value ∧ result = f value := by
  cases function with
  | ready f =>
      cases reading with
      | ready found => simp [eq_comm]
      | missing cause => simp [Seq.seq, both, map]
      | fault place problem => simp [Seq.seq, both, map]
  | missing cause => cases reading <;> simp [Seq.seq, both, map]
  | fault place problem =>
      cases reading with
      | fault place' problem' =>
          by_cases earlier : place' < place <;> simp [Seq.seq, both, map, earlier]
      | ready found => simp [Seq.seq, both, map]
      | missing cause => simp [Seq.seq, both, map]

end Reading

/-- The part that stands for a field, by its key in an object and by its position in an array. -/
def Layout.part? (position : Nat) (name : String) : Layout α → Option α
  | .keyed fields => Entries.get? name fields
  | .positional items => items[position]?

namespace Source

theorem locate_of_get?_eq_none {name : String} {fields : List (String × α)}
    (absent : Entries.get? name fields = none) (place : Nat)
    : locate name place fields = none := by
  induction fields generalizing place with
  | nil => rfl
  | cons field rest ih =>
      obtain ⟨key, first⟩ := field
      by_cases same : key = name
      · simp [Entries.get?, same] at absent
      · simp only [Entries.get?, same, if_false] at absent
        simp only [locate, same, if_false, ih absent]

section Fields

variable {source : Source α} {name : String} {position : Nat} {part : α}
  {decode : α → Decoded β} {value : β}

theorem part?_of_some (found : source.layout.part? position name = some part)
    : ∃ place step, source.part? position name = some (place, step, part) := by
  obtain ⟨layout, _⟩ := source
  cases layout with
  | keyed fields =>
      obtain ⟨place, located⟩ := locate_of_get? found 0
      exact ⟨place, .key name, by simp [part?, located]⟩
  | positional items =>
      have listed : items[position]? = some part := found
      exact ⟨position, .index position, by simp [part?, listed]⟩

theorem part?_of_none (missing : source.layout.part? position name = none)
    : source.part? position name = none := by
  obtain ⟨layout, _⟩ := source
  cases layout with
  | keyed fields => simp [part?, locate_of_get?_eq_none missing]
  | positional items =>
      have short : items[position]? = none := missing
      simp only [part?, short, Option.map_none]

/-- A field is read from the part that stands for it, or as what stands for a missing one. -/
theorem field_eq_ready_iff {absent : Reading β}
    : source.field position name absent decode = .ready value
      ↔ (∃ part, source.layout.part? position name = some part ∧ decode part = .ok value)
        ∨ source.layout.part? position name = none ∧ absent = .ready value := by
  cases found : source.layout.part? position name with
  | none => simp [field, part?_of_none found]
  | some part =>
      obtain ⟨place, step, located⟩ := part?_of_some found
      cases decoded : decode part <;> simp [field, located, decoded, Decoded.under]

theorem required_eq_ready_iff
    : source.required position name decode = .ready value
      ↔ ∃ part, source.layout.part? position name = some part ∧ decode part = .ok value := by
  simp [required, field_eq_ready_iff]

theorem optional_eq_ready_iff {default : β}
    : source.optional position name default decode = .ready value
      ↔ (∃ part, source.layout.part? position name = some part ∧ decode part = .ok value)
        ∨ source.layout.part? position name = none ∧ value = default := by
  rw [optional, field_eq_ready_iff, Reading.ready.injEq, eq_comm (a := default)]

end Fields

end Source

-----------------------------------------------------------------------------------------
-- Records written as objects and as arrays
-----------------------------------------------------------------------------------------

/-- Positional parts have to be read and not to be too many. -/
theorem positional_eq_ok_iff {setting : Setting} {complete : String} {count : Nat}
    {values : List Value} {read : Source Value → Reading α} {result : α}
    : positional setting complete count values read = .ok result
      ↔ values.length ≤ count ∧ read ⟨.positional values, complete⟩ = .ready result := by
  unfold positional
  rw [← Reading.settle_eq_ok_iff]
  cases (read ⟨.positional values, complete⟩).settle with
  | error problem => simp
  | ok found =>
      by_cases long : count < values.length
      · simp [long, Nat.not_le_of_lt long]
      · simp [long, Nat.le_of_not_lt long]

/-- The parts of a record of at most `count` fields, if the value is one. -/
def layout? (count : Nat) : Value → Option (Layout Value)
  | .object fields => some (.keyed fields)
  | .array values => if values.length ≤ count then some (.positional values) else none
  | _ => none

/-- A record decodes where its parts are all read, in an object as in an array. -/
theorem record_eq_ok_iff {title : String} {count : Nat} {read : Source Value → Reading α}
    {reads : Layout Value → α → Prop}
    (read_iff : ∀ {source result}, read source = .ready result ↔ reads source.layout result)
    {value : Value} {result : α}
    : record .direct title count read value = .ok result
      ↔ ∃ layout, layout? count value = some layout ∧ reads layout result := by
  cases value with
  | object fields => simp [record, layout?, Reading.settle_eq_ok_iff, read_iff]
  | array values =>
      rw [record, positional_eq_ok_iff, read_iff, layout?]
      by_cases short : values.length ≤ count <;> simp [short]
  | null | bool _ | number _ | string _ => simp [record, layout?, wrongType]

end ClonePlanner.Decoding
