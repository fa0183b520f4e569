import ClonePlanner.Decoding.Scalar

/-!
Decoding records from objects and from arrays. A record is described once, by its fields in
order; in an object a field is found by its key and in an array by its position. Fields are
decoded in the order in which they are written, so the earliest problem is the outcome; fields
that are missing come after that, in the order of the record.
-/

namespace ClonePlanner.Decoding

open ClonePlanner.Json (Value)

variable {α β γ : Type}

/-- What has come of decoding some fields of a record. -/
inductive Reading (α : Type) where
  | ready (value : α)
  /-- A field that is needed is not there. -/
  | missing (cause : Cause)
  /-- The field written at a place has a problem. -/
  | fault (place : Nat) (problem : Problem)
deriving Repr

namespace Reading

/-- Two readings together: the earlier problem, else what is missing first. -/
def both : Reading α → Reading β → Reading (α × β)
  -- fields are decoded as they are written, so the place decides and not the order of the record
  | .fault place problem, .fault place' problem' =>
    if place' < place then .fault place' problem' else .fault place problem
  | .fault place problem, _ => .fault place problem
  | _, .fault place problem => .fault place problem
  | .missing cause, _ => .missing cause
  | _, .missing cause => .missing cause
  | .ready first, .ready second => .ready (first, second)

def map (f : α → β) : Reading α → Reading β
  | .ready value => .ready (f value)
  | .missing cause => .missing cause
  | .fault place problem => .fault place problem

instance : Applicative Reading where
  pure := .ready
  map := map
  seq f x := (both f (x ())).map fun (f, value) => f value

def settle : Reading α → Decoded α
  | .ready value => .ok value
  | .missing cause => .error (.here cause)
  | .fault _ problem => .error problem

@[simp]
theorem map_ready (f : α → β) (value : α) : f <$> ready value = ready (f value) := rfl

@[simp]
theorem seq_ready (f : α → β) (value : α) : ready f <*> ready value = ready (f value) := rfl

@[simp]
theorem settle_ready (value : α) : settle (ready value) = .ok value := rfl

end Reading

/-- The parts of a record as they are written. -/
inductive Layout (α : Type) where
  | keyed (fields : List (String × α))
  | positional (items : List α)

/-- A record to decode: its parts, and what a complete one would be. -/
structure Source (α : Type) where
  layout : Layout α
  /-- What is expected when positional parts run out. -/
  complete : String

namespace Source

/-- The first part with a key, with its place. -/
def locate (name : String) : Nat → List (String × α) → Option (Nat × α)
  | _, [] => none
  | place, (key, part) :: rest =>
    if key = name then some (place, part) else locate name (place + 1) rest

/-- The part that stands for a field, with its place and the step to it. -/
def part? (source : Source α) (position : Nat) (name : String) : Option (Nat × Step × α) :=
  match source.layout with
  | .keyed fields => (locate name 0 fields).map fun (place, part) => (place, .key name, part)
  | .positional items => (items[position]?).map fun part => (position, .index position, part)

/-- What to say of a field that is needed and not there. -/
def absence (source : Source α) (name : String) : Cause :=
  match source.layout with
  | .keyed _ => .missingField name
  | .positional items => .wrongLength items.length source.complete

/-- A field of the record, with the reading of a missing one. -/
def field (source : Source α) (position : Nat) (name : String) (absent : Reading β)
    (decode : α → Decoded β) : Reading β :=
  match source.part? position name with
  | none => absent
  | some (place, step, part) =>
    match (decode part).under step with
    | .ok value => .ready value
    | .error problem => .fault place problem

/-- A field that must be there. -/
def required (source : Source α) (position : Nat) (name : String) (decode : α → Decoded β)
    : Reading β :=
  source.field position name (.missing (source.absence name)) decode

/-- A field with a value of its own for when it is missing. -/
def optional (source : Source α) (position : Nat) (name : String) (default : β)
    (decode : α → Decoded β) : Reading β :=
  source.field position name (.ready default) decode

/-- A key is located wherever looking it up finds a part, by induction over the fields. -/
theorem locate_of_get? {name : String} {fields : List (String × α)} {part : α}
    (found : Entries.get? name fields = some part) (place : Nat)
    : ∃ position, locate name place fields = some (position, part) := by
  induction fields generalizing place with
  | nil => simp [Entries.get?] at found
  | cons field rest ih =>
    obtain ⟨key, first⟩ := field
    by_cases same : key = name
    · simp only [Entries.get?, same, if_true, Option.some.injEq] at found
      exact ⟨place, by simp [locate, same, found]⟩
    · simp only [Entries.get?, same, if_false] at found
      obtain ⟨position, located⟩ := ih found (place + 1)
      exact ⟨position, by simp [locate, same, located]⟩

/-- A field under its key is read if its part decodes, wherever it stands in the object. -/
theorem field_keyed {fields : List (String × α)} {name : String} {part : α} {value : β}
    {decode : α → Decoded β} (found : Entries.get? name fields = some part)
    (decoded : decode part = .ok value) (complete : String) (position : Nat)
    (absent : Reading β)
    : (⟨.keyed fields, complete⟩ : Source α).field position name absent decode
      = .ready value := by
  obtain ⟨place, located⟩ := locate_of_get? found 0
  simp [field, part?, located, decoded]

/-- A needed field under its key is read if its part decodes. -/
theorem required_keyed {fields : List (String × α)} {name : String} {part : α} {value : β}
    {decode : α → Decoded β} (found : Entries.get? name fields = some part)
    (decoded : decode part = .ok value) (complete : String) (position : Nat)
    : (⟨.keyed fields, complete⟩ : Source α).required position name decode = .ready value :=
  field_keyed found decoded complete position _

/-- A field under its key is read if its part decodes, whatever its default is. -/
theorem optional_keyed {fields : List (String × α)} {name : String} {part : α} {value : β}
    {decode : α → Decoded β} (found : Entries.get? name fields = some part)
    (decoded : decode part = .ok value) (complete : String) (position : Nat) (default : β)
    : (⟨.keyed fields, complete⟩ : Source α).optional position name default decode
      = .ready value :=
  field_keyed found decoded complete position _

end Source

def elements (count : Nat) : String :=
  if count = 1 then "1 element" else s!"{count} elements"

/-- What to say of too many positional parts. -/
def surplus (setting : Setting) (count length : Nat) : Cause :=
  .wrongLength length (match setting with
    | .direct => "fewer elements in array"
    | .setAside => elements count ++ " in sequence")

/-- A record of positional parts, of which there are at most `count`. -/
def positional (setting : Setting) (complete : String) (count : Nat) (values : List Value)
    (read : Source Value → Reading α) : Decoded α :=
  match (read ⟨.positional values, complete⟩).settle with
  | .error problem => .error problem
  | .ok value =>
    if count < values.length then .error (.here (surplus setting count values.length))
    else .ok value

/-- A record with a title and a number of fields. -/
def record (setting : Setting) (title : String) (count : Nat)
    (read : Source Value → Reading α) : Value → Decoded α
  | .object fields => (read ⟨.keyed fields, title⟩).settle
  | .array values => positional setting (title ++ " with " ++ elements count) count values read
  | value => wrongType value title

/-- The form of a value that one of its tags selects: a title for messages, the number of
fields, and how the fields are read. The fields were set aside while the tag was looked for,
so their problems are put down to the value itself.
-/
structure Form (α : Type) where
  title : String
  count : Nat
  read : Source Value → Reading α

namespace Form

def unit (value : α) : Form α :=
  ⟨"", 0, fun _ => .ready value⟩

/-- The value of this form with the given parts. -/
def decode (form : Form α) : Layout Value → Decoded α
  | .keyed fields => (form.read ⟨.keyed fields, form.title⟩).settle.atRoot
  | .positional values =>
    (positional .setAside (form.title ++ " with " ++ elements form.count) form.count values
      form.read).atRoot

end Form

/-- A value with several forms. The tag stands under its own key, or first in an array whose
other items are the fields.
-/
def tagged [Named γ] (setting : Setting) (title tagKey : String) (form : γ → Form α)
    : Value → Decoded α
  | .object fields =>
    match Entries.get? tagKey fields with
    | none => .error (.here (.missingField tagKey))
    | some written =>
      match (tag setting written).under (.key tagKey) with
      | .error problem => .error problem
      | .ok tag => (form tag).decode (.keyed fields)
  | .array [] => .error (.here (.missingField tagKey))
  | .array (written :: rest) =>
    match (tag setting written).under (.index 0) with
    | .error problem => .error problem
    | .ok tag => (form tag).decode (.positional rest)
  | value => wrongType value ("internally tagged enum " ++ title)

end ClonePlanner.Decoding
