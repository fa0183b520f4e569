import ClonePlanner.Decoding.Declaration
import ClonePlanner.Encoding.Plan
import ClonePlanner.Proofs.Documents.Agreement

/-! A record may be written as an array of its fields in their order. The array is read as the
object that has the same values under the names of the fields, also if it stops before fields
that may be missing; an array with more values than there are fields is never read.
-/

namespace ClonePlanner

namespace Entries

variable {α : Type} {names : List String}

theorem keys_zip_sublist (names : List String) (values : List α)
    : (keys (names.zip values)).Sublist names := by
  induction names generalizing values with
  | nil => exact .slnil
  | cons first rest ih =>
      cases values with
      | nil => exact List.nil_sublist _
      | cons value more => exact (ih more).cons_cons first

/-- Values written under distinct names are found under their names as by their positions. -/
theorem get?_zip (distinct : names.Nodup) (values : List α) {position : Nat} {name : String}
    (listed : names[position]? = some name)
    : get? name (names.zip values) = values[position]? := by
  induction names generalizing values position with
  | nil => cases listed
  | cons first rest ih =>
      obtain ⟨fresh, others⟩ := List.nodup_cons.mp distinct
      cases values with
      | nil => rfl
      | cons value more =>
          cases position with
          | zero =>
              obtain rfl : first = name := Option.some.inj listed
              simp [get?]
          | succ position =>
              have listed : rest[position]? = some name := listed
              have differs : first ≠ name := by
                rintro rfl
                exact fresh (List.mem_of_getElem? listed)
              simpa [get?, differs] using ih others more listed

/-- Entries that are values under distinct names, in any order, have what the values in the order
of the names have.
-/
theorem get?_of_perm_zip (distinct : names.Nodup) {values : List α} {entries : Entries α}
    (order : entries.Perm (names.zip values)) (name : String)
    : get? name entries = get? name (names.zip values) :=
  (get?_of_perm order.symm ((keys_zip_sublist names values).nodup distinct)).symm

end Entries

namespace Decoding

open ClonePlanner.Json (Value)

variable {α β γ : Type}

-----------------------------------------------------------------------------------------
-- Layouts with the same parts
-----------------------------------------------------------------------------------------

/-- Two layouts have the same part, or none, for each of the fields. -/
def SameParts (names : List String) (layout other : Layout α) : Prop :=
  ∀ position name, names[position]? = some name →
    layout.part? position name = other.part? position name

/-- Values in the order of the fields, and the same ones under their names, in whatever order
and among whatever else they are written.
-/
theorem sameParts_positional {names : List String} (distinct : names.Nodup) {values : List α}
    {fields : List (String × α)}
    (written : ∀ name ∈ names, Entries.get? name fields = Entries.get? name (names.zip values))
    : SameParts names (.positional values) (.keyed fields) := by
  intro position name listed
  have found := written name (List.mem_of_getElem? listed)
  rw [Entries.get?_zip distinct values listed] at found
  exact found.symm

section Fields

variable {names : List String} {source other : Source α} {position : Nat} {name : String}
  {decode : α → Decoded β} (same : SameParts names source.layout other.layout)
  (listed : names[position]? = some name)
include same listed

theorem SameParts.required
    : (source.required position name decode).Agree (other.required position name decode) := by
  intro value
  rw [Source.required_eq_ready_iff, Source.required_eq_ready_iff, same position name listed]

theorem SameParts.optional {default : β}
    : (source.optional position name default decode).Agree
        (other.optional position name default decode) := by
  intro value
  rw [Source.optional_eq_ready_iff, Source.optional_eq_ready_iff, same position name listed]

end Fields

/-- The fields are read from the parts that stand for them, and from nothing else. -/
def ReadsParts (names : List String) (read : Source Value → Reading α) : Prop :=
  ∀ source other : Source Value, SameParts names source.layout other.layout →
    (read source).Agree (read other)

-----------------------------------------------------------------------------------------
-- Arrays and objects
-----------------------------------------------------------------------------------------

/-- The array of the values is read as the object with the values under the first of the names,
in any order, and is not read if there are more values than names.
-/
structure ArrayForm (names : List String) (decode : Value → Decoded α) (values : List Value)
    : Prop where
  agree : values.length ≤ names.length → ∀ fields, fields.Perm (names.zip values) →
    (decode (.array values)).Agree (decode (.object fields))
  surplus : names.length < values.length → ∀ result, decode (.array values) ≠ .ok result

theorem positional_agree {setting : Setting} {complete title : String} {names : List String}
    {read : Source Value → Reading α} (reads : ReadsParts names read) {values : List Value}
    (few : values.length ≤ names.length) {fields : List (String × Value)}
    (same : SameParts names (.positional values) (.keyed fields))
    : (positional setting complete names.length values read).Agree
        (read ⟨.keyed fields, title⟩).settle := by
  intro result
  rw [positional_eq_ok_iff, Reading.settle_eq_ok_iff,
    reads ⟨.positional values, complete⟩ ⟨.keyed fields, title⟩ same result]
  exact and_iff_right few

theorem positional_surplus {setting : Setting} {complete : String} {count : Nat}
    {read : Source Value → Reading α} {values : List Value} (more : count < values.length)
    (result : α)
    : positional setting complete count values read ≠ .ok result := by
  rw [Ne, positional_eq_ok_iff]
  exact fun read => absurd read.1 (Nat.not_le_of_lt more)

/-- A record is read alike from an array and from an object. Keys in another order do not matter,
since the names of the fields are distinct.
-/
theorem record_arrayForm {setting : Setting} {title : String} {names : List String}
    {read : Source Value → Reading α} (distinct : names.Nodup) (reads : ReadsParts names read)
    (values : List Value)
    : ArrayForm names (record setting title names.length read) values where
  agree few _ order :=
    positional_agree reads few (sameParts_positional distinct fun name _ =>
      Entries.get?_of_perm_zip distinct order name)
  surplus := positional_surplus

/-- A value with several forms is read alike from an array that begins with its tag and from an
object that has the tag under its key.
-/
theorem tagged_arrayForm [Named γ] {setting : Setting} {title tagKey : String}
    {form : γ → Form α} {tag : γ} {names : List String} (count : (form tag).count = names.length)
    (distinct : (tagKey :: names).Nodup) (reads : ReadsParts names (form tag).read)
    {written : Value} (selects : Decoding.tag setting written = .ok tag) (values : List Value)
    : ArrayForm (tagKey :: names) (tagged setting title tagKey form) (written :: values) := by
  have opened : tagged setting title tagKey form (.array (written :: values))
      = (form tag).decode (.positional values) := by
    simp only [tagged, selects, Decoded.under_ok]
  refine ⟨fun few fields order => ?_, fun more result => ?_⟩
  · have found := Entries.get?_of_perm_zip distinct order
    have tagFound : Entries.get? tagKey fields = some written := by
      rw [found tagKey]
      simp [Entries.get?]
    have openedObject : tagged setting title tagKey form (.object fields)
        = (form tag).decode (.keyed fields) := by
      simp only [tagged, tagFound, selects, Decoded.under_ok]
    have parts : SameParts names (.positional values) (.keyed fields) := by
      obtain ⟨fresh, others⟩ := List.nodup_cons.mp distinct
      refine sameParts_positional others fun name listed => ?_
      have differs : tagKey ≠ name := fun same => fresh (same ▸ listed)
      rw [found name]
      simp [Entries.get?, differs]
    rw [opened, openedObject, Form.decode, Form.decode, count]
    intro result
    rw [Decoded.atRoot_eq_ok_iff, Decoded.atRoot_eq_ok_iff]
    exact positional_agree reads (Nat.le_of_succ_le_succ few) parts result
  · rw [opened, Form.decode, count, Ne, Decoded.atRoot_eq_ok_iff]
    exact positional_surplus (Nat.lt_of_succ_lt_succ more) result

end Decoding

-----------------------------------------------------------------------------------------
-- Records and forms, by what reads and writes them
-----------------------------------------------------------------------------------------

/-- The fields of an action beside its kind, in their order. -/
def CloneAction.Tag.fieldNames : CloneAction.Tag → List String
  | .copyScalar | .recurseCloneable | .copyReference => []
  | .cloneArray => ["rank", "element"]
  | .cloneDictionary => ["variant", "value"]
  | .cloneCollection => ["variant", "element"]

/-- The fields of an outcome beside its status. -/
def PlanOutcome.Tag.fieldNames : PlanOutcome.Tag → List String
  | .planned => ["plan"]
  | .skipped => ["reason"]

namespace Decoding

open ClonePlanner.Json (Value)

variable {α : Type}

/-- The decoder and the encoder are those of a record with the given fields, in their order. -/
inductive RecordOf
    : {α : Type} → (Value → Decoded α) → (α → Value) → List String → Prop where
  | capabilities : RecordOf capabilities Encoding.capabilities ["deep", "shallow"]
  | member
    : RecordOf member Encoding.member
        ["name", "type", "mutability", "visibility", "readable", "is_static"]
  | ancestor : RecordOf ancestor Encoding.ancestor ["name", "members"]
  | declaration
    : RecordOf declaration Encoding.declaration
        ["name", "is_abstract", "record_like", "capabilities", "user_implemented", "members",
          "ancestors"]
  | entry (setting : Setting)
    : RecordOf (entry setting) Encoding.entry
        ["action", "null_guarded", "init_only", "declared_in"]
  | plan (setting : Setting)
    : RecordOf (plan setting) Encoding.plan ["type_name", "capability", "strategy", "members"]
  | planSet : RecordOf planSet Encoding.planSet ["name", "deep", "shallow"]
  | report : RecordOf report Encoding.report ["types"]

/-- What the encoder writes is an object with the given keys, in their order. -/
def WritesKeys (encode : α → Value) (value : α) (keys : List String) : Prop :=
  ∃ fields, encode value = .object fields ∧ Entries.keys fields = keys

theorem RecordOf.writesKeys {decode : Value → Decoded α} {encode : α → Value}
    {names : List String} (record : RecordOf decode encode names) (value : α)
    : WritesKeys encode value names := by
  cases record <;> exact ⟨_, rfl, rfl⟩

/-- Each record reads every field from its part alone, by cases on the record. -/
theorem RecordOf.arrayForm {decode : Value → Decoded α} {encode : α → Value}
    {names : List String} (record : RecordOf decode encode names) (values : List Value)
    : ArrayForm names decode values := by
  cases record with
  | capabilities =>
      refine record_arrayForm (by decide) (fun _ _ same => ?_) values
      exact .seq (.map (same.optional rfl) _) (same.optional rfl)
  | member =>
      refine record_arrayForm (by decide) (fun _ _ same => ?_) values
      exact .seq (.seq (.seq (.seq (.seq (.map (same.required rfl) _) (same.required rfl))
        (same.optional rfl)) (same.optional rfl)) (same.optional rfl)) (same.optional rfl)
  | ancestor =>
      refine record_arrayForm (by decide) (fun _ _ same => ?_) values
      exact .seq (.map (same.required rfl) _) (same.optional rfl)
  | declaration =>
      refine record_arrayForm (by decide) (fun _ _ same => ?_) values
      exact .seq (.seq (.seq (.seq (.seq (.seq (.map (same.required rfl) _) (same.optional rfl))
        (same.optional rfl)) (same.optional rfl)) (same.optional rfl)) (same.optional rfl))
        (same.optional rfl)
  | entry setting | plan setting =>
      refine record_arrayForm (by decide) (fun _ _ same => ?_) values
      exact .seq (.seq (.seq (.map (same.required rfl) _) (same.required rfl))
        (same.required rfl)) (same.required rfl)
  | planSet =>
      refine record_arrayForm (by decide) (fun _ _ same => ?_) values
      exact .seq (.seq (.map (same.required rfl) _) (same.required rfl)) (same.required rfl)
  | report =>
      refine record_arrayForm (by decide) (fun _ _ same => ?_) values
      exact .map (same.required rfl) _

theorem action_arrayForm {setting : Setting} {kind : CloneAction.Tag} {written : Value}
    (selects : tag setting written = .ok kind) (values : List Value)
    : ArrayForm ("kind" :: kind.fieldNames) (action setting) (written :: values) := by
  cases kind with
  | copyScalar | recurseCloneable | copyReference =>
      exact tagged_arrayForm rfl (by decide) (fun _ _ _ _ => .rfl) selects values
  | cloneArray | cloneDictionary | cloneCollection =>
      exact tagged_arrayForm rfl (by decide) (fun _ _ same =>
        .seq (.map (same.required rfl) _) (same.required rfl)) selects values

theorem outcome_arrayForm {status : PlanOutcome.Tag} {written : Value}
    (selects : tag .direct written = .ok status) (values : List Value)
    : ArrayForm ("status" :: status.fieldNames) outcome (written :: values) := by
  cases status <;>
    exact tagged_arrayForm rfl (by decide) (fun _ _ same => .map (same.required rfl) _) selects
      values

/-- Every record of a declaration or a report may be written as an array. Its fields are those
that the record is written with, in their order; the array is read exactly if the object with
the same values under the names of these fields is, with the same result, and it is not read if
there are more values than fields. The same holds of actions and of outcomes, whose arrays begin
with the tag, and no less of what is read only after its status is known.
-/
theorem array_read_as_object
    : (∀ {α : Type} {decode : Value → Decoded α} {encode : α → Value} {names : List String},
        RecordOf decode encode names →
          (∀ value, WritesKeys encode value names) ∧ ∀ values, ArrayForm names decode values)
      ∧ (∀ value, WritesKeys Encoding.action value ("kind" :: value.tag.fieldNames))
      ∧ (∀ setting (kind : CloneAction.Tag) written, tag setting written = .ok kind →
        ∀ values, ArrayForm ("kind" :: kind.fieldNames) (action setting) (written :: values))
      ∧ (∀ value, WritesKeys Encoding.outcome value ("status" :: value.tag.fieldNames))
      ∧ ∀ (status : PlanOutcome.Tag) written, tag .direct written = .ok status →
        ∀ values, ArrayForm ("status" :: status.fieldNames) outcome (written :: values) := by
  refine ⟨fun record => ⟨record.writesKeys, record.arrayForm⟩, ?_, ?_, ?_, ?_⟩
  · intro value
    exact ⟨_, rfl, by cases value <;> rfl⟩
  · intro setting kind written selects
    exact action_arrayForm selects
  · intro value
    exact ⟨_, rfl, by cases value <;> rfl⟩
  · intro status written selects
    exact outcome_arrayForm selects

/-- An entry of a plan, with its action and itself as arrays; it is set aside with the plan. -/
def terseEntry : List Value :=
  [
    .array [.string "clone_collection", .string "list", .object [("clone", .object [])]],
    .bool true,
    .bool false,
    .string "Inbox"
  ]

/-- The terse entry is read as the one with keys, and its action as one with keys. -/
theorem terseEntry_read_as_object
    : RecordOf (entry .setAside) Encoding.entry
        ["action", "null_guarded", "init_only", "declared_in"]
      ∧ entry .setAside (.array terseEntry)
        = .ok ⟨.cloneCollection .list .clone, true, false, "Inbox"⟩
      ∧ tag .setAside (.string "clone_collection") = .ok CloneAction.Tag.cloneCollection
      ∧ action .setAside (.array [.string "clone_collection", .string "list", .string "clone"])
        = .ok (.cloneCollection .list .clone)
      ∧ tag .direct (.string "skipped") = .ok PlanOutcome.Tag.skipped
      ∧ outcome (.array [.string "skipped", .string "abstract"]) = .ok (.skipped .abstract) := by
  obtain ⟨records, _, actions, _, outcomes⟩ := array_read_as_object
  refine ⟨.entry .setAside, ?_, rfl, ?_, rfl, ?_⟩
  · exact (((records (.entry .setAside)).2 terseEntry).agree (by decide) _ (.refl _) _).mpr rfl
  · exact ((actions .setAside .cloneCollection _ rfl _).agree (by decide) _ (.refl _) _).mpr rfl
  · exact ((outcomes .skipped _ rfl _).agree (by decide) _ (.refl _) _).mpr rfl

end Decoding

end ClonePlanner
