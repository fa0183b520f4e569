import ClonePlanner.Proofs.Documents.DescriptorGrammar
import ClonePlanner.Proofs.Documents.Roles

/-! Documents that are laid out differently. One is the other with the keys of its objects in
another order, and with further keys in the objects that are records.
-/

namespace ClonePlanner

namespace Entries

variable {α β : Type} {entries : Entries α} {kept added written : Entries β}

/-- What is found under a key stands in a relation if what is kept of the entries does, in
whatever order it is written among entries with other keys.
-/
theorem rel_get? {R : α → β → Prop} {key : String} (sameKeys : keys kept = keys entries)
    (each : ∀ value other, get? key entries = some value → get? key kept = some other →
      R value other)
    (own : key ∉ keys added) (order : written.Perm (kept ++ added))
    (unique : (keys written).Nodup)
    : Option.Rel R (get? key entries) (get? key written) := by
  rw [get?_of_perm order unique, get?_append_of_not_mem own]
  cases found : get? key entries with
  | none =>
      have absent : key ∉ keys kept := sameKeys ▸ get?_eq_none_iff.mp found
      rw [get?_eq_none_iff.mpr absent]
      exact .none
  | some value =>
      cases other : get? key kept with
      | none =>
          have absent : key ∉ keys entries := sameKeys ▸ get?_eq_none_iff.mp other
          cases found.symm.trans (get?_eq_none_iff.mpr absent)
      | some part => exact .some (each value part found other)

/-- Entries that correspond one by one have the same keys, and what is found under a key is what
corresponds. By induction over the pairs.
-/
theorem get?_of_aligned (R : String → α → β → Prop)
    (aligned : List.Forall₂ (fun entry other => entry.1 = other.1 ∧ R entry.1 entry.2 other.2)
      entries kept)
    : keys kept = keys entries
      ∧ ∀ key value other, get? key entries = some value → get? key kept = some other →
        R key value other := by
  induction aligned with
  | nil => simp [get?]
  | @cons entry other rest others pair _ ih =>
      obtain ⟨first, value⟩ := entry
      obtain ⟨_, other⟩ := other
      obtain ⟨rfl, related⟩ := pair
      refine ⟨congrArg (first :: ·) ih.1, ?_⟩
      intro key found foundOther
      by_cases same : first = key
      · subst same
        simp only [get?, if_true, Option.some.injEq]
        rintro rfl rfl
        exact related
      · simpa only [get?, same, if_false] using ih.2 key found foundOther

end Entries

namespace Decoding

open ClonePlanner.Json (Value)

/-- A record with the given fields has no use for the key. Other objects have no further keys. -/
def Role.Foreign (role : Role) (fields : List (String × Value)) (key : String) : Prop :=
  match role with
  | .declaration | .ancestor | .member | .capabilities => key ∉ Entries.keys role.fields
  | .descriptor => key ∉ countingKeys fields
  | .declarations | .ancestors | .members | .choice | .plain => False

instance (role : Role) (fields : List (String × Value)) (key : String)
    : Decidable (role.Foreign fields key) :=
  match role with
  | .declaration | .ancestor | .member | .capabilities =>
    inferInstanceAs (Decidable (key ∉ Entries.keys (Role.fields _)))
  | .descriptor => inferInstanceAs (Decidable (key ∉ countingKeys fields))
  | .declarations | .ancestors | .members | .choice | .plain => .isFalse id

/-- The second value is the first one laid out differently: at any depth the keys of objects
stand in another order, and objects that are records have further keys with any values.
-/
inductive Relaid : Role → Value → Value → Prop where
  | null (role : Role) : Relaid role .null .null
  | bool (role : Role) (value : Bool) : Relaid role (.bool value) (.bool value)
  | number (role : Role) (value : Json.Number) : Relaid role (.number value) (.number value)
  | string (role : Role) (value : String) : Relaid role (.string value) (.string value)
  | array {role : Role} {items others : List Value} (length : items.length = others.length)
      (each : ∀ index item other, items[index]? = some item → others[index]? = some other →
        Relaid (role.part (.index index)) item other)
    : Relaid role (.array items) (.array others)
  | object {role : Role} {fields kept added written : List (String × Value)}
      (keys : Entries.keys kept = Entries.keys fields)
      (each : ∀ key value other, Entries.get? key fields = some value →
        Entries.get? key kept = some other → Relaid (role.part (.key key)) value other)
      (foreign : ∀ key ∈ Entries.keys added, role.Foreign fields key)
      (order : written.Perm (kept ++ added)) (unique : (Entries.keys written).Nodup)
    : Relaid role (.object fields) (.object written)

/-- An object is laid out differently by fields that correspond one by one, written in any order
among foreign ones.
-/
theorem Relaid.ofAligned {role : Role} {fields written : List (String × Value)}
    (kept added : List (String × Value))
    (aligned : List.Forall₂ (fun field other =>
      field.1 = other.1 ∧ Relaid (role.part (.key field.1)) field.2 other.2) fields kept)
    (foreign : ∀ key ∈ Entries.keys added, role.Foreign fields key)
    (order : written.Perm (kept ++ added)) (unique : (Entries.keys written).Nodup)
    : Relaid role (.object fields) (.object written) := by
  obtain ⟨keys, each⟩ :=
    Entries.get?_of_aligned (fun key => Relaid (role.part (.key key))) aligned
  exact .object keys each foreign order unique

end Decoding

end ClonePlanner
