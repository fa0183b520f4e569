/-!
Keyed entries in written order. Writing a key again keeps its place and takes the new value,
so the order of first writing is the order of the entries.
-/

namespace ClonePlanner

/-- Keyed entries, in the order in which their keys were first written. -/
abbrev Entries (α : Type) := List (String × α)

namespace Entries

variable {α β : Type}

def keys (entries : Entries α) : List String :=
  entries.map (·.1)

def values (entries : Entries α) : List α :=
  entries.map (·.2)

/-- The entries after `key` is written with `value`: in its old place if the key is there,
and at the end if it is new.
-/
def put (key : String) (value : α) : Entries α → Entries α
  | [] => [(key, value)]
  | (k, v) :: rest => if k = key then (k, value) :: rest else (k, v) :: put key value rest

/-- The value of the first entry with this key. -/
def get? (key : String) : Entries α → Option α
  | [] => none
  | (k, v) :: rest => if k = key then some v else get? key rest

/-- The entries after all of `more` is written, in order. -/
def putAll (entries more : Entries α) : Entries α :=
  more.foldl (fun done entry => put entry.1 entry.2 done) entries

/-- The entries with a function applied to every value. -/
def mapValues (f : α → β) (entries : Entries α) : Entries β :=
  entries.map fun entry => (entry.1, f entry.2)

@[simp]
theorem keys_nil : keys ([] : Entries α) = [] := rfl

@[simp]
theorem keys_cons (entry : String × α) (rest : Entries α)
    : keys (entry :: rest) = entry.1 :: keys rest :=
  rfl

@[simp]
theorem keys_append (left right : Entries α) : keys (left ++ right) = keys left ++ keys right :=
  List.map_append

@[simp]
theorem keys_mapValues (f : α → β) (entries : Entries α)
    : keys (entries.mapValues f) = keys entries :=
  List.map_map

/-- Among distinct keys an entry is found by its key. -/
theorem get?_of_mem {key : String} {value : α} {entries : Entries α}
    (distinct : (keys entries).Nodup) (mem : (key, value) ∈ entries)
    : get? key entries = some value := by
  induction entries with
  | nil => simp at mem
  | cons entry rest ih =>
    obtain ⟨first, old⟩ := entry
    simp only [keys_cons, List.nodup_cons] at distinct
    rcases List.mem_cons.mp mem with same | later
    · obtain ⟨rfl, rfl⟩ := Prod.mk.inj same
      simp [get?]
    · have differs : first ≠ key := by
        rintro rfl
        exact distinct.1 (List.mem_map_of_mem later)
      simp [get?, differs, ih distinct.2 later]

theorem mem_of_get? {key : String} {value : α} {entries : Entries α}
    (found : get? key entries = some value)
    : (key, value) ∈ entries := by
  induction entries with
  | nil => cases found
  | cons entry rest ih =>
    obtain ⟨first, old⟩ := entry
    by_cases same : first = key
    · simp only [get?, same, if_true, Option.some.injEq] at found
      simp [same, found]
    · simp only [get?, same, if_false] at found
      exact List.mem_cons_of_mem _ (ih found)

/-- A key is not found exactly if it is not among the keys. -/
theorem get?_eq_none_iff {key : String} {entries : Entries α}
    : get? key entries = none ↔ key ∉ keys entries := by
  induction entries with
  | nil => simp [get?]
  | cons entry rest ih =>
      obtain ⟨first, value⟩ := entry
      by_cases same : first = key
      · simp [get?, same]
      · simp [get?, same, Ne.symm same, ih]

/-- Entries that stand behind others do not hide them. -/
theorem get?_append_of_not_mem {key : String} {more : Entries α} (other : key ∉ keys more)
    (entries : Entries α)
    : get? key (entries ++ more) = get? key entries := by
  induction entries with
  | nil => exact get?_eq_none_iff.mpr other
  | cons entry rest ih =>
      obtain ⟨first, value⟩ := entry
      by_cases same : first = key <;> simp [get?, same, ih]

/-- Among distinct keys the order of the entries does not matter. -/
theorem get?_of_perm {key : String} {entries others : Entries α} (order : entries.Perm others)
    (distinct : (keys entries).Nodup)
    : get? key entries = get? key others := by
  have otherDistinct : (keys others).Nodup := (order.map _).nodup_iff.mp distinct
  cases found : get? key entries with
  | none =>
      have absent : key ∉ keys others :=
        fun there => get?_eq_none_iff.mp found ((order.map _).mem_iff.mpr there)
      exact (get?_eq_none_iff.mpr absent).symm
  | some value => exact (get?_of_mem otherDistinct (order.mem_iff.mp (mem_of_get? found))).symm

theorem get?_mapValues (f : α → β) (key : String) (entries : Entries α)
    : get? key (entries.mapValues f) = (get? key entries).map f := by
  induction entries with
  | nil => rfl
  | cons entry rest ih =>
    obtain ⟨first, value⟩ := entry
    have more : get? key (rest.map fun entry => (entry.1, f entry.2)) = (get? key rest).map f := ih
    by_cases same : first = key <;> simp [mapValues, get?, same, more]

/-- An entry is still found when others are left out by their keys. -/
theorem get?_filter_key {key : String} {keep : String → Bool} (kept : keep key = true)
    (entries : Entries α)
    : get? key (entries.filter fun entry => keep entry.1) = get? key entries := by
  induction entries with
  | nil => rfl
  | cons entry rest ih =>
    obtain ⟨first, value⟩ := entry
    by_cases same : first = key
    · simp [get?, same, kept]
    · cases keep_first : keep first <;> simp [get?, same, keep_first, ih]

/-- Leaving entries out by their keys does not depend on their values. -/
theorem mapValues_filter_key (f : α → β) (keep : String → Bool) (entries : Entries α)
    : mapValues f (entries.filter fun entry => keep entry.1)
      = (mapValues f entries).filter fun entry => keep entry.1 := by
  simp only [mapValues, List.filter_map]
  rfl

/-- Writing a key adds it to the keys and removes none. -/
theorem mem_keys_put {key k : String} {value : α} {entries : Entries α}
    : k ∈ keys (put key value entries) ↔ k = key ∨ k ∈ keys entries := by
  induction entries with
  | nil => simp [put, keys]
  | cons entry rest ih =>
    obtain ⟨k', v'⟩ := entry
    by_cases h : k' = key
    · simp [put, keys, h]
    · simp only [put, h, if_false, keys, List.map_cons, List.mem_cons] at ih ⊢
      simp only [ih]
      constructor
      · rintro (h | h | h) <;> simp [h]
      · rintro (h | h | h) <;> simp [h]

/-- Writing a key keeps distinct keys distinct, by induction over the entries. -/
theorem nodup_keys_put (key : String) (value : α) {entries : Entries α}
    (h : (keys entries).Nodup)
    : (keys (put key value entries)).Nodup := by
  induction entries with
  | nil => simp [put, keys]
  | cons entry rest ih =>
    obtain ⟨k', v'⟩ := entry
    simp only [keys, List.map_cons, List.nodup_cons] at h
    by_cases hk : k' = key
    · simpa [put, keys, hk] using h
    · have fresh : k' ∉ keys (put key value rest) := by
        rw [mem_keys_put]
        rintro (h' | h')
        · exact hk h'
        · exact h.1 h'
      simpa [put, hk, keys] using And.intro fresh (ih h.2)

/-- Writing a key brings in no entry but its own. -/
theorem mem_of_mem_put {key : String} {value : α} {entries : Entries α} {entry : String × α}
    (mem : entry ∈ put key value entries)
    : entry = (key, value) ∨ entry ∈ entries := by
  induction entries with
  | nil => exact .inl (List.mem_singleton.mp mem)
  | cons first rest ih =>
    obtain ⟨k, old⟩ := first
    by_cases same : k = key
    · simp only [put, same, if_true] at mem
      exact (List.mem_cons.mp mem).imp_right (List.mem_cons_of_mem _)
    · simp only [put, same, if_false] at mem
      rcases List.mem_cons.mp mem with rfl | later
      · exact .inr List.mem_cons_self
      · exact (ih later).imp_right (List.mem_cons_of_mem _)

/-- A key written into entries that lack it goes to the end. -/
theorem put_of_not_mem {key : String} {value : α} {entries : Entries α}
    (h : key ∉ keys entries)
    : put key value entries = entries ++ [(key, value)] := by
  induction entries with
  | nil => rfl
  | cons entry rest ih =>
    obtain ⟨k', v'⟩ := entry
    simp only [keys, List.map_cons, List.mem_cons, not_or] at h
    have hk : k' ≠ key := fun e => h.1 e.symm
    simp [put, hk, ih h.2]

end Entries

end ClonePlanner
