import ClonePlanner.Entries

/-!
Maps that remember the order in which their keys were first written. The entries are the
view: two maps are equal exactly when they hold the same entries in the same order.
-/

namespace ClonePlanner

/-- A map from names to values whose entries have pairwise distinct keys. -/
structure OrderedMap (α : Type) where
  entries : Entries α
  nodup : (Entries.keys entries).Nodup

namespace OrderedMap

variable {α : Type}

def empty : OrderedMap α :=
  ⟨[], by simp [Entries.keys]⟩

instance : Inhabited (OrderedMap α) := ⟨empty⟩

/-- The map after `key` is written with `value`. -/
def insert (key : String) (value : α) (map : OrderedMap α) : OrderedMap α :=
  ⟨Entries.put key value map.entries, Entries.nodup_keys_put key value map.nodup⟩

/-- The map after the entries are written one by one. -/
def ofList (entries : Entries α) : OrderedMap α :=
  entries.foldl (fun map entry => map.insert entry.1 entry.2) empty

/-- The map after `key` is written with `value`, unless it was written before. -/
def insertIfNew (key : String) (value : α) (map : OrderedMap α) : OrderedMap α :=
  if key ∈ Entries.keys map.entries then map else map.insert key value

/-- The map without the entries whose values are refused. -/
def filter (keep : α → Bool) (map : OrderedMap α) : OrderedMap α :=
  ⟨
    map.entries.filter fun entry => keep entry.2,
    (List.filter_sublist.map _).nodup map.nodup
  ⟩

/-- The value written last for the key. -/
def get? (map : OrderedMap α) (key : String) : Option α :=
  Entries.get? key map.entries

/-- The keys, in order of first writing. -/
def keys (map : OrderedMap α) : List String :=
  Entries.keys map.entries

/-- The values, in the order of their keys. -/
def values (map : OrderedMap α) : List α :=
  Entries.values map.entries

def isEmpty (map : OrderedMap α) : Bool :=
  map.entries.isEmpty

/-- A map is determined by its entries. -/
@[ext]
theorem ext {left right : OrderedMap α} (h : left.entries = right.entries) : left = right := by
  cases left; cases right; cases h; rfl

/-- A key that is not there yet is written at the end, and one that is there changes nothing. -/
theorem entries_insertIfNew (key : String) (value : α) (map : OrderedMap α)
    : (map.insertIfNew key value).entries
      = map.entries ++ if key ∈ Entries.keys map.entries then [] else [(key, value)] := by
  by_cases known : key ∈ Entries.keys map.entries
  · simp [insertIfNew, known]
  · simpa [insertIfNew, insert, known] using Entries.put_of_not_mem known

/-- Writing keys that are all new appends their entries, by induction over what is written. -/
theorem entries_foldl_insert {entries : Entries α} {map : OrderedMap α}
    (h : (Entries.keys (map.entries ++ entries)).Nodup)
    : (entries.foldl (fun map entry => map.insert entry.1 entry.2) map).entries
      = map.entries ++ entries := by
  induction entries generalizing map with
  | nil => simp
  | cons entry rest ih =>
    have fresh : entry.1 ∉ Entries.keys map.entries := by
      intro hm
      simp only [Entries.keys, List.map_append, List.map_cons, List.nodup_append] at h
      exact h.2.2 _ hm _ (List.mem_cons_self ..) rfl
    have step : (map.insert entry.1 entry.2).entries = map.entries ++ [entry] :=
      Entries.put_of_not_mem fresh
    rw [List.foldl_cons, ih (by rw [step]; simpa using h), step]
    simp

/-- A list with distinct keys becomes the map with exactly these entries. -/
theorem entries_ofList {entries : Entries α} (h : (Entries.keys entries).Nodup)
    : (ofList entries).entries = entries := by
  have added := @entries_foldl_insert α entries empty (by simpa [empty] using h)
  simpa [ofList, empty] using added

end OrderedMap

end ClonePlanner
