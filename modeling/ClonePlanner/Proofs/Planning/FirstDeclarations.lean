import ClonePlanner.Planning.Inheritance

/-! Walking the levels of a type keeps exactly the first declaration of every name.
The walk is compared with a filter over all declarations, which splits at any level.
-/

namespace ClonePlanner

namespace Entries

variable {α : Type}

/-- The first entry of each key, in order. -/
def firstOfEachKey : Entries α → Entries α
  | [] => []
  | first :: rest => first :: (firstOfEachKey rest).filter fun later => later.1 ≠ first.1

theorem firstOfEachKey_sublist (entries : Entries α)
    : (firstOfEachKey entries).Sublist entries := by
  induction entries with
  | nil => exact List.Sublist.slnil
  | cons first rest ih => exact (List.filter_sublist.trans ih).cons_cons first

/-- The first entries of a concatenation are those of the left part, then those of the right
part under keys that the left part lacks. Witness: induction over the left part.
-/
theorem firstOfEachKey_append (left right : Entries α)
    : firstOfEachKey (left ++ right)
      = firstOfEachKey left
        ++ (firstOfEachKey right).filter fun entry => entry.1 ∉ keys left := by
  induction left with
  | nil => exact (List.filter_eq_self.mpr (by simp)).symm
  | cons first rest ih =>
      simp only [List.cons_append, firstOfEachKey, ih, List.filter_append, List.filter_filter]
      congr 2
      apply List.filter_congr
      intro entry _
      rw [Bool.eq_iff_iff]
      simp [not_or]

theorem firstOfEachKey_of_nodup {entries : Entries α} (distinct : (keys entries).Nodup)
    : firstOfEachKey entries = entries := by
  induction entries with
  | nil => rfl
  | cons first rest ih =>
      simp only [keys_cons, List.nodup_cons] at distinct
      rw [firstOfEachKey, ih distinct.2, List.filter_eq_self.mpr]
      intro later there
      have differs : later.1 ≠ first.1 := fun same =>
        distinct.1 (same ▸ List.mem_map_of_mem there)
      simp [differs]

/-- An entry between others is left out if its key is known before it. Those around it depend on
its key alone.
-/
theorem firstOfEachKey_middle (before : Entries α) (entry : String × α) (after : Entries α)
    : firstOfEachKey (before ++ entry :: after)
      = firstOfEachKey before
        ++ [entry].filter (fun entry => entry.1 ∉ keys before)
        ++ (firstOfEachKey after).filter fun later =>
            later.1 ∉ keys before ∧ later.1 ≠ entry.1 := by
  have first : firstOfEachKey (entry :: after)
      = [entry] ++ (firstOfEachKey after).filter fun later => later.1 ≠ entry.1 :=
    rfl
  rw [firstOfEachKey_append, first, List.filter_append, List.filter_filter, List.append_assoc]
  simp only [Bool.decide_and]

end Entries

/-- Walking entries into a map that keeps the first value of every key appends the first
entries under keys that the map lacks. Witness: induction over the entries; the key of
each step is from then on a key that the map holds.
-/
theorem OrderedMap.entries_foldl_insertIfNew {α : Type} (entries : Entries α)
    (map : OrderedMap α)
    : (entries.foldl (fun map entry => map.insertIfNew entry.1 entry.2) map).entries
      = map.entries
        ++ entries.firstOfEachKey.filter fun entry => entry.1 ∉ Entries.keys map.entries := by
  induction entries generalizing map with
  | nil => simp [Entries.firstOfEachKey]
  | cons first rest ih =>
      rw [List.foldl_cons, ih, OrderedMap.entries_insertIfNew]
      by_cases known : first.1 ∈ Entries.keys map.entries
      · simp only [Entries.firstOfEachKey, known, if_true, List.append_nil, List.filter_cons,
          not_true_eq_false, decide_false, Bool.false_eq_true, if_false, List.filter_filter]
        congr 1
        apply List.filter_congr
        intro entry _
        -- a key that the map lacks is not the one it holds already
        have differs (lacking : entry.1 ∉ Entries.keys map.entries) : entry.1 ≠ first.1 :=
          fun same => lacking (same ▸ known)
        simpa using differs
      · simp only [Entries.firstOfEachKey, known, if_false, List.filter_cons,
          not_false_eq_true, decide_true, if_true, List.filter_filter, List.append_assoc,
          List.singleton_append]
        congr 2
        apply List.filter_congr
        intro entry _
        rw [Bool.eq_iff_iff]
        simp [and_comm]

namespace TypeDeclaration

/-- All declarations of all levels under their names, most-derived first. -/
def declaredEntries (declaration : TypeDeclaration) : Entries DeclaredMember :=
  declaration.levels.flatMap fun (declaredIn, members) =>
    members.map fun member => (member.name, ⟨member, declaredIn⟩)

/-- The declarations of one level under their names. -/
def levelEntries (level : String × List MemberDescriptor) : Entries DeclaredMember :=
  level.2.map fun member => (member.name, ⟨member, level.1⟩)

theorem declaredEntries_eq_flatMap (declaration : TypeDeclaration)
    : declaration.declaredEntries = declaration.levels.flatMap levelEntries :=
  rfl

/-- The walk over the levels finds the first declaration of every name.
Witness: walking level by level is walking all declarations in one list.
-/
theorem firstDeclarations_entries (declaration : TypeDeclaration)
    : declaration.firstDeclarations.entries = declaration.declaredEntries.firstOfEachKey := by
  have flat : declaration.firstDeclarations
      = declaration.declaredEntries.foldl (fun seen entry => seen.insertIfNew entry.1 entry.2)
          OrderedMap.empty := by
    simp only [firstDeclarations, declaredEntries, List.foldl_flatMap, List.foldl_map, walkLevel]
  rw [flat, OrderedMap.entries_foldl_insertIfNew]
  simp [OrderedMap.empty, Entries.keys]

theorem collected_entries (declaration : TypeDeclaration)
    : declaration.collected.entries
      = declaration.declaredEntries.firstOfEachKey.filter fun entry =>
          entry.2.member.isEligible := by
  rw [← firstDeclarations_entries]
  rfl

/-- A member is collected under its own name, since it is declared under it. -/
theorem collected_entry_name {declaration : TypeDeclaration} {entry : String × DeclaredMember}
    (member : entry ∈ declaration.collected.entries)
    : entry.1 = entry.2.name := by
  rw [collected_entries] at member
  have declared := (Entries.firstOfEachKey_sublist _).subset (List.mem_filter.mp member).1
  obtain ⟨⟨declaredIn, members⟩, _, inLevel⟩ := List.mem_flatMap.mp declared
  obtain ⟨found, _, rfl⟩ := List.mem_map.mp inLevel
  rfl

theorem collected_keys (declaration : TypeDeclaration)
    : declaration.collected.keys = declaration.collectedMembers.map DeclaredMember.name := by
  simp only [OrderedMap.keys, Entries.keys, collectedMembers, OrderedMap.values, Entries.values,
    List.map_map]
  exact List.map_congr_left fun entry member => collected_entry_name member

end TypeDeclaration

end ClonePlanner
