import ClonePlanner.Proofs.Planning.FirstDeclarations
import Mathlib.Data.List.Induction

/-! The collected members are the first declarations that a clone carries over. The walk over
the levels is laid out as one list; a member of it is collected exactly if no member before it
has its name and it is exposed, and nothing behind it has a say in that.
-/

namespace ClonePlanner

/-- A clone can carry the member over: it is public in one way or another, it can be read, and
it belongs to the instance.
-/
def MemberDescriptor.Exposed (member : MemberDescriptor) : Prop :=
  (member.visibility = .publicWritable ∨ member.visibility = .publicInit)
  ∧ member.readable = true
  ∧ member.isStatic = false

instance (member : MemberDescriptor) : Decidable member.Exposed :=
  inferInstanceAs (Decidable (_ ∧ _ ∧ _))

theorem MemberDescriptor.isEligible_iff_exposed {member : MemberDescriptor}
    : member.isEligible = true ↔ member.Exposed := by
  simp only [isEligible, Exposed, Bool.and_eq_true, bne_iff_ne, Bool.not_eq_true', and_assoc]
  cases member.visibility <;> simp

-----------------------------------------------------------------------------------------
-- First entries, by their places and by their keys
-----------------------------------------------------------------------------------------

namespace Entries

variable {α : Type}

/-- The first entry of each key is the one whose key stands at no place before it. Witness:
induction from the end, since an entry at the end changes nothing for those before it.
-/
theorem firstOfEachKey_eq_filter_zipIdx (entries : Entries α)
    : firstOfEachKey entries
      = (entries.zipIdx.filter fun placed => placed.1.1 ∉ keys (entries.take placed.2)).map
          Prod.fst := by
  induction entries using List.reverseRecOn with
  | nil => rfl
  | append_singleton rest last ih =>
      have before : (rest.zipIdx.filter fun placed =>
            placed.1.1 ∉ keys ((rest ++ [last]).take placed.2))
          = rest.zipIdx.filter fun placed => placed.1.1 ∉ keys (rest.take placed.2) := by
        apply List.filter_congr
        rintro ⟨entry, place⟩ mem
        have inside : place ≤ rest.length := by
          have := List.snd_lt_of_mem_zipIdx mem
          omega
        rw [List.take_append_of_le_length inside]
      rw [firstOfEachKey_append, ih, List.zipIdx_append, List.filter_append, before]
      by_cases known : last.1 ∈ keys rest <;> simp [firstOfEachKey, known]

/-- Leaving out later entries of a key does not change what is found under it. -/
theorem get?_firstOfEachKey (key : String) (entries : Entries α)
    : get? key (firstOfEachKey entries) = get? key entries := by
  induction entries with
  | nil => rfl
  | cons first rest ih =>
      obtain ⟨name, value⟩ := first
      by_cases same : name = key
      · simp [firstOfEachKey, get?, same]
      · have kept : decide (key ≠ name) = true := by simp [Ne.symm same]
        simp only [firstOfEachKey, get?, same, if_false]
        rw [← ih]
        exact @get?_filter_key α key (fun other => other ≠ name) kept _

end Entries

/-- Filtering a map keeps or removes what is found under a key, since the key is there once. -/
theorem OrderedMap.get?_filter {α : Type} (keep : α → Bool) (map : OrderedMap α) (key : String)
    : (map.filter keep).get? key = (map.get? key).filter keep := by
  obtain ⟨entries, nodup⟩ := map
  simp only [OrderedMap.get?, OrderedMap.filter]
  induction entries with
  | nil => rfl
  | cons first rest ih =>
      obtain ⟨name, value⟩ := first
      simp only [Entries.keys_cons, List.nodup_cons] at nodup
      by_cases same : name = key
      · subst same
        have gone : Entries.get? name (rest.filter fun entry => keep entry.2) = none := by
          rw [Entries.get?_eq_none_iff]
          exact fun there => nodup.1 ((List.filter_sublist.map _).subset there)
        by_cases kept : keep value = true <;> simp [Entries.get?, Option.filter_some, kept, gone]
      · by_cases kept : keep value = true <;> simp [Entries.get?, same, kept, ih nodup.2]

namespace TypeDeclaration

variable (declaration : TypeDeclaration)

/-- The walk in one list: the type's own members, then those of each ancestor, every one with
the name of its level.
-/
def walk : List DeclaredMember :=
  (declaration.members.map fun member => ⟨member, declaration.name⟩)
    ++ declaration.ancestors.flatMap fun ancestor =>
      ancestor.members.map fun member => ⟨member, ancestor.name⟩

/-- The first member of the walk with a name. -/
def firstDeclared? (name : String) : Option DeclaredMember :=
  declaration.walk.find? fun declared => declared.name = name

/-- The member is the first one of its name in the walk, at this place. -/
def FirstAt (declared : DeclaredMember) (place : Nat) : Prop :=
  ∀ earlier ∈ declaration.walk.take place, earlier.name ≠ declared.name

instance (declared : DeclaredMember) (place : Nat)
    : Decidable (declaration.FirstAt declared place) :=
  inferInstanceAs (Decidable (∀ earlier ∈ _, _))

theorem declaredEntries_eq_map_walk
    : declaration.declaredEntries
      = declaration.walk.map fun declared => (declared.name, declared) := by
  simp only [declaredEntries, levels, walk, List.flatMap_cons, List.flatMap_map, List.map_append,
    List.map_map, List.map_flatMap]
  rfl

/-- The collected members are read off the walk by their places. -/
theorem collectedMembers_eq_filter_walk
    : declaration.collectedMembers
      = (declaration.walk.zipIdx.filter fun placed =>
          declaration.FirstAt placed.1 placed.2 ∧ placed.1.member.Exposed).map Prod.fst := by
  simp only [collectedMembers, OrderedMap.values, Entries.values, collected_entries,
    Entries.firstOfEachKey_eq_filter_zipIdx, declaredEntries_eq_map_walk, List.zipIdx_map,
    List.filter_map, List.map_map, List.filter_filter]
  refine congrArg₂ List.map rfl (List.filter_congr ?_)
  rintro ⟨declared, place⟩ _
  have first : declared.name ∉ Entries.keys
        ((declaration.walk.map fun declared => (declared.name, declared)).take place)
      ↔ declaration.FirstAt declared place := by
    simp [FirstAt, Entries.keys, ← List.map_take]
  rw [Bool.eq_iff_iff]
  simp only [Prod.map_apply, id_eq, Function.comp_apply, Bool.and_eq_true, decide_eq_true_iff,
    first, MemberDescriptor.isEligible_iff_exposed, and_comm]

theorem collectedMembers_sublist_walk
    : declaration.collectedMembers.Sublist declaration.walk := by
  rw [collectedMembers_eq_filter_walk]
  have kept := List.Sublist.map Prod.fst (List.filter_sublist (l := declaration.walk.zipIdx)
    (p := fun placed => declaration.FirstAt placed.1 placed.2 ∧ placed.1.member.Exposed))
  rwa [List.zipIdx_map_fst] at kept

/-- The collected members are entered under their own names. -/
theorem collected_entries_eq_map
    : declaration.collected.entries
      = declaration.collectedMembers.map fun declared => (declared.name, declared) := by
  rw [collectedMembers, OrderedMap.values, Entries.values, List.map_map]
  refine (List.map_id' _).symm.trans (List.map_congr_left fun entry mem => ?_)
  exact Prod.ext (collected_entry_name mem) rfl

theorem get?_declaredEntries (name : String)
    : Entries.get? name declaration.declaredEntries = declaration.firstDeclared? name := by
  rw [declaredEntries_eq_map_walk, firstDeclared?]
  induction declaration.walk with
  | nil => rfl
  | cons first rest ih =>
      by_cases same : first.name = name <;> simp [Entries.get?, same, ih]

/-- A name is collected with its first declaration, or it is not collected. -/
theorem get?_collected (name : String)
    : declaration.collected.get? name
      = (declaration.firstDeclared? name).filter fun first => first.member.Exposed := by
  have found : declaration.firstDeclarations.get? name = declaration.firstDeclared? name := by
    rw [OrderedMap.get?, firstDeclarations_entries, Entries.get?_firstOfEachKey,
      get?_declaredEntries]
  rw [collected, OrderedMap.get?_filter, found]
  congr 1
  funext first
  rw [Bool.eq_iff_iff, MemberDescriptor.isEligible_iff_exposed, decide_eq_true_iff]

/-- Collecting keeps the first declaration of every name and then leaves out what a clone does
not carry over. The collected members have distinct names and stand in the order of the walk;
they are the members at those places of the walk where a name comes up for the first time and
the member is exposed. So what is collected under a name is its first declaration or nothing,
and a later declaration of the name is never collected, not even if the first one is hidden.
-/
theorem collectedMembers_firstDeclared
    : declaration.collected.entries
        = declaration.collectedMembers.map (fun declared => (declared.name, declared))
      ∧ (declaration.collectedMembers.map DeclaredMember.name).Nodup
      ∧ declaration.collectedMembers.Sublist declaration.walk
      ∧ declaration.collectedMembers
        = (declaration.walk.zipIdx.filter fun placed =>
            declaration.FirstAt placed.1 placed.2 ∧ placed.1.member.Exposed).map Prod.fst
      ∧ (∀ name, name ∈ declaration.collectedMembers.map DeclaredMember.name
        ↔ ∃ first, declaration.firstDeclared? name = some first ∧ first.member.Exposed)
      ∧ ∀ name, declaration.collected.get? name
        = (declaration.firstDeclared? name).filter fun first => first.member.Exposed := by
  have names := declaration.collected_keys
  refine ⟨declaration.collected_entries_eq_map, names ▸ declaration.collected.nodup,
    declaration.collectedMembers_sublist_walk, declaration.collectedMembers_eq_filter_walk,
    fun name => ?_, declaration.get?_collected⟩
  have collects : name ∈ declaration.collected.keys
      ↔ ∃ first, declaration.collected.get? name = some first := by
    rw [← not_iff_not, OrderedMap.keys, ← Entries.get?_eq_none_iff, ← OrderedMap.get?]
    simp [Option.eq_none_iff_forall_ne_some]
  rw [← names, collects, get?_collected]
  simp [Option.filter_eq_some_iff]

end TypeDeclaration

end ClonePlanner
