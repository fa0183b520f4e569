import ClonePlanner.Command.Load
import Mathlib.Data.List.Forall2

/-! Which fault comes out of a list of items that are loaded one after another: that of the
first item that fails. Without one, the results stand in the order of the items.
-/

namespace ClonePlanner.Command

open ClonePlanner.Json (Value)

variable {α β : Type}

/-- The fault is that of the first item that fails. -/
def FirstToFail (Fails : α → LoadFault → Prop) (items : List α) (fault : LoadFault) : Prop :=
  ∃ before item after,
    items = before ++ item :: after
    ∧ (∀ earlier ∈ before, ∀ other, ¬ Fails earlier other)
    ∧ Fails item fault

section FirstToFail

variable {Fails : α → LoadFault → Prop} {first : α} {rest : List α} {fault : LoadFault}

theorem not_firstToFail_nil : ¬ FirstToFail Fails [] fault := by
  rintro ⟨before, item, after, cut, _⟩
  cases before <;> cases cut

/-- The first item decides if it fails; otherwise the rest does. -/
theorem firstToFail_cons_iff
    : FirstToFail Fails (first :: rest) fault
      ↔ Fails first fault ∨ (∀ other, ¬ Fails first other) ∧ FirstToFail Fails rest fault := by
  constructor
  · rintro ⟨before, item, after, cut, earlier, fails⟩
    cases before with
    | nil =>
        obtain ⟨rfl, rfl⟩ := List.cons.inj cut
        exact .inl fails
    | cons head tail =>
        obtain ⟨rfl, rfl⟩ := List.cons.inj cut
        obtain ⟨headFine, tailFine⟩ := List.forall_mem_cons.mp earlier
        exact .inr ⟨headFine, tail, item, after, rfl, tailFine, fails⟩
  · rintro (fails | ⟨fine, before, item, after, rfl, earlier, fails⟩)
    · exact ⟨[], first, rest, rfl, by simp, fails⟩
    · exact ⟨first :: before, item, after, rfl, List.forall_mem_cons.mpr ⟨fine, earlier⟩, fails⟩

end FirstToFail

/-- Each item gives a list, and what is found are these lists one behind another. -/
def InTurn (Gives : α → List β → Prop) (items : List α) (found : List β) : Prop :=
  ∃ lists, List.Forall₂ Gives items lists ∧ found = lists.flatten

section InTurn

variable {Gives : α → List β → Prop} {first : α} {rest : List α} {found : List β}

@[simp]
theorem inTurn_nil_iff : InTurn Gives [] found ↔ found = [] := by
  simp [InTurn]

theorem inTurn_cons_iff
    : InTurn Gives (first :: rest) found
      ↔ ∃ list more, Gives first list ∧ InTurn Gives rest more ∧ found = list ++ more := by
  constructor
  · rintro ⟨lists, aligned, rfl⟩
    cases aligned with
    | cons gives aligned => exact ⟨_, _, gives, ⟨_, aligned, rfl⟩, rfl⟩
  · rintro ⟨list, more, gives, ⟨lists, aligned, rfl⟩, rfl⟩
    exact ⟨list :: lists, .cons gives aligned, rfl⟩

theorem inTurn_singleton_iff : InTurn Gives [first] found ↔ Gives first found := by
  simp [inTurn_cons_iff]

/-- Items come in turn exactly if two parts of them do, by induction over the first part. -/
theorem inTurn_append_iff {left right : List α}
    : InTurn Gives (left ++ right) found
      ↔ ∃ before after, InTurn Gives left before ∧ InTurn Gives right after
          ∧ found = before ++ after := by
  induction left generalizing found with
  | nil => simp
  | cons item rest ih =>
      simp only [List.cons_append, inTurn_cons_iff, ih]
      constructor
      · rintro ⟨list, _, gives, ⟨before, after, first, second, rfl⟩, rfl⟩
        exact ⟨list ++ before, after, ⟨list, before, gives, first, rfl⟩, second,
          (List.append_assoc _ _ _).symm⟩
      · rintro ⟨_, after, ⟨list, before, gives, first, rfl⟩, second, rfl⟩
        exact ⟨list, before ++ after, gives, ⟨before, after, first, second, rfl⟩,
          List.append_assoc _ _ _⟩

/-- Each item gives a part of what is found. -/
theorem InTurn.exists_of_mem {items : List α} (inTurn : InTurn Gives items found) {item : α}
    (listed : item ∈ items)
    : ∃ list, Gives item list ∧ list ⊆ found := by
  obtain ⟨before, after, rfl⟩ := List.append_of_mem listed
  obtain ⟨_, _, _, others, rfl⟩ := inTurn_append_iff.mp inTurn
  obtain ⟨list, _, gives, _, rfl⟩ := inTurn_cons_iff.mp others
  exact ⟨list, gives, by simp⟩

/-- What is found comes from one of the items. -/
theorem InTurn.exists_of_found {items : List α} (inTurn : InTurn Gives items found) {result : β}
    (isFound : result ∈ found)
    : ∃ item ∈ items, ∃ list, Gives item list ∧ result ∈ list := by
  induction items generalizing found with
  | nil =>
      obtain rfl := inTurn_nil_iff.mp inTurn
      cases isFound
  | cons first rest ih =>
      obtain ⟨list, more, gives, others, rfl⟩ := inTurn_cons_iff.mp inTurn
      rcases List.mem_append.mp isFound with own | later
      · exact ⟨first, List.mem_cons_self, list, gives, own⟩
      · obtain ⟨item, listed, found⟩ := ih others later
        exact ⟨item, List.mem_cons_of_mem _ listed, found⟩

end InTurn

section Gather

variable {f : α → Loaded (List β)} {items : List α}

theorem gather_cons_of_ok {first : α} {found : List β} (rest : List α)
    (loaded : f first = .ok found)
    : gather f (first :: rest) = (gather f rest).map (found ++ ·) := by
  simp only [gather, loaded]

theorem gather_cons_of_error {first : α} {fault : LoadFault} (rest : List α)
    (failed : f first = .error fault)
    : gather f (first :: rest) = .error fault := by
  simp only [gather, failed]

theorem gather_cons_eq_ok_iff {first : α} {rest : List α} {found : List β}
    : gather f (first :: rest) = .ok found
      ↔ ∃ list more, f first = .ok list ∧ gather f rest = .ok more ∧ found = list ++ more := by
  cases loaded : f first with
  | error fault => simp [gather_cons_of_error rest loaded]
  | ok list =>
      rw [gather_cons_of_ok rest loaded]
      cases gather f rest with
      | error fault => simp [Except.map]
      | ok more => simp [Except.map, eq_comm]

/-- Gathering fails with the fault of the first item that fails, by induction over the items. -/
theorem gather_eq_error_iff {fault : LoadFault}
    : gather f items = .error fault
      ↔ FirstToFail (fun item fault => f item = .error fault) items fault := by
  induction items with
  | nil =>
      refine ⟨fun failed => ?_, fun failed => (not_firstToFail_nil failed).elim⟩
      cases failed
  | cons first rest ih =>
      rw [firstToFail_cons_iff]
      cases loaded : f first with
      | error cause =>
          rw [gather_cons_of_error rest loaded]
          refine ⟨.inl, ?_⟩
          rintro (failed | ⟨fine, _⟩)
          · exact failed
          · exact (fine cause rfl).elim
      | ok found =>
          rw [gather_cons_of_ok rest loaded, ← ih]
          cases gathered : gather f rest with
          | error cause => simp [Except.map]
          | ok more => simp [Except.map]

/-- Gathering succeeds where all items do, and their lists stand one behind another, by
induction over the items.
-/
theorem gather_eq_ok_iff {found : List β}
    : gather f items = .ok found ↔ InTurn (fun item list => f item = .ok list) items found := by
  induction items generalizing found with
  | nil => simp [gather, eq_comm]
  | cons first rest ih => simp only [gather_cons_eq_ok_iff, inTurn_cons_iff, ih]

theorem gather_congr {g : α → Loaded (List β)} (same : ∀ item ∈ items, f item = g item)
    : gather f items = gather g items := by
  induction items with
  | nil => rfl
  | cons first rest ih =>
      obtain ⟨firstSame, restSame⟩ := List.forall_mem_cons.mp same
      simp only [gather, firstSame, ih restSame]

/-- Gathering from two lists of items succeeds where gathering from each does. -/
theorem gather_append_eq_ok_iff {left right : List α} {found : List β}
    : gather f (left ++ right) = .ok found
      ↔ ∃ first second, gather f left = .ok first ∧ gather f right = .ok second
          ∧ found = first ++ second := by
  simp only [gather_eq_ok_iff, inTurn_append_iff]

end Gather

end ClonePlanner.Command
