import ClonePlanner.Proofs.Documents.AcceptedParts
import ClonePlanner.Proofs.Documents.FaultLocations

/-! A list of declarations decodes as its items do. The first item that fails decides, with the
fault that it has on its own, moved behind its index.
-/

namespace ClonePlanner.Decoding

open ClonePlanner.Json (Value)

variable {α : Type}

-----------------------------------------------------------------------------------------
-- The first item that fails
-----------------------------------------------------------------------------------------

/-- Items fail with the problem of the first of them that fails, behind its index. By induction
over the items, of which the first has any index.
-/
theorem items_eq_error_iff {decode : Value → Decoded α} {index : Nat} {values : List Value}
    {problem : Problem}
    : items decode index values = .error problem
      ↔ ∃ before value after own, values = before ++ value :: after
          ∧ (∀ earlier ∈ before, ∃ result, decode earlier = .ok result)
          ∧ decode value = .error own ∧ problem = own.under (.index (index + before.length)) := by
  induction values generalizing index with
  | nil => simp [items]
  | cons first rest ih =>
      rw [items]
      cases decoded : decode first with
      | error own =>
          constructor
          · intro failed
            cases failed
            exact ⟨[], first, rest, own, rfl, by simp, decoded, rfl⟩
          · rintro ⟨before, value, after, other, cut, fine, failed, rfl⟩
            cases before with
            | nil =>
                obtain ⟨rfl, rfl⟩ := List.cons.inj cut
                cases decoded.symm.trans failed
                rfl
            | cons head tail =>
                obtain ⟨rfl, rfl⟩ := List.cons.inj cut
                obtain ⟨result, succeeded⟩ := fine first List.mem_cons_self
                cases decoded.symm.trans succeeded
      | ok result =>
          have passed : (items decode (index + 1) rest).map (result :: ·) = .error problem
              ↔ items decode (index + 1) rest = .error problem := by
            cases items decode (index + 1) rest <;> simp [Except.map]
          simp only [Decoded.under]
          rw [passed, ih]
          constructor
          · rintro ⟨before, value, after, own, rfl, fine, failed, rfl⟩
            refine ⟨first :: before, value, after, own, rfl, ?_, failed, ?_⟩
            · exact List.forall_mem_cons.mpr ⟨⟨result, decoded⟩, fine⟩
            · rw [List.length_cons, Nat.add_assoc, Nat.add_comm 1]
          · rintro ⟨before, value, after, own, cut, fine, failed, rfl⟩
            cases before with
            | nil =>
                obtain ⟨rfl, rfl⟩ := List.cons.inj cut
                cases decoded.symm.trans failed
            | cons head tail =>
                obtain ⟨rfl, rfl⟩ := List.cons.inj cut
                refine ⟨tail, value, after, own, rfl, ?_, failed, ?_⟩
                · exact (List.forall_mem_cons.mp fine).2
                · rw [List.length_cons, Nat.add_assoc, Nat.add_comm 1]

-----------------------------------------------------------------------------------------
-- Locations behind an index
-----------------------------------------------------------------------------------------

/-- The text of a location in an item, for the list that has the item at the position. -/
def behindIndex (position : Nat) (location : String) : String :=
  if location = "." then "[" ++ toString position ++ "]"
  else "[" ++ toString position ++ "]." ++ location

/-- In a declaration that is no list, a fault is in itself or behind the key of a field. -/
theorem Sited.declaration_cases {value : Value} {path : Path}
    (sited : Sited .declaration value path) (single : ∀ items, value ≠ .array items)
    : path = [] ∨ ∃ name ∈ Entries.keys (Role.fields .declaration), ∃ rest,
        path = .key name :: rest := by
  cases sited with
  | here => exact .inl rfl
  | inside opens found _ =>
      cases opens with
      | key listed => exact .inr ⟨_, List.mem_map_of_mem listed, _, rfl⟩
      | position =>
          cases value with
          | array items => exact (single items rfl).elim
          | null | bool _ | number _ | string _ | object _ => cases found

/-- The keys of fields are no single points, so the text of a path tells whether it is empty. -/
theorem text_key_ne_point {name : String} (rest : Path)
    (listed : name ∈ Entries.keys (Role.fields .declaration))
    : Path.text (.key name :: rest) ≠ "." := by
  have long : ∀ name ∈ Entries.keys (Role.fields .declaration), 1 < name.length := by decide
  intro same
  have lengths := congrArg String.length same
  rw [Path.text, String.length_append] at lengths
  have := long name listed
  have : ".".length = 1 := rfl
  omega

/-- The text of a location in a declaration, seen from a list. -/
theorem text_behindIndex {value : Value} {path : Path} (sited : Sited .declaration value path)
    (single : ∀ items, value ≠ .array items) (position : Nat)
    : Path.text (.index position :: path) = behindIndex position path.text := by
  rcases sited.declaration_cases single with rfl | ⟨name, listed, rest, rfl⟩
  · have here : Path.text [] = "." := rfl
    rw [behindIndex, if_pos here]
    simp only [Path.text, Path.tailText, String.append_empty]
  · have point : "]." = "]" ++ "." := rfl
    rw [behindIndex, if_neg (text_key_ne_point rest listed), point]
    simp only [Path.text, Path.tailText, String.append_assoc]

-----------------------------------------------------------------------------------------
-- Lists of declarations
-----------------------------------------------------------------------------------------

section Single

variable {value : Value} {origin : String}

/-- A document that is no list holds one declaration. -/
theorem declarationsFrom_single (single : ∀ items, value ≠ .array items)
    : declarationsFrom origin value = withOrigin origin ((declaration value).map ([·])) := by
  cases value with
  | array items => exact (single items rfl).elim
  | null | bool _ | number _ | string _ | object _ => rfl

theorem withOrigin_eq_ok_iff {decoded : Decoded α} {result : α}
    : withOrigin origin decoded = .ok result ↔ decoded = .ok result := by
  cases decoded <;> simp [withOrigin]

theorem withOrigin_eq_error_iff {decoded : Decoded α} {fault : DescriptorFault}
    : withOrigin origin decoded = .error fault
      ↔ ∃ problem, decoded = .error problem ∧ fault = ⟨origin, problem⟩ := by
  cases decoded <;> simp [withOrigin, eq_comm]

theorem declarationsFrom_single_eq_ok_iff (single : ∀ items, value ≠ .array items)
    {found : List TypeDeclaration}
    : declarationsFrom origin value = .ok found
      ↔ ∃ declared, declaration value = .ok declared ∧ found = [declared] := by
  rw [declarationsFrom_single single, withOrigin_eq_ok_iff]
  cases declaration value <;> simp [Except.map, eq_comm]

theorem declarationsFrom_single_eq_error_iff (single : ∀ items, value ≠ .array items)
    {fault : DescriptorFault}
    : declarationsFrom origin value = .error fault
      ↔ ∃ problem, declaration value = .error problem ∧ fault = ⟨origin, problem⟩ := by
  rw [declarationsFrom_single single, withOrigin_eq_error_iff]
  cases declaration value <;> simp [Except.map]

theorem exists_declarationsFrom_single (single : ∀ items, value ≠ .array items)
    : (∃ list, declarationsFrom origin value = .ok list)
      ↔ ∃ declared, declaration value = .ok declared := by
  simp only [declarationsFrom_single_eq_ok_iff single, exists_comm (α := List TypeDeclaration),
    exists_and_left, exists_eq, and_true]

end Single

/-- A list of declarations fails with the problem of its first item that is none. -/
theorem declarationsFrom_array_eq_error_iff {origin : String} {values : List Value}
    {fault : DescriptorFault}
    : declarationsFrom origin (.array values) = .error fault
      ↔ ∃ before value after own, values = before ++ value :: after
          ∧ (∀ earlier ∈ before, ∃ declared, declaration earlier = .ok declared)
          ∧ declaration value = .error own
          ∧ fault = ⟨origin, own.under (.index before.length)⟩ := by
  rw [declarationsFrom, declarations, withOrigin_eq_error_iff]
  simp only [items_eq_error_iff, Nat.zero_add]
  constructor
  · rintro ⟨_, ⟨before, value, after, own, cut, fine, failed, rfl⟩, rfl⟩
    exact ⟨before, value, after, own, cut, fine, failed, rfl⟩
  · rintro ⟨before, value, after, own, cut, fine, failed, rfl⟩
    exact ⟨_, ⟨before, value, after, own, cut, fine, failed, rfl⟩, rfl⟩

/-- Items that decode to one declaration each decode to what they hold together. -/
theorem forall₂_single_iff {origin : String} {values : List Value}
    (single : ∀ value ∈ values, ∀ items, value ≠ .array items) {found : List TypeDeclaration}
    : List.Forall₂ (fun value declared => declaration value = .ok declared) values found
      ↔ ∃ lists, List.Forall₂ (fun value list => declarationsFrom origin value = .ok list)
          values lists ∧ found = lists.flatten := by
  induction values generalizing found with
  | nil => simp
  | cons first rest ih =>
      obtain ⟨firstSingle, restSingle⟩ := List.forall_mem_cons.mp single
      simp only [List.forall₂_cons_left_iff, ih restSingle,
        declarationsFrom_single_eq_ok_iff firstSingle]
      constructor
      · rintro ⟨declared, more, decoded, ⟨lists, aligned, rfl⟩, rfl⟩
        exact ⟨[declared] :: lists, ⟨_, _, ⟨declared, decoded, rfl⟩, aligned, rfl⟩, rfl⟩
      · rintro ⟨_, ⟨_, lists, ⟨declared, decoded, rfl⟩, aligned, rfl⟩, rfl⟩
        exact ⟨declared, lists.flatten, decoded, ⟨lists, aligned, rfl⟩, rfl⟩

/-- A list whose items are no lists decodes exactly if each item does on its own, to all that they
hold in their order. Otherwise it fails as the first item that fails does, with the same origin
and the same message, at the location that this item gives, behind its index.
-/
theorem declarationsFrom_array (origin : String) {values : List Value}
    (single : ∀ value ∈ values, ∀ items, value ≠ .array items)
    : (∀ found, declarationsFrom origin (.array values) = .ok found
        ↔ ∃ lists, List.Forall₂ (fun value list => declarationsFrom origin value = .ok list)
            values lists ∧ found = lists.flatten)
      ∧ ∀ fault, declarationsFrom origin (.array values) = .error fault
        ↔ ∃ before value after own, values = before ++ value :: after
            ∧ (∀ earlier ∈ before, ∃ list, declarationsFrom origin earlier = .ok list)
            ∧ declarationsFrom origin value = .error own
            ∧ fault.origin = own.origin
            ∧ fault.problem.cause = own.problem.cause
            ∧ fault.problem.path = .index before.length :: own.problem.path
            ∧ fault.problem.path.text = behindIndex before.length own.problem.path.text := by
  refine ⟨fun found => ?_, fun fault => ?_⟩
  · rw [← forall₂_single_iff single, ← items_eq_ok_iff]
    exact withOrigin_eq_ok_iff
  · rw [declarationsFrom_array_eq_error_iff]
    constructor
    · rintro ⟨before, value, after, own, rfl, fine, failed, rfl⟩
      have valueSingle := single value (by simp)
      refine ⟨before, value, after, ⟨origin, own⟩, rfl, ?_, ?_, rfl, rfl, rfl, ?_⟩
      · intro earlier mem
        exact (exists_declarationsFrom_single (single earlier (by simp [mem]))).mpr
          (fine earlier mem)
      · exact (declarationsFrom_single_eq_error_iff valueSingle).mpr ⟨own, failed, rfl⟩
      · exact text_behindIndex (locates_declaration value own failed) valueSingle _
    · rintro ⟨before, value, after, own, rfl, fine, failed, sameOrigin, sameCause, path, _⟩
      obtain ⟨problem, wrong, rfl⟩ :=
        (declarationsFrom_single_eq_error_iff (single value (by simp))).mp failed
      refine ⟨before, value, after, problem, rfl, ?_, wrong, ?_⟩
      · intro earlier mem
        exact (exists_declarationsFrom_single (single earlier (by simp [mem]))).mp
          (fine earlier mem)
      · exact congrArg₂ DescriptorFault.mk sameOrigin (congrArg₂ Problem.mk path sameCause)

/-- A class, a class with a number for a flag of its capabilities, and a number. -/
def brokenList : List Value := [
  .object [("name", .string "A")],
  .object [
    ("name", .string "B"),
    ("capabilities", .object [("deep", .number (.integer 1))])],
  .number (.integer 7)]

/-- What is wrong with the second item on its own. -/
def brokenItemFault : DescriptorFault :=
  ⟨"list", [.key "capabilities", .key "deep"], .wrongType (.integer 1) "a boolean"⟩

theorem brokenList_declarationsFrom
    : ∃ fault, declarationsFrom "list" (.array brokenList) = .error fault
        ∧ fault.problem.cause = brokenItemFault.problem.cause
        ∧ fault.problem.path.text = "[1].capabilities.deep" := by
  have single : ∀ value ∈ brokenList, ∀ items, value ≠ .array items := by
    simp [brokenList]
  have failed : declarationsFrom "list" (.array brokenList)
      = .error ⟨"list", .index 1 :: brokenItemFault.problem.path, brokenItemFault.problem.cause⟩ :=
    ((declarationsFrom_array "list" single).2 _).mpr ⟨[_], _, [_], brokenItemFault, rfl,
      by simpa using ⟨_, rfl⟩, rfl, rfl, rfl, rfl, by decide⟩
  exact ⟨_, failed, rfl, by decide⟩

end ClonePlanner.Decoding
