import ClonePlanner.Model.Named
import Mathlib.Data.List.Pairwise

/-! Texts that tell what they are the text of. A text is legible if it tells its value and the
place where it ends, whatever follows that is fit to follow it. Words are legible before what is
no part of a word, texts from a fixed choice are legible if none of them begins another one, and
one legible text after another is legible as a list.
-/

namespace ClonePlanner

/-- Texts of these values, each with something behind it that is fit to follow, are equal only if
the values are, and what is behind them.
-/
def Legible {α : Type} (values : α → Prop) (fits : List Char → Prop) (text : α → List Char)
    : Prop :=
  ∀ ⦃value other : α⦄, values value → values other →
    ∀ ⦃rest others : List Char⦄, fits rest → fits others →
      text value ++ rest = text other ++ others → value = other ∧ rest = others

/-- Anything may follow. -/
def Anything (_ : List Char) : Prop := True

/-- The text does not begin with this one. -/
def LacksFront (front : String) (rest : List Char) : Prop :=
  ∀ more, rest ≠ front.toList ++ more

def isWordChar (c : Char) : Bool :=
  c.isAlphanum || c == '_'

/-- The text consists of letters, digits and underscores, or is empty. -/
def IsWord (text : String) : Prop :=
  ∀ c ∈ text.toList, isWordChar c = true

instance (text : String) : Decidable (IsWord text) :=
  List.decidableBAll (fun c => isWordChar c = true) text.toList

/-- A word that stands before this text is not continued by it. -/
def EndsWord (rest : List Char) : Prop :=
  ∀ c ∈ rest.head?, isWordChar c = false

theorem endsWord_cons {c : Char} (rest : List Char) (other : isWordChar c = false)
    : EndsWord (c :: rest) := by
  simpa [EndsWord] using other

/-- A text that begins with no part of a word ends the word before it, with all that follows. -/
theorem endsWord_append {text : String}
    (other : text.toList.head?.any (fun c => !isWordChar c) = true) (rest : List Char)
    : EndsWord (text.toList ++ rest) := by
  obtain ⟨c, first, noWord⟩ := (Option.any_eq_true _ _).mp other
  intro d found
  rw [List.head?_append, first, Option.some_or] at found
  obtain rfl : c = d := Option.some.inj found
  simpa using noWord

/-- A word is the longest part in front that consists of its characters. -/
theorem takeWhile_word {text : String} (word : IsWord text) {rest : List Char}
    (ends : EndsWord rest)
    : (text.toList ++ rest).takeWhile isWordChar = text.toList := by
  have stops : rest.takeWhile isWordChar = [] := by
    cases rest with
    | nil => rfl
    | cons c rest => simp [ends c rfl]
  rw [List.takeWhile_append_of_pos word, stops, List.append_nil]

theorem legible_word : Legible IsWord EndsWord String.toList := by
  intro text other word otherWord rest others ends otherEnds same
  have chars : text.toList = other.toList := by
    rw [← takeWhile_word word ends, same, takeWhile_word otherWord otherEnds]
  rw [chars] at same
  exact ⟨String.toList_inj.mp chars, List.append_cancel_left same⟩

/-- Neither of the texts is the beginning of the other. -/
def Apart (text other : String) : Prop :=
  ¬ text.toList <+: other.toList ∧ ¬ other.toList <+: text.toList

instance (text other : String) : Decidable (Apart text other) :=
  inferInstanceAs (Decidable (¬ _ ∧ ¬ _))

/-- A fixed choice of texts is legible before anything if no text is the beginning of another,
since two texts that begin one text begin one another.
-/
theorem legible_of_apart {α : Type} [Named α] {text : α → String}
    (apart : (Named.all : List α).Pairwise fun value other => Apart (text value) (text other))
    : Legible (fun _ => True) Anything fun value => (text value).toList := by
  intro value other _ _ rest others _ _ same
  by_cases equal : value = other
  · subst equal
    exact ⟨rfl, List.append_cancel_left same⟩
  · have symmetric : Std.Symm fun value other => Apart (text value) (text other) :=
      ⟨fun _ _ apart => apart.symm⟩
    have separate : Apart (text value) (text other) :=
      apart.forall (Named.complete value) (Named.complete other) equal
    have begins : (text other).toList <+: (text value).toList ++ rest :=
      same ▸ List.prefix_append ..
    rcases List.prefix_or_prefix_of_prefix (List.prefix_append _ rest) begins with shorter | longer
    · exact (separate.1 shorter).elim
    · exact (separate.2 longer).elim

/-- What is legible stays so if it is told from its values by other values. -/
theorem Legible.of_injective {α β : Type} {values : β → Prop} {fits : List Char → Prop}
    {text : β → List Char} (legible : Legible values fits text) {f : α → β}
    (injective : Function.Injective f) (inside : ∀ value, values (f value))
    : Legible (fun _ => True) fits fun value => text (f value) := by
  intro value other _ _ rest others fitsRest fitsOthers same
  obtain ⟨equal, behind⟩ := legible (inside value) (inside other) fitsRest fitsOthers same
  exact ⟨injective equal, behind⟩

/-- One text after another is legible before an end that cannot be taken for one more text, by
induction over the values of the one side.
-/
theorem Legible.flatMap {α : Type} {values : α → Prop} {fits ends : List Char → Prop}
    {text : α → List Char} (legible : Legible values fits text)
    (fits_text : ∀ value rest, values value → fits (text value ++ rest))
    (fits_end : ∀ rest, ends rest → fits rest)
    (apart : ∀ value rest, values value → ¬ ends (text value ++ rest))
    : Legible (fun list : List α => ∀ value ∈ list, values value) ends (List.flatMap text) := by
  have fits_list (list : List α) (inside : ∀ value ∈ list, values value) {rest : List Char}
      (last : ends rest)
      : fits (list.flatMap text ++ rest) := by
    cases list with
    | nil => exact fits_end rest last
    | cons first more =>
        rw [List.flatMap_cons, List.append_assoc]
        exact fits_text first _ (inside first (List.mem_cons_self ..))
  intro list
  induction list with
  | nil =>
      intro others _ inside rest otherRest last otherLast same
      cases others with
      | nil => exact ⟨rfl, same⟩
      | cons first more =>
          rw [List.flatMap_nil, List.nil_append, List.flatMap_cons, List.append_assoc] at same
          rw [same] at last
          exact (apart first _ (inside first (List.mem_cons_self ..)) last).elim
  | cons first more ih =>
      intro others inside otherInside rest otherRest last otherLast same
      obtain ⟨firstInside, moreInside⟩ := List.forall_mem_cons.mp inside
      rw [List.flatMap_cons, List.append_assoc] at same
      cases others with
      | nil =>
          rw [List.flatMap_nil, List.nil_append] at same
          rw [← same] at otherLast
          exact (apart first _ firstInside otherLast).elim
      | cons other others =>
          obtain ⟨otherFirst, othersInside⟩ := List.forall_mem_cons.mp otherInside
          rw [List.flatMap_cons, List.append_assoc] at same
          obtain ⟨rfl, behind⟩ := legible firstInside otherFirst
            (fits_list more moreInside last) (fits_list others othersInside otherLast) same
          obtain ⟨rfl, equal⟩ := ih moreInside othersInside last otherLast behind
          exact ⟨rfl, equal⟩

end ClonePlanner
