import ClonePlanner.Proofs.Reports.PlainExplanation

/-! Colors say nothing. The terminal codes are taken out of a colored explanation by a scan of
the whole text, which knows nothing of the pieces that it was put together from, and what is left
is the plain explanation. A code begins with an escape and is complete before the next piece
begins, so a piece is left as it is unless there is an escape in it, however it begins or ends.
-/

namespace ClonePlanner

namespace Terminal

-----------------------------------------------------------------------------------------
-- Taking codes out
-----------------------------------------------------------------------------------------

/-- What may stand between the bracket and the end of a code. -/
def isCodeChar (c : Char) : Bool :=
  c.isDigit || c == ';'

/-- What is behind the code that a text begins with: an escape, a bracket, digits and semicolons,
and an `m`.
-/
def behindCode? : List Char → Option (List Char)
  | '\x1b' :: '[' :: rest =>
    match rest.dropWhile isCodeChar with
    | 'm' :: behind => some behind
    | _ => none
  | _ => none

theorem length_lt_of_behindCode? {text behind : List Char}
    (found : behindCode? text = some behind)
    : behind.length < text.length := by
  unfold behindCode? at found
  split at found
  case h_1 rest =>
    have shorter := (rest.dropWhile_sublist isCodeChar).length_le
    split at found
    case h_1 same =>
      cases found
      rw [same] at shorter
      simp only [List.length_cons] at shorter ⊢
      omega
    case h_2 => cases found
  case h_2 => cases found

/-- The text without the codes in it. -/
def withoutCodes : List Char → List Char
  | [] => []
  | c :: rest =>
    match _found : behindCode? (c :: rest) with
    | some behind => withoutCodes behind
    | none => c :: withoutCodes rest
termination_by text => text.length
decreasing_by
  · exact length_lt_of_behindCode? _found
  · exact Nat.lt_succ_self rest.length

theorem withoutCodes_of_behindCode? {text behind : List Char}
    (found : behindCode? text = some behind)
    : withoutCodes text = withoutCodes behind := by
  cases text with
  | nil => cases found
  | cons c rest =>
      rw [withoutCodes]
      split
      case h_1 other same =>
        cases found.symm.trans same
        rfl
      case h_2 none => cases found.symm.trans none

/-- The characters between the bracket and the end of a code are passed over, however many. -/
theorem behindCode?_code {numbers : List Char} (codes : numbers.all isCodeChar = true)
    (rest : List Char)
    : behindCode? ([Piece.escape, '['] ++ numbers ++ ['m'] ++ rest) = some rest := by
  have passed : (numbers ++ 'm' :: rest).dropWhile isCodeChar = 'm' :: rest := by
    rw [List.dropWhile_append_of_pos (List.all_eq_true.mp codes)]
    rfl
  simp [behindCode?, Piece.escape, passed]

theorem behindCode?_eq_none {c : Char} (other : c ≠ Piece.escape) (rest : List Char)
    : behindCode? (c :: rest) = none := by
  unfold behindCode?
  split
  case h_1 same => exact (other (List.cons.inj same).1).elim
  case h_2 => rfl

/-- A text without escapes stays, and what is behind it is scanned as if it stood alone. By
induction over the text.
-/
theorem withoutCodes_append {text : List Char} (clean : Piece.escape ∉ text) (rest : List Char)
    : withoutCodes (text ++ rest) = text ++ withoutCodes rest := by
  induction text with
  | nil => rfl
  | cons c more ih =>
      obtain ⟨other, cleanMore⟩ := List.ne_and_not_mem_of_not_mem_cons clean
      rw [List.cons_append, withoutCodes]
      split
      case h_1 behind found => cases found.symm.trans (behindCode?_eq_none other.symm _)
      case h_2 => rw [ih cleanMore, List.cons_append]

/-- A code that breaks off stays in the text, up to where the next one begins. -/
example : withoutCodes "\x1b[1;3ma\x1b[1\x1b[mb".toList = "a\x1b[1b".toList := by cbv

-----------------------------------------------------------------------------------------
-- Pieces
-----------------------------------------------------------------------------------------

theorem withoutCodes_opening (tone : Tone) (rest : List Char)
    : withoutCodes (Piece.opening tone ++ rest) = withoutCodes rest := by
  have codes : tone.codes.all isCodeChar = true := by cases tone <;> decide
  exact withoutCodes_of_behindCode? (behindCode?_code codes rest)

theorem withoutCodes_reset (rest : List Char)
    : withoutCodes (Piece.reset ++ rest) = withoutCodes rest := by
  have codes : ['0'].all isCodeChar = true := rfl
  exact withoutCodes_of_behindCode? (behindCode?_code codes rest)

/-- In a text without escapes no tone ends, so none is begun again. -/
theorem reopen_of_clean (code : List Char) {text : List Char} (clean : Piece.escape ∉ text)
    : Piece.reopen code text = text := by
  induction text with
  | nil => rfl
  | cons c rest ih =>
      obtain ⟨other, cleanRest⟩ := List.ne_and_not_mem_of_not_mem_cons clean
      rw [Piece.reopen, ih cleanRest]
      rintro more rfl _
      exact other rfl

/-- A piece is left as its text, whatever follows. -/
theorem withoutCodes_colored {piece : Piece} (clean : Piece.escape ∉ piece.text)
    (rest : List Char)
    : withoutCodes (piece.colored ++ rest) = piece.text ++ withoutCodes rest := by
  obtain ⟨tone, text⟩ := piece
  cases tone with
  | none => exact withoutCodes_append clean rest
  | some tone =>
      simp only [Piece.colored, List.append_assoc]
      rw [withoutCodes_opening, reopen_of_clean _ clean, withoutCodes_append clean,
        withoutCodes_reset]

theorem withoutCodes_pieces {pieces : List Piece}
    (clean : ∀ piece ∈ pieces, Piece.escape ∉ piece.text)
    : withoutCodes (pieces.flatMap Piece.colored) = pieces.flatMap Piece.text := by
  induction pieces with
  | nil => rw [List.flatMap_nil, withoutCodes, List.flatMap_nil]
  | cons piece rest ih =>
      obtain ⟨cleanPiece, cleanRest⟩ := List.forall_mem_cons.mp clean
      rw [List.flatMap_cons, List.flatMap_cons, withoutCodes_colored cleanPiece, ih cleanRest]

end Terminal

-----------------------------------------------------------------------------------------
-- Names
-----------------------------------------------------------------------------------------

/-- The names in a plan: of the type, of the members and of the types that declare them. -/
def ClonePlan.names (plan : ClonePlan) : List String :=
  plan.typeName :: plan.members.entries.flatMap fun (name, entry) => [name, entry.declaredIn]

def PlanOutcome.names : PlanOutcome → List String
  | .planned plan => plan.names
  | .skipped _ => []

def PlanSet.names (set : PlanSet) : List String :=
  set.name :: (set.deep.names ++ set.shallow.names)

/-- All names in a report, which are all strings in it. -/
def PlanReport.names (report : PlanReport) : List String :=
  report.types.flatMap PlanSet.names

namespace Explanation

-----------------------------------------------------------------------------------------
-- Pieces without escapes
-----------------------------------------------------------------------------------------

/-- The text has no escape in it. -/
def Clean (text : String) : Prop :=
  Piece.escape ∉ text.toList

instance (text : String) : Decidable (Clean text) :=
  inferInstanceAs (Decidable (_ ∉ _))

theorem clean_append_iff {text other : String}
    : Clean (text ++ other) ↔ Clean text ∧ Clean other := by
  simp [Clean]

theorem clean_of_isWord {text : String} (word : IsWord text) : Clean text :=
  fun mem => absurd (word _ mem) (by decide)

theorem clean_elementText (element : ElementAction) : Clean (elementText element) := by
  cases element <;> decide

theorem clean_rebuildText {title parts : String} (titleWord : IsWord title)
    (partsWord : IsWord parts) (element : ElementAction)
    : Clean (rebuildText title parts element) := by
  simp only [rebuildText, clean_append_iff]
  exact ⟨⟨⟨⟨⟨by decide, clean_of_isWord titleWord⟩, by decide⟩, clean_of_isWord partsWord⟩,
    by decide⟩, clean_elementText element⟩

theorem clean_actionText (action : CloneAction) : Clean (actionText action) := by
  cases action with
  | copyScalar | copyReference | recurseCloneable => decide
  | cloneArray rank element =>
      simp only [actionText, clean_append_iff]
      exact ⟨⟨⟨by decide, clean_of_isWord (isWord_toString _)⟩, by decide⟩,
        clean_elementText element⟩
  | cloneDictionary variant value =>
      rw [actionText_cloneDictionary]
      exact clean_rebuildText (isWord_dictionaryTitle variant) (by decide) value
  | cloneCollection variant element =>
      rw [actionText_cloneCollection]
      exact clean_rebuildText (isWord_collectionTitle variant) (by decide) element

theorem clean_remarkText (entry : PlanEntry) : Clean (remarkText entry) := by
  obtain ⟨_, guarded, initOnly, _⟩ := entry
  cases guarded <;> cases initOnly <;> simp [remarkText, remarks, Clean, Piece.escape]

theorem clean_originText (typeName : String) {entry : PlanEntry} (clean : Clean entry.declaredIn)
    : Clean (originText typeName entry) := by
  unfold originText
  split
  · decide
  · exact clean_append_iff.mpr ⟨by decide, clean⟩

theorem clean_memberLine (typeName : String) {name : String} {entry : PlanEntry}
    (clean : Clean name) (cleanOrigin : Clean entry.declaredIn)
    : ∀ piece ∈ memberLine typeName name entry, Piece.escape ∉ piece.text := by
  have front : Clean ("    " ++ name ++ ": ") :=
    clean_append_iff.mpr ⟨clean_append_iff.mpr ⟨by decide, clean⟩, by decide⟩
  have action := clean_actionText entry.action
  have remarks := clean_remarkText entry
  have origin := clean_originText typeName cleanOrigin
  simp only [memberLine, List.forall_mem_cons]
  exact ⟨front, action, remarks, origin, by decide, by simp⟩

theorem clean_memberLines {plan : ClonePlan} (clean : ∀ name ∈ plan.names, Clean name)
    : ∀ piece ∈ memberLines plan, Piece.escape ∉ piece.text := by
  unfold memberLines
  split
  · decide
  · intro piece mem
    obtain ⟨⟨name, entry⟩, listed, inLine⟩ := List.mem_flatMap.mp mem
    have named {text : String} (given : text ∈ [name, entry.declaredIn]) : Clean text :=
      clean text (List.mem_cons_of_mem _ (List.mem_flatMap.mpr ⟨_, listed, given⟩))
    exact clean_memberLine _ (named (by simp)) (named (by simp)) piece inLine

theorem clean_outcomeLines {label : String} {outcome : PlanOutcome} (cleanLabel : Clean label)
    (clean : ∀ name ∈ outcome.names, Clean name)
    : ∀ piece ∈ outcomeLines label outcome, Piece.escape ∉ piece.text := by
  cases outcome with
  | planned plan =>
      have strategy : Clean ("(" ++ strategyText plan.strategy ++ ")") := by
        cases plan.strategy <;> decide
      simp only [outcomeLines, List.forall_mem_append, List.forall_mem_cons]
      exact ⟨⟨by decide, cleanLabel, by decide, strategy, by decide, by simp⟩,
        clean_memberLines clean⟩
  | skipped reason =>
      have skipped : Clean ("skipped: " ++ reasonText reason) := by
        cases reason <;> decide
      simp only [outcomeLines, List.forall_mem_cons]
      exact ⟨by decide, cleanLabel, by decide, skipped, by decide, by simp⟩

theorem clean_typeLines {set : PlanSet} (clean : ∀ name ∈ set.names, Clean name)
    : ∀ piece ∈ typeLines set, Piece.escape ∉ piece.text := by
  simp only [PlanSet.names, List.forall_mem_cons, List.forall_mem_append] at clean
  obtain ⟨name, deep, shallow⟩ := clean
  simp only [typeLines, List.forall_mem_append, List.forall_mem_cons]
  exact ⟨⟨⟨name, by decide, by simp⟩, clean_outcomeLines (by decide) deep⟩,
    clean_outcomeLines (by decide) shallow⟩

end Explanation

-----------------------------------------------------------------------------------------
-- Reports
-----------------------------------------------------------------------------------------

namespace PlanReport

/-- Without its terminal codes a colored explanation is the plain one, for any report without
escapes in its names.
-/
theorem withoutCodes_explain (report : PlanReport)
    (clean : ∀ name ∈ report.names, Piece.escape ∉ name.toList)
    : String.ofList (Terminal.withoutCodes (report.explain true).toList)
      = report.explain false := by
  have pieces : ∀ piece ∈ report.explanation, Piece.escape ∉ piece.text := by
    intro piece mem
    obtain ⟨set, listed, inLines⟩ := List.mem_flatMap.mp mem
    have named : ∀ name ∈ set.names, Explanation.Clean name := fun name given =>
      clean name (List.mem_flatMap.mpr ⟨set, listed, given⟩)
    exact Explanation.clean_typeLines named piece inLines
  have scanned := Terminal.withoutCodes_pieces pieces
  simp only [explain, if_true, Bool.false_eq_true, if_false, String.toList_ofList]
  exact congrArg String.ofList scanned

/-- A class with names that would be codes, or go on with one, if they had an escape. -/
def codeLikeClass : TypeDeclaration :=
  {
    TypeDeclaration.ofClass "[1m" [
      .initOnly "0m" (.scalar "int"),
      .writable ";3" (.array (.scalar "int") 2)] with
    ancestors := [⟨"m", [.writable "31m" .string]⟩]
  }

theorem codeLikeClass_withoutCodes_explain
    : (∀ name ∈ (ofDeclarations [codeLikeClass] {}).names, Piece.escape ∉ name.toList)
      ∧ String.ofList (Terminal.withoutCodes
          ((ofDeclarations [codeLikeClass] {}).explain true).toList)
        = (ofDeclarations [codeLikeClass] {}).explain false := by
  have clean : ∀ name ∈ (ofDeclarations [codeLikeClass] {}).names,
      Piece.escape ∉ name.toList := by
    decide
  exact ⟨clean, withoutCodes_explain _ clean⟩

end PlanReport

end ClonePlanner
