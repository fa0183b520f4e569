import ClonePlanner.Filter.Engine
import Mathlib.Data.List.Forall2

/-! What applying a filter comes to, by rules that do not run it. It fails if its text is refused,
if some output is no document, or if all are and something was raised behind them. Otherwise it
gives the documents of all outputs, and never a part of them.
-/

namespace ClonePlanner.Filter

open ClonePlanner.Json (Value)

/-- The text of an output is one of the document. -/
def IsTextOf (text : String) (document : Value) : Prop :=
  Json.read text = .ok document

namespace Engine

/-- Applied to the document, the filter gives the results: one for the text of each output. -/
def Gives (engine : Engine) (filter : String) (document : Value) (results : List Value) : Prop :=
  ∃ outputsOf, engine.compile filter = .ok outputsOf
    ∧ List.Forall₂ IsTextOf (outputsOf document).texts results
    ∧ (outputsOf document).raised = none

/-- Applied to the document, the filter fails. An output that is no document counts by its
position, and what was raised only counts behind outputs that are documents.
-/
inductive FailsOn (engine : Engine) (filter : String) (document : Value) : Fault → Prop where
  | refused {refusal : Refusal} (refused : engine.compile filter = .error refusal)
    : FailsOn engine filter document (.refused refusal)
  | output {outputsOf : Value → Outputs} {before after : List String} {results : List Value}
      {text : String} {cause : Json.SyntaxFault} (compiled : engine.compile filter = .ok outputsOf)
      (cut : (outputsOf document).texts = before ++ text :: after)
      (fine : List.Forall₂ IsTextOf before results) (malformed : Json.read text = .error cause)
    : FailsOn engine filter document (.output before.length cause)
  | raised {outputsOf : Value → Outputs} {results : List Value} {message : String}
      (compiled : engine.compile filter = .ok outputsOf)
      (fine : List.Forall₂ IsTextOf (outputsOf document).texts results)
      (raised : (outputsOf document).raised = some message)
    : FailsOn engine filter document (.raised message)

end Engine

section Documents

variable {texts : List String} {position : Nat}

/-- Texts of documents are read as these, by induction over the texts. -/
theorem documents_eq_ok_iff {results : List Value}
    : documents position texts = .ok results ↔ List.Forall₂ IsTextOf texts results := by
  induction texts generalizing position results with
  | nil => simp [documents, eq_comm]
  | cons text rest ih =>
      rw [documents, List.forall₂_cons_left_iff]
      cases read : Json.read text with
      | error cause => simp [IsTextOf, read]
      | ok document =>
          simp only [IsTextOf, read, Except.ok.injEq, ← @ih (position + 1)]
          cases documents (position + 1) rest <;> simp [Except.map, eq_comm]

/-- Texts are refused for the first one that is of no document, by its position, by induction over
the texts.
-/
theorem documents_eq_error_iff {fault : Fault}
    : documents position texts = .error fault
      ↔ ∃ before text after results cause, texts = before ++ text :: after
          ∧ List.Forall₂ IsTextOf before results ∧ Json.read text = .error cause
          ∧ fault = .output (position + before.length) cause := by
  induction texts generalizing position with
  | nil =>
      refine iff_of_false (by simp [documents]) ?_
      rintro ⟨before, text, after, _, _, cut, _⟩
      cases before <;> cases cut
  | cons text rest ih =>
      rw [documents]
      cases read : Json.read text with
      | error cause =>
          constructor
          · intro failed
            cases failed
            exact ⟨[], text, rest, [], cause, rfl, .nil, read, rfl⟩
          · rintro ⟨before, other, after, results, _, cut, fine, malformed, rfl⟩
            cases fine with
            | nil =>
                cases cut
                cases read.symm.trans malformed
                rfl
            | cons first _ =>
                cases cut
                cases read.symm.trans first
      | ok document =>
          have passed : (documents (position + 1) rest).map (document :: ·) = .error fault
              ↔ documents (position + 1) rest = .error fault := by
            cases documents (position + 1) rest <;> simp [Except.map]
          simp only [passed, ih]
          constructor
          · rintro ⟨before, other, after, results, cause, rfl, fine, malformed, rfl⟩
            refine ⟨text :: before, other, after, document :: results, cause, rfl,
              .cons read fine, malformed, ?_⟩
            rw [List.length_cons, Nat.add_assoc, Nat.add_comm 1]
          · rintro ⟨before, other, after, results, cause, cut, fine, malformed, rfl⟩
            cases fine with
            | nil =>
                cases cut
                cases read.symm.trans malformed
            | @cons _ _ before results _ fine =>
                cases cut
                refine ⟨before, other, after, results, cause, rfl, fine, malformed, ?_⟩
                rw [List.length_cons, Nat.add_assoc, Nat.add_comm 1]

end Documents

namespace Engine

variable {engine : Engine} {filter : String} {document : Value}

theorem run_eq_ok_iff {results : List Value}
    : engine.run filter document = .ok results ↔ engine.Gives filter document results := by
  unfold run Gives
  cases engine.compile filter with
  | error refusal => simp
  | ok outputsOf =>
      simp only [Except.ok.injEq, exists_eq_left', ← @documents_eq_ok_iff _ 0]
      cases documents 0 (outputsOf document).texts <;> cases (outputsOf document).raised <;> simp

/-- Applying a filter fails by one of the rules, in this order. -/
theorem run_eq_error_iff {fault : Fault}
    : engine.run filter document = .error fault ↔ engine.FailsOn filter document fault := by
  constructor
  · intro failed
    unfold run at failed
    cases compiled : engine.compile filter with
    | error refusal =>
        rw [compiled] at failed
        cases failed
        exact .refused compiled
    | ok outputsOf =>
        cases read : documents 0 (outputsOf document).texts with
        | error cause =>
            simp only [compiled, read, Except.error.injEq] at failed
            obtain ⟨before, text, after, results, cause, cut, fine, malformed, rfl⟩ :=
              documents_eq_error_iff.mp (read.trans (congrArg _ failed))
            rw [Nat.zero_add]
            exact .output compiled cut fine malformed
        | ok results =>
            cases raised : (outputsOf document).raised with
            | none => simp [compiled, read, raised] at failed
            | some message =>
                simp only [compiled, read, raised, Except.error.injEq] at failed
                exact failed ▸ .raised compiled (documents_eq_ok_iff.mp read) raised
  · intro fails
    unfold run
    cases fails with
    | refused refused => rw [refused]
    | output compiled cut fine malformed =>
        have read :=
          (@documents_eq_error_iff _ 0 _).mpr ⟨_, _, _, _, _, cut, fine, malformed, rfl⟩
        simp only [compiled, read, Nat.zero_add]
    | raised compiled fine raised =>
        simp only [compiled, documents_eq_ok_iff.mpr fine, raised]

end Engine

end ClonePlanner.Filter
