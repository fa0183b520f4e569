import ClonePlanner.Proofs.Json.WrittenTokens
import ClonePlanner.Text.Blank

/-! A text that is a document by itself is read as the same value inside containers, as long as
these leave room for its own. The reader inside runs along with the reader of the text alone:
their modes agree, and below the stack of the one lie the containers around it.
-/

namespace ClonePlanner.Json.Reader

-----------------------------------------------------------------------------------------
-- Texts by themselves
-----------------------------------------------------------------------------------------

/-- The greatest number of containers that are open at once while the characters are read. -/
def peak (state : State) : List Char → Nat
  | [] => state.stack.length
  | c :: rest =>
    match step state c with
    | .ok next => max state.stack.length (peak next rest)
    | .error _ => state.stack.length

theorem peak_cons {state next : State} {c : Char} (first : step state c = .ok next)
    (rest : List Char)
    : peak state (c :: rest) = max state.stack.length (peak next rest) := by
  simp only [peak, first]

theorem length_le_peak (state : State) (chars : List Char)
    : state.stack.length ≤ peak state chars := by
  cases chars with
  | nil => exact Nat.le_refl _
  | cons c rest =>
      cases first : step state c with
      | error halt => simp [peak, first]
      | ok next =>
          rw [peak_cons first]
          exact Nat.le_max_left ..

/-- Before a value, a blank changes nothing and every other character has to open the value. -/
theorem step_start {c : Char} {next : State} (first : step .start c = .ok next)
    : isBlank c = true ∧ next = .start
      ∨ isBlank c = false ∧ c ≠ ']' ∧ openValue [] c = .ok next := by
  have awaits := awaits_value []
  cases blank : isBlank c with
  | true =>
      have skipped := awaits.skips c blank
      cases first.symm.trans skipped
      exact .inl ⟨rfl, rfl⟩
  | false =>
      have noEnd : c ≠ ']' := by
        rintro rfl
        cases first
      exact .inr ⟨rfl, noEnd, (awaits.opens blank noEnd).symm.trans first⟩

/-- No white space opens a value. -/
theorem openValue_of_isBlank {c : Char} (blank : Text.isBlank c = true) (stack : List Frame)
    : openValue stack c = refuse .noValue := by
  have noDigit : c.isDigit = false := by
    simp only [Text.isBlank, Bool.or_eq_true, Bool.and_eq_true, decide_eq_true_eq, beq_iff_eq]
      at blank
    simp only [Char.isDigit, Bool.and_eq_false_iff, decide_eq_false_iff_not, ge_iff_le,
      UInt32.le_iff_toNat_le, Char.toNat_val, Char.reduceVal, UInt32.reduceToNat]
    omega
  have opens (d : Char) (visible : Text.isBlank d = false) : c ≠ d := by
    rintro rfl
    rw [blank] at visible
    cases visible
  simp only [openValue, opens '[' rfl, opens '\x7b' rfl, opens '"' rfl, opens 'n' rfl,
    opens 't' rfl, opens 'f' rfl, opens '-' rfl, noDigit, Bool.false_eq_true, if_false]

/-- A document is not all white space: a reader that has met nothing else still awaits it. -/
theorem not_blank_of_readChars {chars : List Char} {value : Value}
    (read : readChars chars = .ok value)
    : chars.all Text.isBlank = false := by
  obtain ⟨final, leads, finished⟩ := readChars_eq_ok_iff.mp read
  have awaiting (gap : List Char) (blank : gap.all Text.isBlank = true)
      (leads : Leads .start gap final) : final = .start := by
    induction gap with
    | nil =>
        cases leads
        rfl
    | cons c rest ih =>
        obtain ⟨blankFirst, blankRest⟩ : Text.isBlank c = true ∧ rest.all Text.isBlank = true := by
          simpa using blank
        cases leads with
        | read first more =>
            rcases step_start first with ⟨_, rfl⟩ | ⟨_, _, opened⟩
            · exact ih blankRest more
            · rw [openValue_of_isBlank blankFirst] at opened
              cases opened
  cases blank : chars.all Text.isBlank with
  | false => rfl
  | true =>
      rw [awaiting chars blank leads] at finished
      cases finished

-----------------------------------------------------------------------------------------
-- A reader inside containers
-----------------------------------------------------------------------------------------

/-- Modes that a reader of a text by itself can be in, with the stack given, before a value is
complete: those inside a container need one, and the rest of a word has letters.
-/
def Mode.Fits (stack : List Frame) : Mode → Prop
  | .firstItem | .itemEnd | .firstKey | .nextKey | .fieldEnd => stack ≠ []
  | .text isKey _ _ => isKey = true → stack ≠ []
  | .word rest _ => rest ≠ [] ∧ ∀ c ∈ rest, isBlank c = false
  | .done _ => False
  | .value | .nextItem | .colon | .number .. => True

/-- The second reader is where the first one is, with more containers around it. -/
inductive Inside (base : List Frame) : State → State → Prop where
  | unfinished {stack : List Frame} {mode : Mode} (fits : mode.Fits stack)
    : Inside base ⟨stack, mode⟩ ⟨stack ++ base, mode⟩
  | done (value : Value) : Inside base ⟨[], .done value⟩ (deliver value base)

/-- Where a step of the first reader leads, the second one follows if there is room. -/
def Follow (base : List Frame) (inner outer : Except Halt State) : Prop :=
  ∀ next, inner = .ok next → next.stack.length + base.length ≤ maxDepth →
    ∃ next', outer = .ok next' ∧ Inside base next next'

section Steps

variable {base : List Frame}

theorem follow_ok {state state' : State} (inside : Inside base state state')
    : Follow base (.ok state) (.ok state') := by
  intro next same _
  cases same
  exact ⟨state', rfl, inside⟩

theorem follow_error {halt : Halt} {outer : Except Halt State}
    : Follow base (.error halt) outer := by
  intro next same
  cases same

/-- Both readers decide alike what they only decide by the character. -/
theorem follow_ite {p : Prop} [Decidable p] {inner other inner' other' : Except Halt State}
    (then_ : p → Follow base inner inner') (else_ : ¬ p → Follow base other other')
    : Follow base (if p then inner else other) (if p then inner' else other') := by
  by_cases h : p
  · simpa only [if_pos h] using then_ h
  · simpa only [if_neg h] using else_ h

theorem inside_deliver (value : Value) (stack : List Frame)
    : Inside base (deliver value stack) (deliver value (stack ++ base)) := by
  cases stack with
  | nil => exact .done value
  | cons frame rest =>
      cases frame <;> exact .unfinished (List.cons_ne_nil _ _)

theorem inside_close {stack : List Frame} (opened : stack ≠ [])
    : Inside base (close stack) (close (stack ++ base)) := by
  cases stack with
  | nil => exact (opened rfl).elim
  | cons frame rest => cases frame <;> exact inside_deliver _ rest

/-- A container is opened inside others if there is room for it. -/
theorem follow_openFrame {frame : Frame} {mode : Mode} {stack : List Frame}
    (fits : mode.Fits (frame :: stack))
    : Follow base (openFrame frame mode stack) (openFrame frame mode (stack ++ base)) := by
  intro next opened room
  unfold openFrame at opened ⊢
  split at opened
  case isTrue =>
    cases opened
    have deeper : (stack ++ base).length < maxDepth := by
      simp only [List.length_cons] at room
      rw [List.length_append]
      omega
    exact ⟨⟨frame :: stack ++ base, mode⟩, if_pos deeper, .unfinished fits⟩
  case isFalse => cases opened

theorem follow_openValue (stack : List Frame) (c : Char)
    : Follow base (openValue stack c) (openValue (stack ++ base) c) := by
  have opened (frame : Frame) : frame :: stack ≠ [] := List.cons_ne_nil _ _
  refine follow_ite (fun _ => follow_openFrame (opened _)) fun _ => ?_
  refine follow_ite (fun _ => follow_openFrame (opened _)) fun _ => ?_
  refine follow_ite (fun _ => follow_ok (.unfinished (by simp [Mode.Fits]))) fun _ => ?_
  -- the three words
  iterate 3
    refine follow_ite (fun _ => follow_ok (.unfinished (by simp [Mode.Fits, isBlank])))
      fun _ => ?_
  refine follow_ite (fun _ => follow_ok (.unfinished trivial)) fun _ => ?_
  refine follow_ite (fun _ => ?_) fun _ => follow_error
  unfold firstDigit
  split
  · exact follow_ok (.unfinished trivial)
  · exact follow_ok (.unfinished trivial)

/-- Behind a value both readers go on alike; the first one only skips blanks if its document is
complete.
-/
theorem follow_stepAfter {state state' : State} (inside : Inside base state state') (c : Char)
    : Follow base (stepAfter state c) (stepAfter state' c) := by
  refine follow_ite (fun _ => follow_ok inside) fun _ => ?_
  cases inside with
  | done value => exact follow_error
  | @unfinished stack mode fits =>
      cases mode with
      | itemEnd =>
          refine follow_ite (fun _ => follow_ok (.unfinished trivial)) fun _ => ?_
          exact follow_ite (fun _ => follow_ok (inside_close fits)) fun _ => follow_error
      | fieldEnd =>
          refine follow_ite (fun _ => follow_ok (.unfinished fits)) fun _ => ?_
          exact follow_ite (fun _ => follow_ok (inside_close fits)) fun _ => follow_error
      | _ => exact follow_error

theorem follow_stepBefore {stack : List Frame} {mode : Mode} (fits : mode.Fits stack) (c : Char)
    : Follow base (stepBefore ⟨stack, mode⟩ c) (stepBefore ⟨stack ++ base, mode⟩ c) := by
  refine follow_ite (fun _ => follow_ok (.unfinished fits)) fun _ => ?_
  cases mode with
  | firstItem =>
      exact follow_ite (fun _ => follow_ok (inside_close fits)) fun _ => follow_openValue stack c
  | nextItem => exact follow_ite (fun _ => follow_error) fun _ => follow_openValue stack c
  | firstKey =>
      refine follow_ite (fun _ => follow_ok (.unfinished fun _ => fits)) fun _ => ?_
      exact follow_ite (fun _ => follow_ok (inside_close fits)) fun _ => follow_error
  | nextKey =>
      refine follow_ite (fun _ => follow_ok (.unfinished fun _ => fits)) fun _ => ?_
      exact follow_ite (fun _ => follow_error) fun _ => follow_error
  | colon => exact follow_ite (fun _ => follow_ok (.unfinished trivial)) fun _ => follow_error
  | _ => exact follow_openValue stack c

theorem inside_endText {isKey : Bool} {stack : List Frame} (fits : isKey = true → stack ≠ [])
    (chars : List Char)
    : Inside base (endText isKey chars stack) (endText isKey chars (stack ++ base)) := by
  cases isKey with
  | false => exact inside_deliver _ stack
  | true =>
      cases stack with
      | nil => exact (fits rfl rfl).elim
      | cons frame rest => cases frame <;> exact .unfinished trivial

/-- What one character does to the first reader it does to the second, by cases on the mode. -/
theorem follow_step {state state' : State} (inside : Inside base state state') (c : Char)
    : Follow base (step state c) (step state' c) := by
  cases inside with
  | done value =>
      rw [step_deliver]
      exact follow_stepAfter (.done value) c
  | @unfinished stack mode fits =>
      cases mode with
      | itemEnd | fieldEnd => exact follow_stepAfter (.unfinished fits) c
      | value | firstItem | nextItem | firstKey | nextKey | colon =>
          exact follow_stepBefore fits c
      | done value => exact fits.elim
      | word rest value =>
          obtain ⟨some, visible⟩ := fits
          cases rest with
          | nil => exact (some rfl).elim
          | cons due rest =>
              refine follow_ite (fun _ => ?_) fun _ => follow_error
              refine follow_ite (fun _ => follow_ok (inside_deliver value stack)) fun more => ?_
              have later := (List.forall_mem_cons.mp visible).2
              exact follow_ok (.unfinished ⟨by simpa using more, later⟩)
      | text isKey part chars =>
          have inText (next : Except Halt (TextPart × List Char))
              : Follow base (next.map fun next => ⟨stack, .text isKey next.1 next.2⟩)
                  (next.map fun next => ⟨stack ++ base, .text isKey next.1 next.2⟩) := by
            cases next with
            | error halt => exact follow_error
            | ok next => exact follow_ok (.unfinished fits)
          cases part with
          | plain =>
              exact follow_ite (fun _ => follow_ok (inside_endText fits chars))
                fun _ => inText _
          | _ => exact inText _
      | number part draft =>
          simp only [step]
          cases stepNumber part draft c with
          | error halt => exact follow_error
          | ok next =>
              cases next with
              | some next => exact follow_ok (.unfinished trivial)
              | none =>
                  cases endNumber part draft with
                  | error cause => exact follow_error
                  | ok value => exact follow_stepAfter (inside_deliver value stack) c

/-- A reader inside containers follows the reader of the text alone all the way, as long as they
leave room for the deepest point of the text. By induction over the text.
-/
theorem Leads.inside {state final state' : State} {chars : List Char}
    (leads : Leads state chars final) (inside : Inside base state state')
    (room : peak state chars + base.length ≤ maxDepth)
    : ∃ final', Leads state' chars final' ∧ Inside base final final' := by
  induction leads generalizing state' with
  | stop state => exact ⟨state', .stop state', inside⟩
  | @read state next final c rest first more ih =>
      rw [peak_cons first] at room
      have nextRoom := length_le_peak next rest
      obtain ⟨next', first', nextInside⟩ := follow_step inside c next first (by omega)
      obtain ⟨final', more', finalInside⟩ := ih nextInside (by omega)
      exact ⟨final', .read first' more', finalInside⟩

end Steps

-----------------------------------------------------------------------------------------
-- Documents inside containers
-----------------------------------------------------------------------------------------

section Documents

variable {chars : List Char} {value : Value}

/-- Where a value may begin, a text is followed as it is from the start of a document. The first
character that is not blank opens the value, by induction over the blanks before it.
-/
theorem leads_of_awaits {base : List Frame} {state final : State} (awaits : Awaits base state)
    (leads : Leads .start chars final) (begun : final ≠ .start)
    (room : peak .start chars + base.length ≤ maxDepth)
    : ∃ final', Leads state chars final' ∧ Inside base final final' := by
  induction chars with
  | nil =>
      cases leads
      exact (begun rfl).elim
  | cons c rest ih =>
      cases leads with
      | @read _ next _ _ _ first more =>
          rw [peak_cons first] at room
          rcases step_start first with ⟨blank, rfl⟩ | ⟨visible, noEnd, opened⟩
          · obtain ⟨final', more', inside⟩ := ih more (by omega)
            exact ⟨final', .read (awaits.skips c blank) more', inside⟩
          · have nextRoom := length_le_peak next rest
            have follow : Follow base (openValue [] c) (openValue base c) :=
              follow_openValue [] c
            obtain ⟨next', opened', nextInside⟩ := follow next opened (by omega)
            obtain ⟨final', more', inside⟩ := more.inside nextInside (by omega)
            exact ⟨final', .read ((awaits.opens visible noEnd).trans opened') more', inside⟩

/-- What is complete by itself is complete inside containers, where it goes into the innermost.
By cases on how a document ends: a number may need the character behind it.
-/
theorem settled_of_inside {base : List Frame} {final final' : State}
    (inside : Inside base final final') (finished : finish final = .ok value)
    : Settled final' (deliver value base) := by
  cases inside with
  | done found =>
      cases finished
      exact .refl _
  | @unfinished stack mode fits =>
      cases mode with
      | done found => exact fits.elim
      | number part draft =>
          simp only [finish] at finished
          cases complete : endNumber part draft with
          | error cause => simp [complete] at finished
          | ok found =>
              rw [complete] at finished
              cases stack with
              | nil =>
                  cases finished
                  exact settled_number base complete
              | cons frame rest => cases frame <;> cases finished
      | _ => cases finished

/-- A document is read inside containers as it is by itself, if they leave room for it. -/
theorem reads_of_readChars {stack : List Frame} (read : readChars chars = .ok value)
    (room : peak .start chars + stack.length ≤ maxDepth)
    : Reads stack chars value := by
  intro state awaits
  obtain ⟨final, leads, finished⟩ := readChars_eq_ok_iff.mp read
  have begun : final ≠ .start := by
    rintro rfl
    cases finished
  obtain ⟨final', leads', inside⟩ := leads_of_awaits awaits leads begun room
  exact ⟨final', leads', settled_of_inside inside finished⟩

theorem peak_le_append (state : State) (chars more : List Char)
    : peak state chars ≤ peak state (chars ++ more) := by
  induction chars generalizing state with
  | nil => exact length_le_peak state more
  | cons c rest ih =>
      cases first : step state c with
      | error halt => simp [peak, first]
      | ok next =>
          rw [List.cons_append, peak_cons first, peak_cons first]
          have later := ih next
          omega

section Blanks

variable {stack : List Frame} {next : State} {c : Char}

theorem ne_of_blank {d : Char} (blank : isBlank c = true) (visible : isBlank d = false)
    : c ≠ d := by
  rintro rfl
  rw [blank] at visible
  cases visible

/-- Only a quote leads out of a string. -/
theorem text_of_step {isKey : Bool} {part : TextPart} (noQuote : c ≠ '"')
    (read : step ⟨stack, .text isKey part chars⟩ c = .ok next)
    : ∃ part' chars', next = ⟨stack, .text isKey part' chars'⟩ := by
  have inText {stepped : Except Halt (TextPart × List Char)}
      (same : stepped.map (fun text => (⟨stack, .text isKey text.1 text.2⟩ : State)) = .ok next)
      : ∃ part' chars', next = ⟨stack, .text isKey part' chars'⟩ := by
    cases stepped with
    | error halt => cases same
    | ok text =>
        cases same
        exact ⟨text.1, text.2, rfl⟩
  cases part with
  | plain =>
      simp only [step, noQuote, if_false] at read
      exact inText read
  | _ => exact inText read

/-- A blank ends a number, which has to be complete. -/
theorem number_of_step_blank {part : NumberPart} {draft : NumberDraft}
    (blank : isBlank c = true) (read : step ⟨stack, .number part draft⟩ c = .ok next)
    : ∃ found, endNumber part draft = .ok found ∧ next = deliver found stack := by
  obtain ⟨noDigit, noPoint, noMark⟩ := Follows.notNumber (.inl blank)
  cases complete : endNumber part draft with
  | error cause =>
      -- neither a number that goes on nor one that ends here takes the blank
      cases part <;>
        simp [step, stepNumber, noDigit, noPoint, noMark, ne_of_blank blank (d := '0') rfl,
          ne_of_blank blank (d := '+') rfl, ne_of_blank blank (d := '-') rfl, complete] at read
  | ok found =>
      have skipped : step (deliver found stack) c = .ok (deliver found stack) := by
        rw [step_deliver]
        simp only [stepAfter, blank, if_true]
      rw [(settled_number stack complete).step (.inl blank), skipped] at read
      cases read
      exact ⟨found, rfl, rfl⟩

/-- A blank only ends what was complete before it, by cases on the mode. -/
theorem finish_of_step_blank {state state' : State} (inside : Inside [] state state')
    (blank : isBlank c = true) (last : step state c = .ok next)
    (finished : finish next = .ok value)
    : finish state = .ok value := by
  cases inside with
  | done found =>
      simp only [step, stepAfter, blank, if_true, Except.ok.injEq] at last
      exact last ▸ finished
  | @unfinished stack mode fits =>
      cases mode with
      | done found => exact fits.elim
      | word rest found =>
          obtain ⟨some, letters⟩ := fits
          cases rest with
          | nil => exact (some rfl).elim
          | cons due rest =>
              have differs := ne_of_blank blank (List.forall_mem_cons.mp letters).1
              simp only [step, differs, if_false, refuse] at last
              cases last
      | text isKey part chars =>
          obtain ⟨part', chars', rfl⟩ := text_of_step (ne_of_blank blank rfl) last
          cases finished
      | number part draft =>
          obtain ⟨found, complete, rfl⟩ := number_of_step_blank blank last
          exact (settled_number stack complete).finish.trans finished
      | _ =>
          simp only [step, stepBefore, stepAfter, blank, if_true, Except.ok.injEq] at last
          rw [← last] at finished
          cases finished

/-- A blank at the end of a document can be left out. -/
theorem readChars_of_append_blank {c : Char} (blank : isBlank c = true)
    (read : readChars (chars ++ [c]) = .ok value)
    (room : peak .start (chars ++ [c]) ≤ maxDepth)
    : readChars chars = .ok value := by
  obtain ⟨final, leads, finished⟩ := readChars_eq_ok_iff.mp read
  obtain ⟨middle, before, after⟩ := leads.of_append
  have shallow := Nat.le_trans (peak_le_append .start chars [c]) room
  have start : Inside [] .start .start := .unfinished trivial
  obtain ⟨_, _, inside⟩ := before.inside start shallow
  refine readChars_eq_ok_iff.mpr ⟨middle, before, ?_⟩
  cases after with
  | read last stop =>
      cases stop
      exact finish_of_step_blank inside blank last finished

end Blanks

end Documents

end ClonePlanner.Json.Reader
