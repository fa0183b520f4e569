import ClonePlanner.Proofs.Json.Progress
import ClonePlanner.Proofs.Json.ReadBack
import ClonePlanner.Proofs.Json.Trees

/-! What the reader accepts is well formed: the keys of its objects are distinct, its integers are
in range, and it is nested no deeper than the reader allows. The invariant says this of the parts
that wait on the stack, each with the room that the containers below it leave; a step keeps it.
-/

namespace ClonePlanner.Json

open ClonePlanner.Decimal (Scan)

/-- The value is well formed, and so shallow that it fits where this much room is left. -/
structure Value.Bounded (limit : Nat) (value : Value) : Prop where
  formed : value.WellFormed
  shallow : value.depth ≤ limit

namespace Value

variable {limit : Nat}

theorem Bounded.mono {more : Nat} {value : Value} (h : value.Bounded limit) (le : limit ≤ more)
    : value.Bounded more :=
  ⟨h.formed, Nat.le_trans h.shallow le⟩

theorem bounded_array_iff {items : List Value}
    : Bounded (limit + 1) (.array items) ↔ ∀ item ∈ items, Bounded limit item := by
  constructor
  · intro bounded item mem
    have shallow := Tree.depthItems_le_iff.mp (Nat.le_of_succ_le_succ bounded.shallow)
    exact ⟨Tree.wellFormedItems_iff.mp bounded.formed item mem, shallow item mem⟩
  · intro inside
    have formed := Tree.wellFormedItems_iff.mpr fun item mem => (inside item mem).formed
    have shallow := Tree.depthItems_le_iff.mpr fun item mem => (inside item mem).shallow
    exact ⟨formed, Nat.succ_le_succ shallow⟩

theorem bounded_object_iff {fields : List (String × Value)}
    : Bounded (limit + 1) (.object fields)
      ↔ (Entries.keys fields).Nodup ∧ ∀ field ∈ fields, Bounded limit field.2 := by
  constructor
  · intro bounded
    have formed := Tree.wellFormedFields_iff.mp bounded.formed.2
    have shallow := Tree.depthFields_le_iff.mp (Nat.le_of_succ_le_succ bounded.shallow)
    exact ⟨bounded.formed.1, fun field mem => ⟨formed field mem, shallow field mem⟩⟩
  · rintro ⟨distinct, inside⟩
    have formed := Tree.wellFormedFields_iff.mpr fun field mem => (inside field mem).formed
    have shallow := Tree.depthFields_le_iff.mpr fun field mem => (inside field mem).shallow
    exact ⟨⟨distinct, formed⟩, Nat.succ_le_succ shallow⟩

/-- An item fits wherever its list does. -/
theorem Bounded.of_mem_items {items : List Value} {item : Value}
    (bounded : Bounded limit (.array items)) (mem : item ∈ items)
    : item.Bounded limit := by
  cases limit with
  | zero => exact (Nat.not_succ_le_zero _ bounded.shallow).elim
  | succ less => exact (bounded_array_iff.mp bounded item mem).mono (Nat.le_succ less)

/-- The value of a field fits wherever its object does. -/
theorem Bounded.of_mem_fields {fields : List (String × Value)} {field : String × Value}
    (bounded : Bounded limit (.object fields)) (mem : field ∈ fields)
    : field.2.Bounded limit := by
  cases limit with
  | zero => exact (Nat.not_succ_le_zero _ bounded.shallow).elim
  | succ less => exact ((bounded_object_iff.mp bounded).2 field mem).mono (Nat.le_succ less)

end Value

namespace Reader

/-- What comes of a step without a refusal is good. -/
def Gives {α : Type} (good : α → Prop) (outcome : Except Halt α) : Prop :=
  ∀ result, outcome = .ok result → good result

section Gives

variable {α : Type} {good : α → Prop}

theorem gives_ok {result : α} (h : good result) : Gives good (.ok result) := by
  intro other same
  cases same
  exact h

theorem gives_error {halt : Halt} : Gives good (.error halt) := by
  intro result same
  cases same

theorem gives_ite {p : Prop} [Decidable p] {first second : Except Halt α}
    (then_ : p → Gives good first) (else_ : ¬ p → Gives good second)
    : Gives good (if p then first else second) := by
  by_cases h : p
  · simpa only [if_pos h] using then_ h
  · simpa only [if_neg h] using else_ h

end Gives

-----------------------------------------------------------------------------------------
-- Numbers
-----------------------------------------------------------------------------------------

/-- The digits that were read fit the significand. -/
def NumberDraft.InRange (draft : NumberDraft) : Prop :=
  draft.scan.significand ≤ Scan.limit

/-- A number that has not ended keeps to its range. -/
def GoesOnInRange : Option (NumberPart × NumberDraft) → Prop
  | none => True
  | some next => next.2.InRange

theorem digit_le_limit {c : Char} (isDigit : c.isDigit = true) : digit c ≤ Scan.limit := by
  simp only [Char.isDigit, Bool.and_eq_true, decide_eq_true_eq, ge_iff_le,
    UInt32.le_iff_toNat_le, Char.toNat_val] at isDigit
  have last : c.toNat ≤ 57 := isDigit.2
  simp only [digit, Scan.limit]
  omega

theorem append?_le_limit {scan : Scan} {d significand : Nat}
    (appended : scan.append? d = some significand)
    : significand ≤ Scan.limit := by
  simp only [Scan.append?, Option.ite_none_right_eq_some, Option.some.injEq] at appended
  exact appended.2 ▸ appended.1

section Digits

variable {draft : NumberDraft} (inRange : draft.InRange) (c : Char)
include inRange

theorem wholeDigit_le_limit : (wholeDigit draft.scan c).2.significand ≤ Scan.limit := by
  unfold wholeDigit
  split
  case h_1 appended => exact append?_le_limit appended
  case h_2 => exact inRange

theorem fractionDigit_le_limit : (fractionDigit draft.scan c).2.significand ≤ Scan.limit := by
  unfold fractionDigit
  split
  case h_1 appended => exact append?_le_limit appended
  case h_2 => exact inRange

/-- The digits of an exponent leave the significand alone. -/
theorem gives_exponentDigit : Gives GoesOnInRange ((exponentDigit draft c).map some) := by
  unfold exponentDigit
  dsimp only
  split
  · exact gives_ok inRange
  · split
    · exact gives_error
    · exact gives_ok inRange

/-- A number that goes on keeps to its range, by cases on where it stands. -/
theorem gives_stepNumber (part : NumberPart) : Gives GoesOnInRange (stepNumber part draft c) := by
  have same (part : NumberPart)
      : Gives GoesOnInRange (.ok (some (part, draft))) :=
    gives_ok inRange
  have ended : Gives GoesOnInRange (.ok none) := gives_ok trivial
  have exponent := gives_exponentDigit inRange c
  cases part with
  | sign =>
      refine gives_ite (fun _ => same _) fun _ => ?_
      exact gives_ite (fun isDigit => gives_ok (digit_le_limit isDigit)) fun _ => gives_error
  | zero =>
      refine gives_ite (fun _ => gives_error) fun _ => ?_
      exact gives_ite (fun _ => same _) fun _ => gives_ite (fun _ => same _) fun _ => ended
  | whole =>
      refine gives_ite (fun _ => gives_ok (wholeDigit_le_limit inRange c)) fun _ => ?_
      exact gives_ite (fun _ => same _) fun _ => gives_ite (fun _ => same _) fun _ => ended
  | longWhole =>
      refine gives_ite (fun _ => gives_ok inRange) fun _ => ?_
      exact gives_ite (fun _ => same _) fun _ => gives_ite (fun _ => same _) fun _ => ended
  | point =>
      exact gives_ite (fun _ => gives_ok (fractionDigit_le_limit inRange c)) fun _ => gives_error
  | fraction =>
      refine gives_ite (fun _ => gives_ok (fractionDigit_le_limit inRange c)) fun _ => ?_
      exact gives_ite (fun _ => same _) fun _ => ended
  | longFraction =>
      exact gives_ite (fun _ => same _) fun _ => gives_ite (fun _ => same _) fun _ => ended
  | mark =>
      refine gives_ite (fun _ => same _) fun _ => ?_
      refine gives_ite (fun _ => gives_ok inRange) fun _ => ?_
      exact gives_ite (fun _ => exponent) fun _ => gives_error
  | markSign => exact gives_ite (fun _ => exponent) fun _ => gives_error
  | exponent => exact gives_ite (fun _ => exponent) fun _ => ended
  | vanished => exact gives_ite (fun _ => same _) fun _ => ended

end Digits

theorem bounded_float (bits : UInt64) (limit : Nat)
    : Value.Bounded limit (.number (.float bits)) :=
  ⟨trivial, Nat.zero_le _⟩

theorem bounded_endFloat {scan : Scan} {shift : Int} {value : Value}
    (complete : endFloat scan shift = .ok value) (limit : Nat)
    : value.Bounded limit := by
  unfold endFloat at complete
  split at complete
  · cases complete
    exact bounded_float _ limit
  · cases complete

/-- An integer that was read is in range: the one end of the range is checked for, and the other
is that of the significand.
-/
theorem inRange_of_integer? {scan : Scan} (fits : scan.significand ≤ Scan.limit) {value : Int}
    (read : integer? scan = some value)
    : Number.InRange (.integer value) := by
  simp only [Number.InRange, Number.minInteger, Number.maxInteger]
  simp only [Scan.limit] at fits
  unfold integer? at read
  split at read
  · simp only [Option.ite_none_right_eq_some, Option.some.injEq] at read
    omega
  · simp only [Option.some.injEq] at read
    omega

/-- A complete number is in range, by cases on where its end was met. -/
theorem bounded_endNumber {part : NumberPart} {draft : NumberDraft} {value : Value}
    (inRange : draft.InRange) (complete : endNumber part draft = .ok value) (limit : Nat)
    : value.Bounded limit := by
  have whole {part : NumberPart} (isWhole : part = .zero ∨ part = .whole)
      (complete : endNumber part draft = .ok value) : value.Bounded limit := by
    cases read : integer? draft.scan with
    | none =>
        have float : endFloat draft.scan 0 = .ok value := by
          rcases isWhole with rfl | rfl <;> simpa [endNumber, read] using complete
        exact bounded_endFloat float limit
    | some integer =>
        have same : value = .number (.integer integer) := by
          rcases isWhole with rfl | rfl <;> simpa [endNumber, read, eq_comm] using complete
        exact same ▸ ⟨inRange_of_integer? inRange read, Nat.zero_le _⟩
  cases part with
  | zero => exact whole (.inl rfl) complete
  | whole => exact whole (.inr rfl) complete
  | longWhole | fraction | longFraction | exponent => exact bounded_endFloat complete limit
  | vanished =>
      cases complete
      exact bounded_float _ limit
  | sign | point | mark | markSign => cases complete

-----------------------------------------------------------------------------------------
-- States
-----------------------------------------------------------------------------------------

/-- The parts of an open container are so shallow that they fit where this much room is left. -/
def Frame.Sound (limit : Nat) : Frame → Prop
  | .array items => ∀ item ∈ items, item.Bounded limit
  | .object fields _ => (Entries.keys fields).Nodup ∧ ∀ field ∈ fields, field.2.Bounded limit

/-- Each open container has room for its parts, under itself and the containers around it. -/
def SoundStack : List Frame → Prop
  | [] => True
  | frame :: rest =>
    rest.length < maxDepth ∧ frame.Sound (maxDepth - (rest.length + 1)) ∧ SoundStack rest

/-- What the mode holds is well formed. -/
def Mode.Sound : Mode → Prop
  | .word _ due => due.Bounded 0
  | .number _ draft => draft.InRange
  | .done found => found.Bounded maxDepth
  | _ => True

structure State.Sound (state : State) : Prop where
  stack : SoundStack state.stack
  mode : state.mode.Sound

section Steps

variable {stack : List Frame} (sound : SoundStack stack)
include sound

/-- A value goes into the innermost container, which has room for it. -/
theorem sound_deliver {value : Value} (bounded : value.Bounded (maxDepth - stack.length))
    : (deliver value stack).Sound := by
  cases stack with
  | nil => exact ⟨trivial, bounded⟩
  | cons frame rest =>
      obtain ⟨room, parts, below⟩ := sound
      cases frame with
      | array items => exact ⟨⟨room, List.forall_mem_cons.mpr ⟨bounded, parts⟩, below⟩, trivial⟩
      | object fields key =>
          have fresh : ∀ field ∈ Entries.put key value fields,
              field.2.Bounded (maxDepth - (rest.length + 1)) := by
            intro field mem
            rcases Entries.mem_of_mem_put mem with rfl | old
            · exact bounded
            · exact parts.2 field old
          exact ⟨⟨room, ⟨Entries.nodup_keys_put key value parts.1, fresh⟩, below⟩, trivial⟩

/-- A container that ends is one level deeper than its parts, and there was room for it. -/
theorem sound_close : (close stack).Sound := by
  cases stack with
  | nil => exact ⟨trivial, trivial, Nat.zero_le _⟩
  | cons frame rest =>
      obtain ⟨room, parts, below⟩ := sound
      have level : maxDepth - rest.length = maxDepth - (rest.length + 1) + 1 := by omega
      cases frame with
      | array items =>
          refine sound_deliver below ?_
          rw [level]
          exact Value.bounded_array_iff.mpr fun item mem => parts item (List.mem_reverse.mp mem)
      | object fields key =>
          refine sound_deliver below ?_
          rw [level]
          exact Value.bounded_object_iff.mpr parts

theorem gives_openFrame {frame : Frame} {mode : Mode}
    (empty : frame.Sound (maxDepth - (stack.length + 1))) (fits : mode.Sound)
    : Gives State.Sound (openFrame frame mode stack) :=
  gives_ite (fun room => gives_ok ⟨⟨room, empty, sound⟩, fits⟩) fun _ => gives_error

theorem gives_openValue (c : Char) : Gives State.Sound (openValue stack c) := by
  have word (rest : List Char) {value : Value} (bounded : value.Bounded 0)
      : Gives State.Sound (.ok ⟨stack, .word rest value⟩) :=
    gives_ok ⟨sound, bounded⟩
  refine gives_ite (fun _ => gives_openFrame sound (by simp [Frame.Sound]) trivial) fun _ => ?_
  refine gives_ite (fun _ => gives_openFrame sound (by simp [Frame.Sound]) trivial) fun _ => ?_
  refine gives_ite (fun _ => gives_ok ⟨sound, trivial⟩) fun _ => ?_
  -- the three words
  iterate 3
    refine gives_ite (fun _ => word _ ⟨trivial, Nat.le_refl 0⟩) fun _ => ?_
  refine gives_ite (fun _ => gives_ok ⟨sound, Nat.zero_le _⟩) fun _ => ?_
  refine gives_ite (fun isDigit => gives_ok ?_) fun _ => gives_error
  unfold firstDigit
  split
  · exact ⟨sound, Nat.zero_le _⟩
  · exact ⟨sound, digit_le_limit isDigit⟩

theorem sound_endText (isKey : Bool) (chars : List Char) : (endText isKey chars stack).Sound := by
  cases isKey with
  | false => exact sound_deliver sound ⟨trivial, Nat.zero_le _⟩
  | true =>
      cases stack with
      | nil => exact ⟨trivial, trivial⟩
      | cons frame rest => cases frame <;> exact ⟨sound, trivial⟩

end Steps

section Step

variable {state : State} (sound : state.Sound) (c : Char)
include sound

theorem gives_stepAfter : Gives State.Sound (stepAfter state c) := by
  obtain ⟨stack, mode⟩ := state
  refine gives_ite (fun _ => gives_ok sound) fun _ => ?_
  cases mode with
  | itemEnd | fieldEnd =>
      refine gives_ite (fun _ => gives_ok ⟨sound.stack, trivial⟩) fun _ => ?_
      exact gives_ite (fun _ => gives_ok (sound_close sound.stack)) fun _ => gives_error
  | _ => exact gives_error

theorem gives_stepBefore : Gives State.Sound (stepBefore state c) := by
  obtain ⟨stack, mode⟩ := state
  have opens := gives_openValue sound.stack c
  have closed := sound_close sound.stack
  refine gives_ite (fun _ => gives_ok sound) fun _ => ?_
  cases mode with
  | firstItem => exact gives_ite (fun _ => gives_ok closed) fun _ => opens
  | nextItem => exact gives_ite (fun _ => gives_error) fun _ => opens
  | firstKey =>
      refine gives_ite (fun _ => gives_ok ⟨sound.stack, trivial⟩) fun _ => ?_
      exact gives_ite (fun _ => gives_ok closed) fun _ => gives_error
  | nextKey =>
      refine gives_ite (fun _ => gives_ok ⟨sound.stack, trivial⟩) fun _ => ?_
      exact gives_ite (fun _ => gives_error) fun _ => gives_error
  | colon =>
      exact gives_ite (fun _ => gives_ok ⟨sound.stack, trivial⟩) fun _ => gives_error
  | _ => exact opens

/-- One character keeps the state sound, by cases on the mode. -/
theorem gives_step : Gives State.Sound (step state c) := by
  obtain ⟨stack, mode⟩ := state
  have delivered {value : Value} (bounded : value.Bounded 0) : (deliver value stack).Sound :=
    sound_deliver sound.stack (bounded.mono (Nat.zero_le _))
  cases mode with
  | itemEnd | fieldEnd | done => exact gives_stepAfter sound c
  | value | firstItem | nextItem | firstKey | nextKey | colon => exact gives_stepBefore sound c
  | word rest value =>
      cases rest with
      | nil => exact gives_stepAfter (delivered sound.mode) c
      | cons due rest =>
          refine gives_ite (fun _ => ?_) fun _ => gives_error
          refine gives_ite (fun _ => gives_ok (delivered sound.mode)) fun _ => ?_
          exact gives_ok ⟨sound.stack, sound.mode⟩
  | text isKey part chars =>
      have inText (next : Except Halt (TextPart × List Char))
          : Gives State.Sound (next.map fun next => ⟨stack, .text isKey next.1 next.2⟩) := by
        cases next with
        | error halt => exact gives_error
        | ok next => exact gives_ok ⟨sound.stack, trivial⟩
      cases part with
      | plain =>
          exact gives_ite (fun _ => gives_ok (sound_endText sound.stack isKey chars))
            fun _ => inText _
      | _ => exact inText _
  | number part draft =>
      have goesOn := gives_stepNumber sound.mode c part
      simp only [step]
      cases stepped : stepNumber part draft c with
      | error halt => exact gives_error
      | ok next =>
          cases next with
          | some next => exact gives_ok ⟨sound.stack, goesOn _ stepped⟩
          | none =>
              cases complete : endNumber part draft with
              | error cause => exact gives_error
              | ok value =>
                  exact gives_stepAfter (delivered (bounded_endNumber sound.mode complete 0)) c

end Step

/-- A text leads from sound states to sound states only, by induction over the text. -/
theorem Leads.sound {state final : State} {chars : List Char} (leads : Leads state chars final)
    (sound : state.Sound)
    : final.Sound := by
  induction leads with
  | stop _ => exact sound
  | read first _ ih => exact ih (gives_step sound _ _ first)

/-- What is complete when the text ends is well formed. -/
theorem bounded_of_finish {state : State} {value : Value} (sound : state.Sound)
    (finished : finish state = .ok value)
    : value.Bounded maxDepth := by
  obtain ⟨stack, mode⟩ := state
  cases mode with
  | done found =>
      cases finished
      exact sound.mode
  | number part draft =>
      simp only [finish] at finished
      cases complete : endNumber part draft with
      | error cause => simp [complete] at finished
      | ok found =>
          rw [complete] at finished
          cases stack with
          | nil =>
              cases finished
              exact bounded_endNumber sound.mode complete maxDepth
          | cons frame rest => cases frame <;> cases finished
  | _ => cases finished

end Reader

/-- A value that was read from a text has distinct keys in each object and integers in range, and
it is nested to a limited depth.
-/
theorem bounded_of_read {text : String} {value : Value} (accepted : read text = .ok value)
    : value.Bounded Reader.maxDepth := by
  obtain ⟨final, leads, finished⟩ :=
    Reader.readChars_eq_ok_iff.mp (read_eq_ok_iff.mp accepted)
  have start : Reader.State.start.Sound := ⟨trivial, trivial⟩
  exact Reader.bounded_of_finish (leads.sound start) finished

namespace Value

/-- The value holds no floating-point number at any depth. -/
def Floatless (value : Value) : Prop :=
  ∀ bits, Number.float bits ∉ value.numbers

/-- Without floating-point numbers all numbers of a well-formed value are exact. -/
theorem Bounded.readable {limit : Nat} {value : Value} (bounded : value.Bounded limit)
    (floatless : value.Floatless)
    : value.Readable limit := by
  refine ⟨Tree.WellFormed.of_numbers value bounded.formed ?_, bounded.shallow⟩
  intro number mem inRange
  cases number with
  | integer value => exact inRange
  | float bits => exact (floatless bits mem).elim

end Value

end ClonePlanner.Json
