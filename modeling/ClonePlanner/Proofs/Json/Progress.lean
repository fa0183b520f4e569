import ClonePlanner.Json.Reader

/-! Progress of the reader along a text. A text leads from one state to another at whatever
offset it stands, so that the parts of a text can be followed one by one. A value may begin
wherever the reader awaits one, and a number ends only with the character behind it, so the
state behind a value is described by how it goes on.
-/

namespace ClonePlanner.Json

namespace Reader

/-- Reading the characters leads from one state to another without a refusal. -/
inductive Leads : State → List Char → State → Prop where
  | stop (state : State) : Leads state [] state
  | read {state next final : State} {c : Char} {rest : List Char}
      (first : step state c = .ok next) (more : Leads next rest final)
      : Leads state (c :: rest) final

theorem Leads.one {state next : State} {c : Char} (h : step state c = .ok next)
    : Leads state [c] next :=
  .read h (.stop next)

/-- Texts that follow each other lead on, by induction over the first one. -/
theorem Leads.append {state middle final : State} {left right : List Char}
    (h : Leads state left middle) (more : Leads middle right final)
    : Leads state (left ++ right) final := by
  induction h with
  | stop _ => exact more
  | read first _ ih => exact .read first (ih more)

/-- A text in two parts leads on from the state between them, by induction over the first one. -/
theorem Leads.of_append {state final : State} {left right : List Char}
    (h : Leads state (left ++ right) final)
    : ∃ middle, Leads state left middle ∧ Leads middle right final := by
  induction left generalizing state with
  | nil => exact ⟨state, .stop state, h⟩
  | cons c rest ih =>
      cases h with
      | read first more =>
          obtain ⟨middle, before, after⟩ := ih more
          exact ⟨middle, .read first before, after⟩

/-- A text that leads to a state is read up to it, whatever the offset, by induction over the
text.
-/
theorem Leads.run {state final : State} {chars : List Char} (h : Leads state chars final)
    (offset : Nat)
    : run state offset chars = .ok final := by
  induction h generalizing offset with
  | stop _ => rfl
  | @read _ _ _ c _ first _ ih => simp only [Reader.run, first, ih (offset + c.utf8Size)]

/-- What is read without a refusal leads to the state behind it, by induction over the text. -/
theorem leads_of_run {state final : State} {offset : Nat} {chars : List Char}
    (read : run state offset chars = .ok final)
    : Leads state chars final := by
  induction chars generalizing state offset with
  | nil =>
      cases read
      exact .stop _
  | cons c rest ih =>
      rw [run] at read
      cases first : step state c with
      | error halt =>
          rw [first] at read
          cases read
      | ok next =>
          rw [first] at read
          exact .read first (ih read)

/-- A text is a document if it leads to a state in which it may end. -/
theorem readChars_eq_ok_iff {chars : List Char} {value : Value}
    : readChars chars = .ok value
      ↔ ∃ final, Leads .start chars final ∧ finish final = .ok value := by
  constructor
  · intro read
    rw [readChars] at read
    cases ran : run .start 0 chars with
    | error fault =>
        rw [ran] at read
        cases read
    | ok final =>
        rw [ran] at read
        cases finished : finish final with
        | error cause => simp [finished] at read
        | ok found =>
            simp only [finished, Except.ok.injEq] at read
            exact ⟨final, leads_of_run ran, read ▸ finished⟩
  · rintro ⟨final, leads, finished⟩
    rw [readChars, leads.run]
    simp only [finished]

/-- Nothing but blanks. -/
def Blanks (chars : List Char) : Prop :=
  ∀ c ∈ chars, isBlank c = true

theorem blanks_nil : Blanks [] := by
  simp [Blanks]

/-- A blank changes nothing here. -/
def Skips (state : State) : Prop :=
  ∀ c, isBlank c = true → step state c = .ok state

/-- Blanks are skipped where a single one is, by induction over them. -/
theorem leads_blanks {state : State} (skips : Skips state) {gap : List Char}
    (blanks : Blanks gap)
    : Leads state gap state := by
  induction gap with
  | nil => exact .stop state
  | cons c rest ih =>
      obtain ⟨first, later⟩ := List.forall_mem_cons.mp blanks
      exact .read (skips c first) (ih later)

/-- A value may begin here, inside the containers of the stack. The bracket is left out since
it ends an array in which no item has been read.
-/
structure Awaits (stack : List Frame) (state : State) : Prop where
  skips : Skips state
  opens : ∀ {c : Char}, isBlank c = false → c ≠ ']' → step state c = openValue stack c

theorem awaits_value (stack : List Frame) : Awaits stack ⟨stack, .value⟩ := by
  constructor <;> intro c blank <;> simp [step, stepBefore, blank]

theorem awaits_firstItem (stack : List Frame) : Awaits stack ⟨stack, .firstItem⟩ := by
  constructor <;> intro c blank <;> simp +contextual [step, stepBefore, blank]

theorem awaits_nextItem (stack : List Frame) : Awaits stack ⟨stack, .nextItem⟩ := by
  constructor <;> intro c blank <;> simp +contextual [step, stepBefore, blank]

/-- The characters that may follow a value: blanks, a comma and the two closing brackets. -/
def Follows (c : Char) : Prop :=
  isBlank c = true ∨ c = ',' ∨ c = ']' ∨ c = '\x7d'

/-- The first state goes on as the second one does, at the end of the text as well as before
any character that may follow a value.
-/
structure Settled (state delivered : State) : Prop where
  step : ∀ {c : Char}, Follows c → step state c = step delivered c
  finish : finish state = finish delivered

theorem Settled.refl (state : State) : Settled state state :=
  ⟨fun _ => rfl, rfl⟩

theorem step_deliver (value : Value) (stack : List Frame) (c : Char)
    : step (deliver value stack) c = stepAfter (deliver value stack) c := by
  cases stack with
  | nil => rfl
  | cons frame rest => cases frame <;> rfl

/-- Blanks behind a value are skipped, and the character behind them is read as if it stood
directly behind the value, by cases on whether there are any.
-/
theorem Settled.follow {state delivered next : State} (settled : Settled state delivered)
    (skips : Skips delivered) {gap : List Char} (blanks : Blanks gap) {c : Char}
    (follows : Follows c) (after : Reader.step delivered c = .ok next)
    : Leads state (gap ++ [c]) next := by
  cases gap with
  | nil => exact .one ((settled.step follows).trans after)
  | cons first rest =>
      obtain ⟨blank, later⟩ := List.forall_mem_cons.mp blanks
      have begun : Reader.step state first = .ok delivered :=
        (settled.step (.inl blank)).trans (skips first blank)
      exact .read begun ((leads_blanks skips later).append (.one after))

/-- Wherever a value may begin inside the containers of the stack, the characters are read as
the value.
-/
def Reads (stack : List Frame) (chars : List Char) (value : Value) : Prop :=
  ∀ state, Awaits stack state →
    ∃ closed, Leads state chars closed ∧ Settled closed (deliver value stack)

end Reader

theorem read_eq_ok_iff {text : String} {value : Value}
    : read text = .ok value ↔ Reader.readChars text.toList = .ok value := by
  unfold read
  split
  case h_1 found read => simp [read]
  case h_2 read => simp [read]

/-- A text is a document if its characters are read as a value with nothing around it. -/
theorem read_of_reads {text : String} {value : Value}
    (reads : Reader.Reads [] text.toList value)
    : read text = .ok value := by
  obtain ⟨closed, leads, settled⟩ := reads _ (Reader.awaits_value [])
  exact read_eq_ok_iff.mpr (Reader.readChars_eq_ok_iff.mpr ⟨closed, leads, settled.finish⟩)

end ClonePlanner.Json
