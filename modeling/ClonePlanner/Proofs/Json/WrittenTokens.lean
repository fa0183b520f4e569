import ClonePlanner.Json.Writer
import ClonePlanner.Proofs.Json.Progress

/-! Written strings and integers are read as what they stand for. A string is followed escape
by escape; an integer is followed digit by digit, and none of its leading parts exceeds it, so
all digits fit the significand.
-/

namespace ClonePlanner.Json.Reader

section Strings

variable (stack : List Frame) (isKey : Bool)

/-- A character inside a string is read by `stepText`, unless it ends the string. -/
theorem step_text {part next : TextPart} {chars more : List Char} {c : Char}
    (h : stepText part chars c = .ok (next, more)) (inside : part = .plain → c ≠ '"')
    : step ⟨stack, .text isKey part chars⟩ c = .ok ⟨stack, .text isKey next more⟩ := by
  cases part with
  | plain => simp only [step, inside rfl, if_false, h, Except.map]
  | escape => simp only [step, h, Except.map]
  | hex high count value => simp only [step, h, Except.map]
  | spoiled left => simp only [step, h, Except.map]
  | surrogate high => simp only [step, h, Except.map]
  | surrogateMark high => simp only [step, h, Except.map]

/-- A backslash with the letter of an escape is read as the character it stands for. -/
theorem leads_shortEscape {letter c : Char} (letterNotU : letter ≠ 'u')
    (known : escaped? letter = some c) (chars : List Char)
    : Leads ⟨stack, .text isKey .plain chars⟩ ['\\', letter]
        ⟨stack, .text isKey .plain (c :: chars)⟩ := by
  have mark : stepText .plain chars '\\' = .ok (.escape, chars) := rfl
  have ends : stepText .escape chars letter = .ok (.plain, c :: chars) := by
    simp only [stepText, letterNotU, if_false, known]
  exact .read (step_text stack isKey mark fun _ => by decide)
    (.one (step_text stack isKey ends (by simp)))

theorem hexDigit?_digitChar : ∀ d < 16, hexDigit? (Nat.digitChar d) = some d := by
  decide

theorem step_hexDigit {count value d : Nat} (small : d < 16) (early : count ≠ 3)
    (chars : List Char)
    : step ⟨stack, .text isKey (.hex none count value) chars⟩ (Nat.digitChar d)
      = .ok ⟨stack, .text isKey (.hex none (count + 1) (value * 16 + d)) chars⟩ := by
  apply step_text stack isKey
  · simp only [stepText, hexDigit?_digitChar d small, early, if_false]
  · simp

/-- The last digit of an escape completes a control character, which is half of no pair. -/
theorem step_lastHexDigit {value d : Nat} {c : Char} (small : d < 16)
    (whole : value * 16 + d = c.toNat) (control : c.toNat < 0x20) (chars : List Char)
    : step ⟨stack, .text isKey (.hex none 3 value) chars⟩ (Nat.digitChar d)
      = .ok ⟨stack, .text isKey .plain (c :: chars)⟩ := by
  have notHigh : isHigh c.toNat = false := by
    simp only [isHigh, Bool.and_eq_false_iff, decide_eq_false_iff_not]
    omega
  have notLow : isLow c.toNat = false := by
    simp only [isLow, Bool.and_eq_false_iff, decide_eq_false_iff_not]
    omega
  apply step_text stack isKey
  · simp [stepText, hexDigit?_digitChar d small, whole, endHex, notHigh, notLow]
  · simp

/-- Four digits that stand for a control character are read as it. -/
theorem leads_longEscape {c : Char} (control : c.toNat < 0x20) (chars : List Char)
    : Leads ⟨stack, .text isKey .plain chars⟩
        ['\\', 'u', '0', '0', Nat.digitChar (c.toNat / 16), Nat.digitChar (c.toNat % 16)]
        ⟨stack, .text isKey .plain (c :: chars)⟩ := by
  have mark : stepText .plain chars '\\' = .ok (.escape, chars) := rfl
  have letter : stepText .escape chars 'u' = .ok (.hex none 0 0, chars) := rfl
  refine .read (step_text stack isKey mark fun _ => by decide) ?_
  refine .read (step_text stack isKey letter (by simp)) ?_
  refine .read (step_hexDigit stack isKey (d := 0) (by omega) (by omega) chars) ?_
  refine .read (step_hexDigit stack isKey (d := 0) (by omega) (by omega) chars) ?_
  refine .read (step_hexDigit stack isKey (by omega) (by omega) chars) ?_
  exact .one (step_lastHexDigit stack isKey (by omega) (by omega) control chars)

/-- A written character is read as itself, by cases on how it is escaped. -/
theorem leads_escapedChar (c : Char) (chars : List Char)
    : Leads ⟨stack, .text isKey .plain chars⟩ (escapedChar c)
        ⟨stack, .text isKey .plain (c :: chars)⟩ := by
  unfold escapedChar
  -- the seven characters with an escape of their own
  iterate 7
    split
    · subst c
      exact leads_shortEscape stack isKey (by decide) rfl chars
  split
  case isTrue control => exact leads_longEscape stack isKey control chars
  case isFalse notQuote notBackslash _ _ _ _ _ notControl =>
    have same : stepText .plain chars c = .ok (.plain, c :: chars) := by
      simp only [stepText, notBackslash, notControl, if_false]
    exact .one (step_text stack isKey same fun _ => notQuote)

/-- Written characters are read one after another, by induction over them. -/
theorem leads_escapedChars (chars before : List Char)
    : Leads ⟨stack, .text isKey .plain before⟩ (chars.flatMap escapedChar)
        ⟨stack, .text isKey .plain (chars.reverse ++ before)⟩ := by
  induction chars generalizing before with
  | nil => exact .stop _
  | cons c rest ih =>
      simp only [List.flatMap_cons, List.reverse_cons, List.append_assoc, List.singleton_append]
      exact (leads_escapedChar stack isKey c before).append (ih (c :: before))

/-- Behind its opening quote a written string is read up to the quote that ends it. -/
theorem leads_text (text : String)
    : Leads ⟨stack, .text isKey .plain []⟩ (text.toList.flatMap escapedChar ++ ['"'])
        (endText isKey text.toList.reverse stack) := by
  have inside := leads_escapedChars stack isKey text.toList []
  rw [List.append_nil] at inside
  exact inside.append (.one rfl)

theorem reads_string (text : String) : Reads stack (writeString text) (.string text) := by
  intro state awaits
  have opened : step state '"' = .ok ⟨stack, .text false .plain []⟩ := by
    rw [awaits.opens (by decide) (by decide)]
    rfl
  have delivered : endText false text.toList.reverse stack = deliver (.string text) stack := by
    simp [endText]
  refine ⟨deliver (.string text) stack, ?_, .refl _⟩
  rw [← delivered]
  exact .read opened (leads_text stack false text)

end Strings

section Words

variable (stack : List Frame)

/-- A word is read letter by letter, by induction over what is due. -/
theorem leads_word {first : Char} {rest : List Char} (value : Value)
    : Leads ⟨stack, .word (first :: rest) value⟩ (first :: rest) (deliver value stack) := by
  induction rest generalizing first with
  | nil => exact .one (by simp [step])
  | cons second rest ih => exact .read (by simp [step]) ih

theorem reads_word {first second : Char} {rest : List Char} {value : Value}
    (opens : openValue stack first = .ok ⟨stack, .word (second :: rest) value⟩)
    (visible : isBlank first = false) (notEnd : first ≠ ']')
    : Reads stack (first :: second :: rest) value := by
  intro state awaits
  have opened : step state first = .ok ⟨stack, .word (second :: rest) value⟩ :=
    (awaits.opens visible notEnd).trans opens
  exact ⟨_, .read opened (leads_word stack value), .refl _⟩

end Words

section Integers

variable (stack : List Frame)

/-- The reader behind the digits of a natural number. A leading zero admits no further digit. -/
def behindDigits (negative : Bool) (n : Nat) : State :=
  ⟨stack, .number (if n = 0 then .zero else .whole) ⟨⟨negative, n, 0⟩, false, 0⟩⟩

theorem digit_digitChar : ∀ d < 10, digit (Nat.digitChar d) = d := by
  decide

theorem isDigit_digitChar : ∀ d < 10, (Nat.digitChar d).isDigit = true := by
  decide

theorem digitChar_eq_zero : ∀ d < 10, Nat.digitChar d = '0' ↔ d = 0 := by
  decide

theorem wholeDigit_of_le {scan : Decimal.Scan} {d : Nat} (small : d < 10)
    (fits : scan.significand * 10 + d ≤ Decimal.Scan.limit)
    : wholeDigit scan (Nat.digitChar d)
      = (.whole, { scan with significand := scan.significand * 10 + d }) := by
  have appended : scan.append? d = some (scan.significand * 10 + d) := by
    rw [Decimal.Scan.append?]
    exact if_pos fits
  unfold wholeDigit
  rw [digit_digitChar d small, appended]

/-- One more digit, behind digits that are not a lone zero. -/
theorem step_behindDigits (negative : Bool) {n d : Nat} (small : d < 10) (positive : n ≠ 0)
    (fits : n * 10 + d ≤ Decimal.Scan.limit)
    : step (behindDigits stack negative n) (Nat.digitChar d)
      = .ok (behindDigits stack negative (n * 10 + d)) := by
  have more : n * 10 + d ≠ 0 := by omega
  have appended := @wholeDigit_of_le ⟨negative, n, 0⟩ d small fits
  simp only [step, behindDigits, positive, more, if_false, stepNumber, isDigit_digitChar d small,
    if_true, appended]

/-- The digits of a natural number are read as it, by induction over their number. -/
theorem leads_digits {start : State} {negative : Bool}
    (first : ∀ d < 10, step start (Nat.digitChar d) = .ok (behindDigits stack negative d))
    (n : Nat) (fits : n ≤ Decimal.Scan.limit)
    : Leads start (Nat.toDigits 10 n) (behindDigits stack negative n) := by
  induction n using Nat.strongRecOn with
  | ind n ih =>
      by_cases small : n < 10
      · rw [Nat.toDigits_of_lt_base small]
        exact .one (first n small)
      · have shorter := ih (n / 10) (by omega) (by omega)
        have whole : n / 10 * 10 + n % 10 = n := by omega
        have last : step (behindDigits stack negative (n / 10)) (Nat.digitChar (n % 10))
            = .ok (behindDigits stack negative (n / 10 * 10 + n % 10)) :=
          step_behindDigits stack negative (by omega) (by omega) (by omega)
        rw [whole] at last
        rw [Nat.toDigits_of_base_le (by decide) (by omega)]
        exact shorter.append (.one last)

/-- Behind the sign as well as at the start of a value the first digit is read alike. -/
theorem step_sign {d : Nat} (small : d < 10)
    : step ⟨stack, .number .sign (.start true)⟩ (Nat.digitChar d)
      = .ok (behindDigits stack true d) := by
  by_cases zero : d = 0
  · subst d; rfl
  · simp only [step, stepNumber, digitChar_eq_zero d small, zero, if_false,
      isDigit_digitChar d small, if_true, digit_digitChar d small]
    simp [behindDigits, zero, NumberDraft.start]

theorem openValue_digitChar {d : Nat} (small : d < 10)
    : openValue stack (Nat.digitChar d) = .ok (behindDigits stack false d) := by
  have digits : ∀ d < 10, Nat.digitChar d ≠ '[' ∧ Nat.digitChar d ≠ '\x7b'
      ∧ Nat.digitChar d ≠ '"' ∧ Nat.digitChar d ≠ 'n' ∧ Nat.digitChar d ≠ 't'
      ∧ Nat.digitChar d ≠ 'f' ∧ Nat.digitChar d ≠ '-' := by
    decide
  simp only [openValue, digits d small, if_false, isDigit_digitChar d small, if_true]
  by_cases zero : d = 0
  · subst d; rfl
  · simp [firstDigit, digitChar_eq_zero d small, digit_digitChar d small, behindDigits, zero,
      NumberDraft.start]

theorem Follows.notNumber {c : Char} (h : Follows c)
    : c.isDigit = false ∧ c ≠ '.' ∧ isMark c = false := by
  rcases h with blank | rfl | rfl | rfl
  · simp only [isBlank, Bool.or_eq_true, decide_eq_true_eq] at blank
    rcases blank with ((rfl | rfl) | rfl) | rfl <;> decide
  · decide
  · decide
  · decide

/-- An integer in range is what its digits and its sign stand for, and only the integers below
zero have a sign.
-/
theorem integer?_of_inRange {value : Int} (range : Number.InRange (.integer value))
    : integer? ⟨decide (value < 0), value.natAbs, 0⟩ = some value := by
  obtain ⟨least, greatest⟩ := range
  simp only [Number.minInteger] at least
  by_cases negative : value < 0
  · have inside : 0 < value.natAbs ∧ value.natAbs ≤ 9223372036854775808 := by omega
    have signed : -(value.natAbs : Int) = value := by omega
    simp only [integer?, negative, decide_true, if_true, inside, and_self, signed]
  · have unsigned : (value.natAbs : Int) = value := by omega
    simp only [integer?, negative, decide_false, Bool.false_eq_true, if_false, unsigned]

/-- A number that may be complete goes on as if it were delivered: what follows a value ends
it, and at the end of the text the innermost container misses its end either way.
-/
theorem settled_number {part : NumberPart} {draft : NumberDraft} {value : Value}
    (complete : endNumber part draft = .ok value)
    : Settled ⟨stack, .number part draft⟩ (deliver value stack) := by
  constructor
  · intro c follows
    obtain ⟨noDigit, noPoint, noMark⟩ := follows.notNumber
    have ended : stepNumber part draft c = .ok none := by
      cases part with
      | sign | point | mark | markSign => cases complete
      | zero | whole | longWhole | fraction | longFraction | exponent | vanished =>
          simp [stepNumber, noDigit, noPoint, noMark]
    rw [step_deliver]
    simp only [step, ended, complete]
  · cases stack with
    | nil => simp only [finish, complete, deliver]
    | cons frame rest => cases frame <;> simp only [finish, complete, deliver]

theorem settled_behindDigits {value : Int} (range : Number.InRange (.integer value))
    : Settled (behindDigits stack (decide (value < 0)) value.natAbs)
        (deliver (.number (.integer value)) stack) := by
  have read := integer?_of_inRange range
  by_cases zero : value.natAbs = 0
  · simp only [behindDigits, zero, if_true] at read ⊢
    exact settled_number stack (by simp only [endNumber, read])
  · simp only [behindDigits, zero, if_false] at read ⊢
    exact settled_number stack (by simp only [endNumber, read])

theorem natAbs_le_limit {value : Int} (range : Number.InRange (.integer value))
    : value.natAbs ≤ Decimal.Scan.limit := by
  simp only [Number.InRange, Number.minInteger, Number.maxInteger] at range
  simp only [Decimal.Scan.limit]
  omega

/-- A written integer in range is read as itself, by cases on its sign. -/
theorem reads_integer {value : Int} (range : Number.InRange (.integer value))
    : Reads stack (writeInteger value) (.number (.integer value)) := by
  intro state awaits
  refine ⟨_, ?_, settled_behindDigits stack range⟩
  have fits := natAbs_le_limit range
  by_cases negative : value < 0
  · have opened : step state '-' = .ok ⟨stack, .number .sign (.start true)⟩ := by
      rw [awaits.opens (by decide) (by decide)]
      rfl
    simp only [writeInteger, negative, if_true, List.singleton_append, decide_true]
    exact .read opened (leads_digits stack (fun d small => step_sign stack small) _ fits)
  · have first : ∀ d < 10, step state (Nat.digitChar d) = .ok (behindDigits stack false d) := by
      intro d small
      have visible : ∀ d < 10, isBlank (Nat.digitChar d) = false ∧ Nat.digitChar d ≠ ']' := by
        decide
      rw [awaits.opens (visible d small).1 (visible d small).2, openValue_digitChar stack small]
    simp only [writeInteger, negative, if_false, List.nil_append, decide_false]
    exact leads_digits stack first _ fits

end Integers

end ClonePlanner.Json.Reader
