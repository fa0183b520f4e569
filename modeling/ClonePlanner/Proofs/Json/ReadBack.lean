import ClonePlanner.Proofs.Json.Trees
import ClonePlanner.Proofs.Json.WrittenTokens

/-! A written document is read as itself. The proof follows the writer through the tree: an item
or a field leaves the container around it with one more part, whatever the container held
before, and the blanks of a style are skipped wherever the writer puts them.
-/

namespace ClonePlanner.Json

/-- A style that puts nothing but blanks between tokens. -/
structure Style.Blank (style : Style) : Prop where
  gap : ∀ level, Reader.Blanks (style.gap level)
  afterColon : Reader.Blanks style.afterColon

theorem Style.blank_compact : Style.compact.Blank :=
  ⟨by simp [compact, Reader.Blanks], by simp [compact, Reader.Blanks]⟩

theorem Style.blank_pretty : Style.pretty.Blank := by
  constructor
  · intro level c mem
    rcases List.mem_cons.mp mem with rfl | spaces
    · decide
    · rw [List.eq_of_mem_replicate spaces]
      decide
  · simp [pretty, Reader.Blanks, Reader.isBlank]

/-- An integer in range: a number that is read exactly as it was written. -/
def Number.Exact : Number → Prop
  | .integer value => Number.InRange (.integer value)
  | .float _ => False

namespace Reader

variable {stack : List Frame}

/-- Where a value may begin, a bracket opens a container as long as there is room. -/
theorem step_open {state : State} (awaits : Awaits stack state)
    (room : stack.length < maxDepth) {c : Char} {frame : Frame} {mode : Mode}
    (visible : isBlank c = false ∧ c ≠ ']')
    (opens : openValue stack c = openFrame frame mode stack)
    : step state c = .ok ⟨frame :: stack, mode⟩ := by
  rw [awaits.opens visible.1 visible.2, opens]
  exact if_pos room

section Arrays

/-- Behind an item of an array, the characters are read as further items. -/
def ItemsFollow (stack : List Frame) (chars : List Char) (items : List Value) : Prop :=
  ∀ (done : List Value) (state : State), Settled state ⟨.array done :: stack, .itemEnd⟩ →
    ∃ closed, Leads state chars closed
      ∧ Settled closed ⟨.array (items.reverse ++ done) :: stack, .itemEnd⟩

theorem skips_itemEnd (stack : List Frame) : Skips ⟨stack, .itemEnd⟩ := by
  intro c blank
  simp [step, stepAfter, blank]

theorem itemsFollow_nil : ItemsFollow stack [] [] :=
  fun _ state settled => ⟨state, .stop state, settled⟩

/-- One more item behind a comma. -/
theorem itemsFollow_cons {gap itemChars restChars : List Char} {item : Value}
    {rest : List Value} (blanks : Blanks gap)
    (itemRead : ∀ done, Reads (.array done :: stack) itemChars item)
    (restRead : ItemsFollow stack restChars rest)
    : ItemsFollow stack (',' :: gap ++ itemChars ++ restChars) (item :: rest) := by
  intro done state settled
  have comma : Leads state [','] ⟨.array done :: stack, .nextItem⟩ :=
    .one ((settled.step (.inr (.inl rfl))).trans rfl)
  have awaits := awaits_nextItem (.array done :: stack)
  obtain ⟨itemClosed, itemLeads, itemSettled⟩ := itemRead done _ awaits
  obtain ⟨closed, restLeads, restSettled⟩ := restRead (item :: done) _ itemSettled
  refine ⟨closed, ?_, by simpa using restSettled⟩
  exact ((comma.append (leads_blanks awaits.skips blanks)).append itemLeads).append restLeads

theorem reads_emptyArray (room : stack.length < maxDepth)
    : Reads stack ['[', ']'] (.array []) := by
  intro state awaits
  have opened : step state '[' = .ok ⟨.array [] :: stack, .firstItem⟩ :=
    step_open awaits room (by decide) rfl
  exact ⟨deliver (.array []) stack, .read opened (.one rfl), .refl _⟩

/-- An array is read if its first item and the further ones are. -/
theorem reads_array {gap endGap itemChars restChars : List Char} {item : Value}
    {rest : List Value} (room : stack.length < maxDepth)
    (blanks : Blanks gap) (endBlanks : Blanks endGap)
    (itemRead : ∀ done, Reads (.array done :: stack) itemChars item)
    (restRead : ItemsFollow stack restChars rest)
    : Reads stack ('[' :: gap ++ itemChars ++ restChars ++ endGap ++ [']'])
        (.array (item :: rest)) := by
  intro state awaits
  have opened : step state '[' = .ok ⟨.array [] :: stack, .firstItem⟩ :=
    step_open awaits room (by decide) rfl
  have inside := awaits_firstItem (.array [] :: stack)
  obtain ⟨itemClosed, itemLeads, itemSettled⟩ := itemRead [] _ inside
  obtain ⟨restClosed, restLeads, restSettled⟩ := restRead [item] _ itemSettled
  have ended : Leads restClosed (endGap ++ [']']) (deliver (.array (item :: rest)) stack) :=
    restSettled.follow (skips_itemEnd _) endBlanks (.inr (.inr (.inl rfl)))
      (by simp [step, stepAfter, isBlank, close])
  refine ⟨_, ?_, .refl _⟩
  have toItems := (leads_blanks inside.skips blanks).append (itemLeads.append restLeads)
  simpa using Leads.read opened (toItems.append ended)

end Arrays

section Objects

/-- Behind a field of an object, the characters are read as further fields. -/
def FieldsFollow (stack : List Frame) (chars : List Char) (fields : List (String × Value))
    : Prop :=
  ∀ (done : List (String × Value)) (last : String) (state : State),
    (Entries.keys (done ++ fields)).Nodup →
    Settled state ⟨.object done last :: stack, .fieldEnd⟩ →
      ∃ closed key, Leads state chars closed
        ∧ Settled closed ⟨.object (done ++ fields) key :: stack, .fieldEnd⟩

theorem skips_fieldEnd (stack : List Frame) : Skips ⟨stack, .fieldEnd⟩ := by
  intro c blank
  simp [step, stepAfter, blank]

/-- A key may begin here. -/
def KeyDue (mode : Mode) : Prop :=
  mode = .firstKey ∨ mode = .nextKey

/-- Where a key may begin, a written key with its colon is kept for the value that is due. -/
theorem leads_key {mode : Mode} (due : KeyDue mode) {gap colonGap : List Char}
    (blanks : Blanks gap) (colonBlanks : Blanks colonGap)
    (done : List (String × Value)) (last key : String)
    : Leads ⟨.object done last :: stack, mode⟩ (gap ++ writeString key ++ ':' :: colonGap)
        ⟨.object done key :: stack, .value⟩ := by
  have skips : Skips ⟨.object done last :: stack, mode⟩ := by
    intro c blank
    rcases due with rfl | rfl <;> simp [step, stepBefore, blank]
  have opened : step ⟨.object done last :: stack, mode⟩ '"'
      = .ok ⟨.object done last :: stack, .text true .plain []⟩ := by
    rcases due with rfl | rfl <;> rfl
  have text : Leads ⟨.object done last :: stack, .text true .plain []⟩
      (key.toList.flatMap escapedChar ++ ['"']) ⟨.object done key :: stack, .colon⟩ := by
    simpa [endText] using leads_text (.object done last :: stack) true key
  have colon : step ⟨.object done key :: stack, .colon⟩ ':'
      = .ok ⟨.object done key :: stack, .value⟩ :=
    rfl
  have value := (awaits_value (.object done key :: stack)).skips
  exact ((leads_blanks skips blanks).append (.read opened text)).append
    (.read colon (leads_blanks value colonBlanks))

/-- Where a key may begin, a written field is read as one more field of the object. -/
theorem leads_field {mode : Mode} (due : KeyDue mode) {gap colonGap valueChars : List Char}
    (blanks : Blanks gap) (colonBlanks : Blanks colonGap)
    {done : List (String × Value)} (last : String) {key : String} {value : Value}
    (fresh : key ∉ Entries.keys done)
    (valueRead : Reads (.object done key :: stack) valueChars value)
    : ∃ closed,
        Leads ⟨.object done last :: stack, mode⟩
          (gap ++ writeString key ++ ':' :: colonGap ++ valueChars) closed
        ∧ Settled closed ⟨.object (done ++ [(key, value)]) key :: stack, .fieldEnd⟩ := by
  obtain ⟨closed, valueLeads, settled⟩ := valueRead _ (awaits_value _)
  simp only [deliver, Entries.put_of_not_mem fresh] at settled
  exact ⟨closed, (leads_key due blanks colonBlanks done last key).append valueLeads, settled⟩

theorem fieldsFollow_nil : FieldsFollow stack [] [] := by
  intro done last state _ settled
  exact ⟨state, last, .stop state, by simpa using settled⟩

/-- One more field behind a comma. -/
theorem fieldsFollow_cons {gap colonGap valueChars restChars : List Char} {key : String}
    {value : Value} {rest : List (String × Value)} (blanks : Blanks gap)
    (colonBlanks : Blanks colonGap)
    (valueRead : ∀ done, Reads (.object done key :: stack) valueChars value)
    (restRead : FieldsFollow stack restChars rest)
    : FieldsFollow stack
        (',' :: gap ++ writeString key ++ ':' :: colonGap ++ valueChars ++ restChars)
        ((key, value) :: rest) := by
  intro done last state distinct settled
  have fresh : key ∉ Entries.keys done := by
    simp only [Entries.keys_append, Entries.keys_cons, List.nodup_append] at distinct
    exact fun known => distinct.2.2 key known key (List.mem_cons_self ..) rfl
  have comma : step state ',' = .ok ⟨.object done last :: stack, .nextKey⟩ :=
    (settled.step (.inr (.inl rfl))).trans rfl
  obtain ⟨valueClosed, fieldLeads, fieldSettled⟩ :=
    leads_field (.inr rfl) blanks colonBlanks last fresh (valueRead done)
  obtain ⟨closed, lastKey, restLeads, restSettled⟩ :=
    restRead (done ++ [(key, value)]) key valueClosed (by simpa using distinct) fieldSettled
  refine ⟨closed, lastKey, ?_, by simpa using restSettled⟩
  simpa using Leads.read comma (fieldLeads.append restLeads)

theorem reads_emptyObject (room : stack.length < maxDepth)
    : Reads stack ['\x7b', '\x7d'] (.object []) := by
  intro state awaits
  have opened : step state '\x7b' = .ok ⟨.object [] "" :: stack, .firstKey⟩ :=
    step_open awaits room (by decide) rfl
  exact ⟨deliver (.object []) stack, .read opened (.one rfl), .refl _⟩

/-- An object with distinct keys is read if its first field and the further ones are. -/
theorem reads_object {gap colonGap endGap valueChars restChars : List Char} {key : String}
    {value : Value} {rest : List (String × Value)} (room : stack.length < maxDepth)
    (distinct : (Entries.keys ((key, value) :: rest)).Nodup)
    (blanks : Blanks gap) (colonBlanks : Blanks colonGap)
    (endBlanks : Blanks endGap)
    (valueRead : ∀ done, Reads (.object done key :: stack) valueChars value)
    (restRead : FieldsFollow stack restChars rest)
    : Reads stack
        ('\x7b' :: gap ++ writeString key ++ ':' :: colonGap ++ valueChars ++ restChars ++ endGap
          ++ ['\x7d'])
        (.object ((key, value) :: rest)) := by
  intro state awaits
  have opened : step state '\x7b' = .ok ⟨.object [] "" :: stack, .firstKey⟩ :=
    step_open awaits room (by decide) rfl
  obtain ⟨valueClosed, fieldLeads, fieldSettled⟩ :=
    leads_field (.inl rfl) blanks colonBlanks "" (by simp) (valueRead [])
  obtain ⟨restClosed, lastKey, restLeads, restSettled⟩ :=
    restRead [(key, value)] key valueClosed distinct fieldSettled
  have ended : Leads restClosed (endGap ++ ['\x7d'])
      (deliver (.object ((key, value) :: rest)) stack) :=
    restSettled.follow (skips_fieldEnd _) endBlanks (.inr (.inr (.inr rfl)))
      (by simp [step, stepAfter, isBlank, close])
  refine ⟨_, ?_, .refl _⟩
  simpa using Leads.read opened ((fieldLeads.append restLeads).append ended)

end Objects

section Trees

variable {style : Style} (blank : style.Blank)
include blank

mutual

/-- A written tree with distinct keys and exact integers is read as itself, as long as its
containers have room on the stack.
-/
theorem reads_chars (tree : Value) (stack : List Frame) (level : Nat)
    (formed : Tree.WellFormed Number.Exact tree) (room : stack.length + tree.depth ≤ maxDepth)
    : Reads stack (tree.chars style writeNumber level) tree := by
  cases tree with
  | null => exact reads_word stack rfl (by decide) (by decide)
  | bool value =>
      cases value with
      | true => exact reads_word stack rfl (by decide) (by decide)
      | false => exact reads_word stack rfl (by decide) (by decide)
  | number value =>
      cases value with
      | integer value => exact reads_integer stack formed
      | float bits => exact formed.elim
  | string text => exact reads_string stack text
  | array items =>
      simp only [Tree.depth] at room
      cases items with
      | nil => exact reads_emptyArray (by omega)
      | cons item rest =>
          simp only [Tree.depthItems] at room
          have itemRead (done : List Value) :=
            reads_chars item (.array done :: stack) (level + 1) formed.1
              (by simp only [List.length_cons]; omega)
          have restRead := reads_itemChars rest stack (level + 1) formed.2 (by omega)
          exact reads_array (by omega) (blank.gap (level + 1)) (blank.gap level) itemRead restRead
  | object fields =>
      simp only [Tree.depth] at room
      cases fields with
      | nil => exact reads_emptyObject (by omega)
      | cons field rest =>
          obtain ⟨key, value⟩ := field
          simp only [Tree.depthFields] at room
          obtain ⟨distinct, valueFormed, restFormed⟩ := formed
          have valueRead (done : List (String × Value)) :=
            reads_chars value (.object done key :: stack) (level + 1) valueFormed
              (by simp only [List.length_cons]; omega)
          have restRead := reads_fieldChars rest stack (level + 1) restFormed (by omega)
          exact reads_object (by omega) distinct (blank.gap (level + 1)) blank.afterColon
            (blank.gap level) valueRead restRead
termination_by structural tree

/-- Written items behind a first one are read as further items. -/
theorem reads_itemChars (items : List Value) (stack : List Frame) (level : Nat)
    (formed : Tree.WellFormedItems Number.Exact items)
    (room : stack.length + 1 + Tree.depthItems items ≤ maxDepth)
    : ItemsFollow stack (Tree.itemChars style writeNumber level items) items := by
  cases items with
  | nil => exact itemsFollow_nil
  | cons item rest =>
      simp only [Tree.depthItems] at room
      have itemRead (done : List Value) :=
        reads_chars item (.array done :: stack) level formed.1
          (by simp only [List.length_cons]; omega)
      have restRead := reads_itemChars rest stack level formed.2 (by omega)
      exact itemsFollow_cons (blank.gap level) itemRead restRead
termination_by structural items

/-- Written fields behind a first one are read as further fields. -/
theorem reads_fieldChars (fields : List (String × Value)) (stack : List Frame) (level : Nat)
    (formed : Tree.WellFormedFields Number.Exact fields)
    (room : stack.length + 1 + Tree.depthFields fields ≤ maxDepth)
    : FieldsFollow stack (Tree.fieldChars style writeNumber level fields) fields := by
  cases fields with
  | nil => exact fieldsFollow_nil
  | cons field rest =>
      obtain ⟨key, value⟩ := field
      simp only [Tree.depthFields] at room
      have valueRead (done : List (String × Value)) :=
        reads_chars value (.object done key :: stack) level formed.1
          (by simp only [List.length_cons]; omega)
      have restRead := reads_fieldChars rest stack level formed.2 (by omega)
      exact fieldsFollow_cons (blank.gap level) blank.afterColon valueRead restRead
termination_by structural fields

end

end Trees

end Reader

/-- A value that is read as it was written: distinct keys, exact integers, and containers that
are nested to a limited depth.
-/
structure Value.Readable (limit : Nat) (value : Value) : Prop where
  formed : Tree.WellFormed Number.Exact value
  shallow : value.depth ≤ limit

namespace Value

variable {limit : Nat}

theorem Readable.mono {more : Nat} {value : Value} (h : value.Readable limit)
    (le : limit ≤ more)
    : value.Readable more :=
  ⟨h.formed, Nat.le_trans h.shallow le⟩

theorem readable_bool (value : Bool) : Readable limit (.bool value) :=
  ⟨trivial, Nat.zero_le limit⟩

theorem readable_string (text : String) : Readable limit (.string text) :=
  ⟨trivial, Nat.zero_le limit⟩

theorem readable_integer {value : Int} (range : Number.InRange (.integer value))
    : Readable limit (.number (.integer value)) :=
  ⟨range, Nat.zero_le limit⟩

/-- An array is readable one level further up than its items. -/
theorem readable_array {items : List Value} (inside : ∀ item ∈ items, Readable limit item)
    : Readable (limit + 1) (.array items) := by
  have formed := Tree.wellFormedItems_iff.mpr fun item mem => (inside item mem).formed
  have shallow := Tree.depthItems_le_iff.mpr fun item mem => (inside item mem).shallow
  exact ⟨formed, Nat.succ_le_succ shallow⟩

/-- An object with distinct keys is readable one level further up than its values. -/
theorem readable_object {fields : List (String × Value)} (distinct : (Entries.keys fields).Nodup)
    (inside : ∀ field ∈ fields, Readable limit field.2)
    : Readable (limit + 1) (.object fields) := by
  have formed := Tree.wellFormedFields_iff.mpr fun field mem => (inside field mem).formed
  have shallow := Tree.depthFields_le_iff.mpr fun field mem => (inside field mem).shallow
  exact ⟨⟨distinct, formed⟩, Nat.succ_le_succ shallow⟩

end Value

/-- A written document is read as itself, in every style that adds blanks only: distinct keys
keep their order, exact integers are in range, and the reader has room for all open containers.
-/
theorem read_write {style : Style} (blank : style.Blank) {value : Value}
    (readable : value.Readable Reader.maxDepth)
    : read (write style value) = .ok value := by
  have whole := Reader.reads_chars blank value [] 0 readable.formed
    (by simpa using readable.shallow)
  apply read_of_reads
  rw [write, String.toList_ofList]
  exact whole

end ClonePlanner.Json
