import ClonePlanner.Decimal.Scan
import ClonePlanner.Json.SyntaxFault
import ClonePlanner.Json.Tree

/-!
Reading a JSON document one character at a time. The state is a stack of unfinished arrays and
objects and a mode that says what may come next, so reading a text is a fold of `step` over its
characters and what stands inside a container is read without regard to what lies around it.
-/

namespace ClonePlanner.Json

open ClonePlanner.Decimal (Scan)

namespace Reader

/-- A container whose end has not been read. -/
inductive Frame where
  /-- The items read so far, newest first. -/
  | array (items : List Value)
  /-- The fields read so far, and the key whose value is due. The key is empty before the
  first one.
  -/
  | object (fields : List (String × Value)) (key : String)

/-- Where the reader stands in a string. -/
inductive TextPart where
  | plain
  /-- After a backslash. -/
  | escape
  /-- In the four digits of an escape, which follow a high surrogate if one is given. -/
  | hex (high : Option Nat) (count : Nat) (value : Nat)
  /-- In an escape with a bad digit, `left` bytes before its end. -/
  | spoiled (left : Nat)
  /-- After a high surrogate. -/
  | surrogate (high : Nat)
  /-- After a high surrogate and a backslash. -/
  | surrogateMark (high : Nat)

/-- Where the reader stands in a number. -/
inductive NumberPart where
  | sign
  | zero
  | whole
  /-- In digits before the point that no longer fit the significand. -/
  | longWhole
  | point
  | fraction
  /-- In digits after the point that no longer fit the significand. -/
  | longFraction
  | mark
  | markSign
  | exponent
  /-- In an exponent so large that the number is zero. -/
  | vanished
deriving DecidableEq

/-- A number whose end has not been read. -/
structure NumberDraft where
  scan : Scan
  exponentNegative : Bool
  exponent : Nat

/-- What may come next. -/
inductive Mode where
  /-- A value. -/
  | value
  /-- The first item of an array, or its end. -/
  | firstItem
  /-- An item after a comma. -/
  | nextItem
  /-- A comma or the end of an array. -/
  | itemEnd
  /-- The first key of an object, or its end. -/
  | firstKey
  /-- A key after a comma. -/
  | nextKey
  /-- The colon after a key. -/
  | colon
  /-- A comma or the end of an object. -/
  | fieldEnd
  /-- The rest of a word that stands for a value. -/
  | word (rest : List Char) (value : Value)
  /-- The rest of a string, which is a key if `isKey` holds; the characters are newest first. -/
  | text (isKey : Bool) (part : TextPart) (chars : List Char)
  /-- The rest of a number. -/
  | number (part : NumberPart) (draft : NumberDraft)
  /-- Nothing but blanks: the document is complete. -/
  | done (value : Value)

/-- The state of the reader. -/
structure State where
  stack : List Frame
  mode : Mode

/-- A cause, and how many bytes past the start of the refused character it is reported. -/
structure Halt where
  cause : Cause
  reach : Nat

def State.start : State := ⟨[], .value⟩

/-- The greatest number of containers that may be open at once. -/
def maxDepth : Nat := 127

/-- Refuse the character read, with the fault reported just behind its first byte. -/
def refuse (cause : Cause) : Except Halt State :=
  .error ⟨cause, 1⟩

/-- Blanks between tokens. -/
def isBlank (c : Char) : Bool :=
  c = ' ' || c = '\t' || c = '\n' || c = '\r'

def digit (c : Char) : Nat :=
  c.toNat - '0'.toNat

def hexDigit? (c : Char) : Option Nat :=
  if c.isDigit then some (c.toNat - '0'.toNat)
  else if 'a' ≤ c ∧ c ≤ 'f' then some (c.toNat - 'a'.toNat + 10)
  else if 'A' ≤ c ∧ c ≤ 'F' then some (c.toNat - 'A'.toNat + 10)
  else none

/-- The state after a value is complete: it goes into the innermost open container. -/
def deliver (value : Value) : List Frame → State
  | [] => ⟨[], .done value⟩
  | .array items :: rest => ⟨.array (value :: items) :: rest, .itemEnd⟩
  | .object fields key :: rest => ⟨.object (Entries.put key value fields) key :: rest, .fieldEnd⟩

/-- The state after a bracket ends the innermost container. -/
def close : List Frame → State
  | [] => ⟨[], .done .null⟩
  | .array items :: rest => deliver (.array items.reverse) rest
  | .object fields _ :: rest => deliver (.object fields) rest

/-- The state after a bracket opens a container. -/
def openFrame (frame : Frame) (mode : Mode) (stack : List Frame) : Except Halt State :=
  if stack.length < maxDepth then .ok ⟨frame :: stack, mode⟩ else refuse .tooDeep

/-- A number before its first digit. -/
def NumberDraft.start (negative : Bool) : NumberDraft :=
  ⟨⟨negative, 0, 0⟩, false, 0⟩

/-- The state after the first digit of a number. -/
def firstDigit (stack : List Frame) (draft : NumberDraft) (c : Char) : State :=
  if c = '0' then
    ⟨stack, .number .zero draft⟩
  else
    ⟨stack, .number .whole { draft with scan := { draft.scan with significand := digit c } }⟩

/-- The state after the first character of a value. -/
def openValue (stack : List Frame) (c : Char) : Except Halt State :=
  if c = '[' then openFrame (.array []) .firstItem stack
  else if c = '\x7b' then openFrame (.object [] "") .firstKey stack
  else if c = '"' then .ok ⟨stack, .text false .plain []⟩
  else if c = 'n' then .ok ⟨stack, .word ['u', 'l', 'l'] .null⟩
  else if c = 't' then .ok ⟨stack, .word ['r', 'u', 'e'] (.bool true)⟩
  else if c = 'f' then .ok ⟨stack, .word ['a', 'l', 's', 'e'] (.bool false)⟩
  else if c = '-' then .ok ⟨stack, .number .sign (.start true)⟩
  else if c.isDigit then .ok (firstDigit stack (.start false) c)
  else refuse .noValue

/-- The state after a string is complete: a key is kept with its object. -/
def endText (isKey : Bool) (chars : List Char) (stack : List Frame) : State :=
  let text := String.ofList chars.reverse
  if isKey then
    match stack with
    | .object fields _ :: rest => ⟨.object fields text :: rest, .colon⟩
    | _ => ⟨stack, .colon⟩
  else
    deliver (.string text) stack

/-- The character that an escape letter stands for. -/
def escaped? (c : Char) : Option Char :=
  if c = '"' then some '"'
  else if c = '\\' then some '\\'
  else if c = '/' then some '/'
  else if c = 'b' then some '\x08'
  else if c = 'f' then some '\x0c'
  else if c = 'n' then some '\n'
  else if c = 'r' then some '\r'
  else if c = 't' then some '\t'
  else none

/-- A UTF-16 unit that opens a pair. -/
def isHigh (unit : Nat) : Bool :=
  0xD800 ≤ unit && unit < 0xDC00

/-- A UTF-16 unit that completes a pair. -/
def isLow (unit : Nat) : Bool :=
  0xDC00 ≤ unit && unit < 0xE000

def pair (high low : Nat) : Char :=
  Char.ofNat (0x10000 + (high - 0xD800) * 0x400 + (low - 0xDC00))

/-- What follows the four digits of an escape: a character, or the second half of a pair. -/
def endHex (high : Option Nat) (unit : Nat) (chars : List Char)
    : Except Halt (TextPart × List Char) :=
  match high with
  | some first =>
    if isLow unit then .ok (.plain, pair first unit :: chars)
    else .error ⟨.loneSurrogate, 1⟩
  | none =>
    if isHigh unit then .ok (.surrogate unit, chars)
    else if isLow unit then .error ⟨.loneSurrogate, 1⟩
    else .ok (.plain, Char.ofNat unit :: chars)

/-- A character inside an escape with a bad digit: the fault lies at the end of the four bytes
that belong to the escape.
-/
def spoil (left : Nat) (chars : List Char) (c : Char) : Except Halt (TextPart × List Char) :=
  if left ≤ c.utf8Size then .error ⟨.badEscape, left⟩
  else .ok (.spoiled (left - c.utf8Size), chars)

/-- One character inside a string, other than the quote that ends it. -/
def stepText (part : TextPart) (chars : List Char) (c : Char)
    : Except Halt (TextPart × List Char) :=
  match part with
  | .plain =>
    if c = '\\' then .ok (.escape, chars)
    else if c.toNat < 0x20 then .error ⟨.controlCharacter, 1⟩
    else .ok (.plain, c :: chars)
  | .escape =>
    if c = 'u' then .ok (.hex none 0 0, chars)
    else match escaped? c with
      | some plain => .ok (.plain, plain :: chars)
      | none => .error ⟨.badEscape, 1⟩
  | .hex high count value =>
    match hexDigit? c with
    -- all four bytes are taken before the bad one is reported
    | none => spoil (4 - count) chars c
    | some d =>
      let next := value * 16 + d
      if count = 3 then endHex high next chars
      else .ok (.hex high (count + 1) next, chars)
  | .spoiled left => spoil left chars c
  | .surrogate high =>
    if c = '\\' then .ok (.surrogateMark high, chars) else .error ⟨.endOfEscape, 1⟩
  | .surrogateMark high =>
    if c = 'u' then .ok (.hex (some high) 0 0, chars) else .error ⟨.endOfEscape, 1⟩

/-- Whether a character is an exponent mark. -/
def isMark (c : Char) : Bool :=
  c = 'e' || c = 'E'

/-- The greatest exponent that is read digit by digit. -/
def maxExponent : Nat := 2147483647

/-- One more digit of the exponent. An exponent beyond the greatest makes the number zero, or
puts it out of range if it is positive and the significand is not zero.
-/
def exponentDigit (draft : NumberDraft) (c : Char) : Except Halt (NumberPart × NumberDraft) :=
  let next := draft.exponent * 10 + digit c
  if next ≤ maxExponent then
    .ok (.exponent, { draft with exponent := next })
  else if draft.scan.significand ≠ 0 ∧ ¬ draft.exponentNegative then
    .error ⟨.numberOutOfRange, 1⟩
  else
    .ok (.vanished, draft)

/-- The scan with one digit before the point, which is dropped if it does not fit. -/
def wholeDigit (scan : Scan) (c : Char) : NumberPart × Scan :=
  match scan.append? (digit c) with
  | some significand => (.whole, { scan with significand })
  | none => (.longWhole, { scan with exponent := scan.exponent + 1 })

/-- The scan with one digit after the point, which is dropped if it does not fit. -/
def fractionDigit (scan : Scan) (c : Char) : NumberPart × Scan :=
  match scan.append? (digit c) with
  | some significand => (.fraction, { scan with significand, exponent := scan.exponent - 1 })
  | none => (.longFraction, scan)

/-- One character of a number, or `none` if the number ended before it. -/
def stepNumber (part : NumberPart) (draft : NumberDraft) (c : Char)
    : Except Halt (Option (NumberPart × NumberDraft)) :=
  let withScan (next : NumberPart × Scan) : Option (NumberPart × NumberDraft) :=
    some (next.1, { draft with scan := next.2 })
  match part with
  | .sign =>
    if c = '0' then .ok (some (.zero, draft))
    else if c.isDigit then .ok (withScan (.whole, { draft.scan with significand := digit c }))
    else .error ⟨.badNumber, 1⟩
  | .zero =>
    if c.isDigit then .error ⟨.badNumber, 1⟩
    else if c = '.' then .ok (some (.point, draft))
    else if isMark c then .ok (some (.mark, draft))
    else .ok none
  | .whole =>
    if c.isDigit then .ok (withScan (wholeDigit draft.scan c))
    else if c = '.' then .ok (some (.point, draft))
    else if isMark c then .ok (some (.mark, draft))
    else .ok none
  | .longWhole =>
    if c.isDigit then
      .ok (withScan (.longWhole, { draft.scan with exponent := draft.scan.exponent + 1 }))
    else if c = '.' then .ok (some (.point, draft))
    else if isMark c then .ok (some (.mark, draft))
    else .ok none
  | .point =>
    if c.isDigit then .ok (withScan (fractionDigit draft.scan c))
    else .error ⟨.badNumber, 1⟩
  | .fraction =>
    if c.isDigit then .ok (withScan (fractionDigit draft.scan c))
    else if isMark c then .ok (some (.mark, draft))
    else .ok none
  | .longFraction =>
    if c.isDigit then .ok (some (.longFraction, draft))
    else if isMark c then .ok (some (.mark, draft))
    else .ok none
  | .mark =>
    if c = '+' then .ok (some (.markSign, draft))
    else if c = '-' then .ok (some (.markSign, { draft with exponentNegative := true }))
    else if c.isDigit then (exponentDigit draft c).map some
    else .error ⟨.badNumber, 1⟩
  | .markSign =>
    if c.isDigit then (exponentDigit draft c).map some else .error ⟨.badNumber, 1⟩
  | .exponent =>
    if c.isDigit then (exponentDigit draft c).map some else .ok none
  | .vanished =>
    if c.isDigit then .ok (some (.vanished, draft)) else .ok none

/-- The integer that was read, if it fits 64 bits. Negative zero is not an integer. -/
def integer? (scan : Scan) : Option Int :=
  if scan.negative then
    -- the least integer is -2^63
    if 0 < scan.significand ∧ scan.significand ≤ 9223372036854775808 then
      some (-scan.significand)
    else
      none
  else
    some scan.significand

/-- The float that was read, with `shift` added to its exponent. -/
def endFloat (scan : Scan) (shift : Int) : Except Cause Value :=
  match { scan with exponent := scan.exponent + shift }.float? with
  | some bits => .ok (.number (.float bits))
  | none => .error .numberOutOfRange

/-- The number that is complete when no further character belongs to it. -/
def endNumber (part : NumberPart) (draft : NumberDraft) : Except Cause Value :=
  match part with
  | .zero | .whole =>
    match integer? draft.scan with
    | some value => .ok (.number (.integer value))
    | none => endFloat draft.scan 0
  | .longWhole | .fraction | .longFraction => endFloat draft.scan 0
  | .exponent =>
    endFloat draft.scan (if draft.exponentNegative then -draft.exponent else draft.exponent)
  | .vanished => .ok (.number (.float draft.scan.zero))
  | .sign | .point | .mark | .markSign => .error .endInValue

/-- One character after a complete value. -/
def stepAfter (state : State) (c : Char) : Except Halt State :=
  if isBlank c then .ok state
  else match state.mode with
    | .itemEnd =>
      if c = ',' then .ok ⟨state.stack, .nextItem⟩
      else if c = ']' then .ok (close state.stack)
      else refuse .noItemEnd
    | .fieldEnd =>
      if c = ',' then .ok ⟨state.stack, .nextKey⟩
      else if c = '\x7d' then .ok (close state.stack)
      else refuse .noFieldEnd
    | _ => refuse .trailingCharacters

/-- One character between tokens, where a value or a key is due. -/
def stepBefore (state : State) (c : Char) : Except Halt State :=
  if isBlank c then .ok state
  else match state.mode with
    | .firstItem => if c = ']' then .ok (close state.stack) else openValue state.stack c
    | .nextItem => if c = ']' then refuse .trailingComma else openValue state.stack c
    | .firstKey =>
      if c = '"' then .ok ⟨state.stack, .text true .plain []⟩
      else if c = '\x7d' then .ok (close state.stack)
      else refuse .keyNotString
    | .nextKey =>
      if c = '"' then .ok ⟨state.stack, .text true .plain []⟩
      else if c = '\x7d' then refuse .trailingComma
      else refuse .keyNotString
    | .colon => if c = ':' then .ok ⟨state.stack, .value⟩ else refuse .noColon
    | _ => openValue state.stack c

def step (state : State) (c : Char) : Except Halt State :=
  match state.mode with
  | .word [] value => stepAfter (deliver value state.stack) c
  | .word (due :: rest) value =>
    if c = due then
      if rest.isEmpty then .ok (deliver value state.stack)
      else .ok ⟨state.stack, .word rest value⟩
    else refuse .badWord
  | .text isKey .plain chars =>
    if c = '"' then .ok (endText isKey chars state.stack)
    else (stepText .plain chars c).map fun next => ⟨state.stack, .text isKey next.1 next.2⟩
  | .text isKey part chars =>
    (stepText part chars c).map fun next => ⟨state.stack, .text isKey next.1 next.2⟩
  | .number part draft =>
    match stepNumber part draft c with
    | .error halt => .error halt
    | .ok (some next) => .ok ⟨state.stack, .number next.1 next.2⟩
    | .ok none =>
      -- the number ended before this character, which is read again as what follows it
      match endNumber part draft with
      | .ok value => stepAfter (deliver value state.stack) c
      | .error cause => .error ⟨cause, 0⟩
  | .itemEnd | .fieldEnd | .done _ => stepAfter state c
  | .value | .firstItem | .nextItem | .firstKey | .nextKey | .colon => stepBefore state c

/-- The value that was read when the text ends here, or what is missing. -/
def finish (state : State) : Except Cause Value :=
  match state.mode with
  | .done value => .ok value
  | .number part draft =>
    match endNumber part draft with
    | .error cause => .error cause
    | .ok value =>
      match state.stack with
      | [] => .ok value
      -- only a number can be complete here; what is missing is the container's end
      | .array _ :: _ => .error .endInArray
      | .object .. :: _ => .error .endInObject
  | .value | .nextItem | .nextKey | .word .. => .error .endInValue
  | .firstItem | .itemEnd => .error .endInArray
  | .firstKey | .colon | .fieldEnd => .error .endInObject
  | .text .. => .error .endInString

/-- The state after all characters, or the cause of the first refusal and its byte offset. -/
def run (state : State) (offset : Nat) : List Char → Except (Cause × Nat) State
  | [] => .ok state
  | c :: rest =>
    match step state c with
    | .ok next => run next (offset + c.utf8Size) rest
    | .error halt => .error (halt.cause, offset + halt.reach)

/-- The value of a text, or the cause of its refusal and the byte offset. -/
def readChars (chars : List Char) : Except (Cause × Nat) Value :=
  match run .start 0 chars with
  | .error fault => .error fault
  | .ok state =>
    match finish state with
    | .ok value => .ok value
    | .error cause => .error (cause, byteLength chars)

end Reader

def read (text : String) : Except SyntaxFault Value :=
  match Reader.readChars text.toList with
  | .ok value => .ok value
  | .error (cause, offset) => .error ⟨cause, Position.start.advance offset text.toList⟩

end ClonePlanner.Json
