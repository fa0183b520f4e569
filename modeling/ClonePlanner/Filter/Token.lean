import ClonePlanner.Json.Reader
import ClonePlanner.Text.Blank

/-!
The tokens of a filter's text. The text is scanned one character at a time; operators are as
long as possible, so two of them in a row need a blank between them.
-/

namespace ClonePlanner.Filter

inductive Token where
  /-- A name or a keyword. -/
  | word (name : String)
  /-- A dollar sign and a name. -/
  | variable (name : String)
  /-- A point and a name. -/
  | field (name : String)
  | number (text : List Char)
  | string (text : String)
  /-- An operator, a separator, a bracket or a point. -/
  | mark (text : String)
deriving DecidableEq, Repr

namespace Token

/-- Where the scanner stands; characters are newest first. -/
inductive Mode where
  | between
  /-- In a comment. It goes on over a line end behind an odd number of backslashes. -/
  | comment (odd afterReturn : Bool)
  | word (chars : List Char)
  | variable (chars : List Char)
  | operator (chars : List Char)
  | point
  | field (chars : List Char)
  | whole (chars : List Char)
  | fraction (chars : List Char)
  /-- Behind an exponent mark. -/
  | exponentMark (chars : List Char)
  /-- Behind the sign of an exponent. -/
  | exponentSign (chars : List Char)
  | exponent (chars : List Char)
  | text (chars : List Char)
  | escape (chars : List Char)
  /-- In the four digits of an escape. -/
  | hex (count value : Nat) (chars : List Char)
deriving Repr

/-- The state of the scanner; tokens are newest first. -/
structure State where
  tokens : List Token
  mode : Mode

/-- A character that a name can begin with. -/
def isNameStart (c : Char) : Bool :=
  c.isAlpha || c = '_'

/-- A character that a name can go on with. -/
def isNameRest (c : Char) : Bool :=
  c.isAlphanum || c = '_'

/-- A character of operators. -/
def isOperator (c : Char) : Bool :=
  ['|', '=', '!', '<', '>', '+', '-', '*', '/', '%'].contains c

/-- A character that is a token by itself. -/
def isSingle (c : Char) : Bool :=
  [':', ';', ',', '?', '(', ')', '[', ']', '\x7b', '\x7d'].contains c

/-- The text of characters that are newest first. -/
def textOf (chars : List Char) : String :=
  String.ofList chars.reverse

/-- The state after one character between tokens. -/
def begin (tokens : List Token) (c : Char) : Option State :=
  if Text.isBlank c then some ⟨tokens, .between⟩
  else if c = '#' then some ⟨tokens, .comment false false⟩
  else if isNameStart c then some ⟨tokens, .word [c]⟩
  else if c.isDigit then some ⟨tokens, .whole [c]⟩
  else if isOperator c then some ⟨tokens, .operator [c]⟩
  else if isSingle c then some ⟨.mark (String.singleton c) :: tokens, .between⟩
  else if c = '$' then some ⟨tokens, .variable []⟩
  else if c = '.' then some ⟨tokens, .point⟩
  else if c = '"' then some ⟨tokens, .text []⟩
  else none

/-- The state after one more character, if the text can go on with it. -/
def step (state : State) (c : Char) : Option State :=
  let tokens := state.tokens
  match state.mode with
  | .between => begin tokens c
  | .comment odd afterReturn =>
    if c = '\n' then some ⟨tokens, if odd then .comment false false else .between⟩
    else if c = '\\' then some ⟨tokens, .comment (afterReturn || !odd) false⟩
    else if c = '\r' then some ⟨tokens, .comment (odd && !afterReturn) true⟩
    else some ⟨tokens, .comment false false⟩
  | .word chars =>
    if isNameRest c then some ⟨tokens, .word (c :: chars)⟩
    else begin (.word (textOf chars) :: tokens) c
  | .variable [] => if isNameStart c then some ⟨tokens, .variable [c]⟩ else none
  | .variable chars =>
    if isNameRest c then some ⟨tokens, .variable (c :: chars)⟩
    else begin (.variable (textOf chars) :: tokens) c
  | .operator chars =>
    if isOperator c then some ⟨tokens, .operator (c :: chars)⟩
    else begin (.mark (textOf chars) :: tokens) c
  | .point =>
    if c = '.' then some ⟨.mark ".." :: tokens, .between⟩
    else if isNameStart c then some ⟨tokens, .field [c]⟩
    else begin (.mark "." :: tokens) c
  | .field chars =>
    if isNameRest c then some ⟨tokens, .field (c :: chars)⟩
    else begin (.field (textOf chars) :: tokens) c
  | .whole chars =>
    if c.isDigit then some ⟨tokens, .whole (c :: chars)⟩
    else if c = '.' then some ⟨tokens, .fraction (c :: chars)⟩
    else if c = 'e' || c = 'E' then some ⟨tokens, .exponentMark (c :: chars)⟩
    else begin (.number chars.reverse :: tokens) c
  | .fraction chars =>
    if c.isDigit then some ⟨tokens, .fraction (c :: chars)⟩
    else if c = 'e' || c = 'E' then some ⟨tokens, .exponentMark (c :: chars)⟩
    else begin (.number chars.reverse :: tokens) c
  | .exponentMark chars =>
    if c.isDigit then some ⟨tokens, .exponent (c :: chars)⟩
    else if c = '+' || c = '-' then some ⟨tokens, .exponentSign (c :: chars)⟩
    else none
  | .exponentSign chars =>
    if c.isDigit then some ⟨tokens, .exponent (c :: chars)⟩ else none
  | .exponent chars =>
    if c.isDigit then some ⟨tokens, .exponent (c :: chars)⟩
    else begin (.number chars.reverse :: tokens) c
  | .text chars =>
    if c = '"' then some ⟨.string (textOf chars) :: tokens, .between⟩
    else if c = '\\' then some ⟨tokens, .escape chars⟩
    else some ⟨tokens, .text (c :: chars)⟩
  | .escape chars =>
    if c = 'u' then some ⟨tokens, .hex 0 0 chars⟩
    else (Json.Reader.escaped? c).map fun plain => ⟨tokens, .text (plain :: chars)⟩
  | .hex count value chars =>
    (Json.Reader.hexDigit? c).bind fun digit =>
      let unit := value * 16 + digit
      if count < 3 then some ⟨tokens, .hex (count + 1) unit chars⟩
      else if unit.isValidChar then some ⟨tokens, .text (Char.ofNat unit :: chars)⟩
      else none

/-- The tokens when the text ends here, newest first. -/
def finish (state : State) : Option (List Token) :=
  match state.mode with
  | .between | .comment .. => some state.tokens
  | .word chars => some (.word (textOf chars) :: state.tokens)
  | .variable [] => none
  | .variable chars => some (.variable (textOf chars) :: state.tokens)
  | .operator chars => some (.mark (textOf chars) :: state.tokens)
  | .point => some (.mark "." :: state.tokens)
  | .field chars => some (.field (textOf chars) :: state.tokens)
  | .whole chars | .fraction chars | .exponent chars =>
    some (.number chars.reverse :: state.tokens)
  | .exponentMark _ | .exponentSign _ | .text _ | .escape _ | .hex .. => none

/-- The tokens of a text, if it consists of tokens. -/
def ofText? (text : String) : Option (List Token) :=
  ((text.toList.foldlM step ⟨[], .between⟩).bind finish).map List.reverse

end Token

end ClonePlanner.Filter
