import ClonePlanner.Filter.Term
import ClonePlanner.Filter.Token

/-!
The terms that tokens stand for. Operands are read first, each with its signs and steps; the
operators between them are then grouped by their strength. Reading a bracket, a keyword or an
operand goes at most a few levels down for each token, which bounds the recursion.
-/

namespace ClonePlanner.Filter

namespace Grammar

/-- What stands between two operands. -/
inductive Joint where
  | pipe
  | bind (name : String)
  | comma
  | alternative
  | decide (stop : Bool)
  | operate (operation : Operation)
deriving Repr

namespace Joint

/-- How strongly a joint binds its operands. -/
def strength : Joint → Nat
  | .pipe | .bind _ => 0
  | .comma => 1
  | .alternative => 2
  | .decide true => 3
  | .decide false => 4
  | .operate .add | .operate .subtract => 6
  | .operate .multiply => 7
  | .operate _ => 5

/-- Whether equal joints in a row group from the right. -/
def groupsRight : Joint → Bool
  | .pipe | .bind _ => true
  | _ => false

def join : Joint → Term → Term → Term
  | .pipe => .pipe
  | .bind name => fun source body => .bind source name body
  | .comma => .both
  | .alternative => .alternative
  | .decide stop => .decide stop
  | .operate operation => .operate operation

/-- The operation that an operator stands for. -/
def operation? : String → Option Operation
  | "+" => some .add
  | "-" => some .subtract
  | "*" => some .multiply
  | "==" => some .equal
  | "!=" => some .unequal
  | "<" => some .less
  | "<=" => some .atMost
  | ">" => some .greater
  | ">=" => some .atLeast
  | _ => none

/-- The joint that begins the tokens, and the tokens behind it. A comma is a joint only where
`comma` holds.
-/
def read? (comma : Bool) : List Token → Option (Joint × List Token)
  | .word "or" :: rest => some (.decide true, rest)
  | .word "and" :: rest => some (.decide false, rest)
  | .word "as" :: .variable name :: .mark "|" :: rest => some (.bind name, rest)
  | .mark "|" :: rest => some (.pipe, rest)
  | .mark "//" :: rest => some (.alternative, rest)
  | .mark "," :: rest => if comma then some (.comma, rest) else none
  | .mark text :: rest => (operation? text).map (.operate ·, rest)
  | _ => none

end Joint

/-- The term of an operand and the operands behind it, with joints of at least the given
strength; and what is left.
-/
def climb : Nat → Nat → Term → List (Joint × Term) → Term × List (Joint × Term)
  | 0, _, left, tail => (left, tail)
  | _ + 1, _, left, [] => (left, [])
  | fuel + 1, least, left, (joint, operand) :: tail =>
    if joint.strength < least then
      -- a weaker joint ends the operand on its left
      (left, (joint, operand) :: tail)
    else
      let above := if joint.groupsRight then joint.strength else joint.strength + 1
      let (right, rest) := climb fuel above operand tail
      climb fuel least (joint.join left right) rest

/-- The term of operands and the joints between them. -/
def group (left : Term) (tail : List (Joint × Term)) : Term :=
  (climb (2 * tail.length + 1) 0 left tail).1

/-- Words that do not name functions. -/
def keywords : List String :=
  ["and", "or", "as", "def", "reduce", "foreach", "if", "then", "else", "elif", "end", "try",
    "catch", "label", "import", "include"]

def expect (token : Token) : List Token → Option (List Token)
  | [] => none
  | first :: rest => if first = token then some rest else none

/-- The tokens behind question marks, and whether there were any. -/
def marks : List Token → Bool × List Token
  | .mark "?" :: rest => (true, (marks rest).2)
  | tokens => (false, tokens)

def key (name : String) : Term :=
  .literal (.string name)

def keyPart (name : String) (optional : Bool) : Part Term :=
  .index optional (key name)

mutual

/-- A term: operands with joints between them. -/
def term : Nat → Bool → List Token → Option (Term × List Token)
  | 0, _, _ => none
  | fuel + 1, comma, tokens => do
    let (first, rest) ← operand fuel tokens
    let (tail, rest) ← operands fuel comma rest
    return (group first tail, rest)

/-- The joints and operands behind an operand. -/
def operands : Nat → Bool → List Token → Option (List (Joint × Term) × List Token)
  | 0, _, _ => none
  | fuel + 1, comma, tokens =>
    match Joint.read? comma tokens with
    | none => some ([], tokens)
    | some (joint, rest) => do
      let (next, rest) ← operand fuel rest
      let (tail, rest) ← operands fuel comma rest
      return ((joint, next) :: tail, rest)

/-- An operand: a sign or a head with steps behind it. -/
def operand : Nat → List Token → Option (Term × List Token)
  | 0, _ => none
  | fuel + 1, .mark "-" :: rest => do
    let (inner, rest) ← operand fuel rest
    return (.negate inner, rest)
  | fuel + 1, tokens => do
    let (subject, rest) ← head fuel tokens
    let (optional, rest) := marks rest
    let subject := if optional then .attempt subject none else subject
    let (parts, rest) ← steps fuel rest
    return (if parts.isEmpty then subject else .path subject parts, rest)

/-- The beginning of an operand. Steps without a subject are taken from the input. -/
def head : Nat → List Token → Option (Term × List Token)
  | 0, _ => none
  | _, .number text :: rest => some (.literal (.number (.ofText text)), rest)
  | _, .string text :: rest => some (.literal (.string text), rest)
  | _, .variable name :: rest => some (.variable name, rest)
  | _, .mark ".." :: rest => some (.descend, rest)
  | _, .mark "." :: .string name :: rest => some (.identity, .mark "." :: .string name :: rest)
  | _, .mark "." :: rest => some (.identity, rest)
  | _, .field name :: rest => some (.identity, .field name :: rest)
  | fuel + 1, .mark "(" :: rest => do
    let (inner, rest) ← term fuel true rest
    return (inner, ← expect (.mark ")") rest)
  | _, .mark "[" :: .mark "]" :: rest => some (.literal (.array []), rest)
  | fuel + 1, .mark "[" :: rest => do
    let (items, rest) ← term fuel true rest
    return (.collect items, ← expect (.mark "]") rest)
  | _, .mark "\x7b" :: .mark "\x7d" :: rest => some (.literal (.object []), rest)
  | fuel + 1, .mark "\x7b" :: rest => fields fuel (.literal (.object [])) rest
  | fuel + 1, .word "if" :: rest => branches fuel rest
  | fuel + 1, .word "try" :: rest => do
    let (body, rest) ← operand fuel rest
    match rest with
    | .word "catch" :: rest =>
      let (handler, rest) ← operand fuel rest
      return (.attempt body (some handler), rest)
    | rest => return (.attempt body none, rest)
  | fuel + 1, .word "reduce" :: rest => do
    let (source, rest) ← operand fuel rest
    match rest with
    | .word "as" :: .variable name :: .mark "(" :: rest =>
      let (start, rest) ← term fuel true rest
      let (update, rest) ← term fuel true (← expect (.mark ";") rest)
      return (.reduce source name start update, ← expect (.mark ")") rest)
    | _ => none
  | fuel + 1, .word name :: .mark "(" :: rest =>
    if keywords.contains name then none
    else do
      let (values, rest) ← arguments fuel rest
      return (.call name values, rest)
  | _, .word name :: rest =>
    if keywords.contains name then none else some (.call name [], rest)
  | _, _ => none

/-- The arguments of a function, up to the closing bracket. -/
def arguments : Nat → List Token → Option (List Term × List Token)
  | 0, _ => none
  | fuel + 1, tokens => do
    let (first, rest) ← term fuel true tokens
    match rest with
    | .mark ")" :: rest => return ([first], rest)
    | .mark ";" :: rest =>
      let (more, rest) ← arguments fuel rest
      return (first :: more, rest)
    | _ => none

/-- The branches of a condition, up to its end. Without an alternative the input is kept. -/
def branches : Nat → List Token → Option (Term × List Token)
  | 0, _ => none
  | fuel + 1, tokens => do
    let (condition, rest) ← term fuel true tokens
    let (yes, rest) ← term fuel true (← expect (.word "then") rest)
    match rest with
    | .word "elif" :: rest =>
      let (no, rest) ← branches fuel rest
      return (.branch condition yes no, rest)
    | .word "else" :: rest =>
      let (no, rest) ← term fuel true rest
      return (.branch condition yes no, ← expect (.word "end") rest)
    | .word "end" :: rest => return (.branch condition yes .identity, rest)
    | _ => none

/-- The fields of an object, up to its closing bracket, added to an object. -/
def fields : Nat → Term → List Token → Option (Term × List Token)
  | 0, _, _ => none
  | fuel + 1, object, tokens => do
    let (object, rest) ← field fuel object tokens
    match rest with
    | .mark "\x7d" :: rest => return (object, rest)
    | .mark "," :: rest => fields fuel object rest
    | _ => none

/-- A field added to an object. A key alone stands for the input's field of that name, and a
variable alone for a field of its own name.
-/
def field : Nat → Term → List Token → Option (Term × List Token)
  | 0, _, _ => none
  | fuel + 1, object, .mark "(" :: rest => do
    let (name, rest) ← term fuel true rest
    let rest ← expect (.mark ":") (← expect (.mark ")") rest)
    let (value, rest) ← term fuel false rest
    return (.field object name value, rest)
  | _, object, .variable name :: rest => some (.field object (key name) (.variable name), rest)
  | fuel + 1, object, .word name :: rest => named fuel object name rest
  | fuel + 1, object, .string name :: rest => named fuel object name rest
  | _, _, _ => none

/-- A field with a given name added to an object. -/
def named : Nat → Term → String → List Token → Option (Term × List Token)
  | 0, _, _, _ => none
  | fuel + 1, object, name, .mark ":" :: rest => do
    let (value, rest) ← term fuel false rest
    return (.field object (key name) value, rest)
  | _, object, name, rest =>
    some (.field object (key name) (.path .identity [keyPart name false]), rest)

/-- The steps behind the beginning of an operand. -/
def steps : Nat → List Token → Option (List (Part Term) × List Token)
  | 0, _ => none
  | fuel + 1, .field name :: rest => do
    let (optional, rest) := marks rest
    let (more, rest) ← steps fuel rest
    return (keyPart name optional :: more, rest)
  | fuel + 1, .mark "." :: .string name :: rest => do
    let (optional, rest) := marks rest
    let (more, rest) ← steps fuel rest
    return (keyPart name optional :: more, rest)
  | fuel + 1, .mark "." :: .mark "[" :: rest => bracket fuel rest
  | fuel + 1, .mark "[" :: rest => bracket fuel rest
  | _, tokens => some ([], tokens)

/-- A step in brackets, and the steps behind it. -/
def bracket : Nat → List Token → Option (List (Part Term) × List Token)
  | 0, _ => none
  | fuel + 1, .mark "]" :: rest => do
    let (optional, rest) := marks rest
    let (more, rest) ← steps fuel rest
    return (.iterate optional :: more, rest)
  | fuel + 1, .mark ":" :: rest => do
    let (last, rest) ← term fuel true rest
    let (optional, rest) := marks (← expect (.mark "]") rest)
    let (more, rest) ← steps fuel rest
    return (.slice optional none (some last) :: more, rest)
  | fuel + 1, tokens => do
    let (first, rest) ← term fuel true tokens
    match rest with
    | .mark "]" :: rest =>
      let (optional, rest) := marks rest
      let (more, rest) ← steps fuel rest
      return (.index optional first :: more, rest)
    | .mark ":" :: .mark "]" :: rest =>
      let (optional, rest) := marks rest
      let (more, rest) ← steps fuel rest
      return (.slice optional (some first) none :: more, rest)
    | .mark ":" :: rest =>
      let (last, rest) ← term fuel true rest
      let (optional, rest) := marks (← expect (.mark "]") rest)
      let (more, rest) ← steps fuel rest
      return (.slice optional (some first) (some last) :: more, rest)
    | _ => none

end

end Grammar

/-- The term that tokens stand for, if all of them belong to it. -/
def Term.ofTokens? (tokens : List Token) : Option Term :=
  match Grammar.term (8 * tokens.length + 8) true tokens with
  | some (term, []) => some term
  | _ => none

/-- The term that a text stands for, if it is one. -/
def Term.ofText? (text : String) : Option Term :=
  (Token.ofText? text).bind Term.ofTokens?

end ClonePlanner.Filter
