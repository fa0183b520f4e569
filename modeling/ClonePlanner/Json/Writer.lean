import ClonePlanner.Decimal.Layout
import ClonePlanner.Json.Tree

/-!
Writing JSON, on one line or indented. The two styles differ only in the blanks between tokens.
-/

namespace ClonePlanner.Json

structure Style where
  /-- What stands before an item, a key or a closing bracket at a nesting level. -/
  gap : Nat → List Char
  /-- What stands between a colon and its value. -/
  afterColon : List Char

namespace Style

def compact : Style := ⟨fun _ => [], []⟩

/-- Each item on a line of its own, indented by two blanks a level. -/
def pretty : Style := ⟨fun level => '\n' :: List.replicate (2 * level) ' ', [' ']⟩

end Style

/-- A character inside a JSON string: quotes, backslashes and controls below U+0020 are
escaped, the others are written as they are.
-/
def escapedChar (c : Char) : List Char :=
  if c = '"' then ['\\', '"']
  else if c = '\\' then ['\\', '\\']
  else if c = '\x08' then ['\\', 'b']
  else if c = '\x0c' then ['\\', 'f']
  else if c = '\n' then ['\\', 'n']
  else if c = '\r' then ['\\', 'r']
  else if c = '\t' then ['\\', 't']
  else if c.toNat < 0x20 then
    ['\\', 'u', '0', '0', Nat.digitChar (c.toNat / 16), Nat.digitChar (c.toNat % 16)]
  else [c]

def writeString (text : String) : List Char :=
  '"' :: text.toList.flatMap escapedChar ++ ['"']

/-- The layout of floating-point numbers in a document. -/
def floatLayout : Decimal.Layout where
  leastPoint := -4
  greatestPoint := 16
  signedExponent := true
  tie := .even

def writeInteger (value : Int) : List Char :=
  (if value < 0 then ['-'] else []) ++ Nat.toDigits 10 value.natAbs

def writeNumber : Number → List Char
  | .integer value => writeInteger value
  | .float bits => floatLayout.float bits

namespace Tree

variable {ν : Type}

mutual

def chars (style : Style) (number : ν → List Char) (level : Nat) : Tree ν → List Char
  | .null => ['n', 'u', 'l', 'l']
  | .bool true => ['t', 'r', 'u', 'e']
  | .bool false => ['f', 'a', 'l', 's', 'e']
  | .number value => number value
  | .string text => writeString text
  | .array [] => ['[', ']']
  | .array (item :: rest) =>
    '[' :: style.gap (level + 1) ++ chars style number (level + 1) item
      ++ itemChars style number (level + 1) rest ++ style.gap level ++ [']']
  | .object [] => ['\x7b', '\x7d']
  | .object ((key, value) :: rest) =>
    '\x7b' :: style.gap (level + 1) ++ writeString key ++ ':' :: style.afterColon
      ++ chars style number (level + 1) value
      ++ fieldChars style number (level + 1) rest ++ style.gap level ++ ['\x7d']
termination_by structural tree => tree

/-- Items after the first, each behind its comma. -/
def itemChars (style : Style) (number : ν → List Char) (level : Nat)
    : List (Tree ν) → List Char
  | [] => []
  | item :: rest =>
    ',' :: style.gap level ++ chars style number level item
      ++ itemChars style number level rest
termination_by structural items => items

/-- Fields after the first, each behind its comma. -/
def fieldChars (style : Style) (number : ν → List Char) (level : Nat)
    : List (String × Tree ν) → List Char
  | [] => []
  | (key, value) :: rest =>
    ',' :: style.gap level ++ writeString key ++ ':' :: style.afterColon
      ++ chars style number level value ++ fieldChars style number level rest
termination_by structural fields => fields

end

end Tree

def write (style : Style) (value : Value) : String :=
  String.ofList (value.chars style writeNumber 0)

end ClonePlanner.Json
