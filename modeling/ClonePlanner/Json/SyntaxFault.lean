/-!
Why a text is not a JSON document, and where. Lines are counted from one; a column is the
number of bytes since the last line break.
-/

namespace ClonePlanner.Json

inductive Cause where
  | endInValue
  | endInString
  | endInArray
  | endInObject
  | badWord
  | noValue
  | badNumber
  | numberOutOfRange
  | controlCharacter
  | badEscape
  | loneSurrogate
  | endOfEscape
  | noItemEnd
  | noFieldEnd
  | noColon
  | keyNotString
  | trailingComma
  | trailingCharacters
  | tooDeep
deriving DecidableEq, Repr

def Cause.message : Cause → String
  | .endInValue => "EOF while parsing a value"
  | .endInString => "EOF while parsing a string"
  | .endInArray => "EOF while parsing a list"
  | .endInObject => "EOF while parsing an object"
  | .badWord => "expected ident"
  | .noValue => "expected value"
  | .badNumber => "invalid number"
  | .numberOutOfRange => "number out of range"
  | .controlCharacter => "control character (\\u0000-\\u001F) found while parsing a string"
  | .badEscape => "invalid escape"
  | .loneSurrogate => "lone leading surrogate in hex escape"
  | .endOfEscape => "unexpected end of hex escape"
  | .noItemEnd => "expected `,` or `]`"
  | .noFieldEnd => "expected `,` or `\x7d`"
  | .noColon => "expected `:`"
  | .keyNotString => "key must be a string"
  | .trailingComma => "trailing comma"
  | .trailingCharacters => "trailing characters"
  | .tooDeep => "recursion limit exceeded"

/-- The number of bytes that a text is written in. -/
def byteLength : List Char → Nat
  | [] => 0
  | c :: rest => c.utf8Size + byteLength rest

structure Position where
  line : Nat
  column : Nat
deriving DecidableEq, Repr

namespace Position

def start : Position := ⟨1, 0⟩

/-- The place `bytes` bytes after this one in the text that follows it. -/
def advance (position : Position) : Nat → List Char → Position
  | 0, _ => position
  | _, [] => position
  | bytes + 1, c :: rest =>
    let next : Position :=
      if c = '\n' then ⟨position.line + 1, 0⟩
      else ⟨position.line, position.column + min c.utf8Size (bytes + 1)⟩
    next.advance (bytes + 1 - c.utf8Size) rest

end Position

structure SyntaxFault where
  cause : Cause
  position : Position
deriving DecidableEq, Repr

def SyntaxFault.message (fault : SyntaxFault) : String :=
  s!"{fault.cause.message} at line {fault.position.line} column {fault.position.column}"

end ClonePlanner.Json
