import ClonePlanner.Files.PathText

/-!
Patterns for file names. A question mark stands for a character, a star for any run of them, a
class in brackets for one of its characters, and two stars for any number of directories.
-/

namespace ClonePlanner.Files.Glob

/-- A part of a class: one character, or all from one to another. -/
inductive Specifier where
  | single (c : Char)
  | range (first last : Char)
deriving DecidableEq, Repr

/-- A part of a pattern. -/
inductive Token where
  | char (c : Char)
  | anyChar
  | anySequence
  | anyDirectories
  | within (specifiers : List Specifier)
  | except (specifiers : List Specifier)
deriving DecidableEq, Repr

inductive Cause where
  | tooManyStars
  | notComponent
  | badRange
deriving DecidableEq, Repr

def Cause.message : Cause → String
  | .tooManyStars => "wildcards are either regular `*` or recursive `**`"
  | .notComponent => "recursive wildcards must form a single path component"
  | .badRange => "invalid range pattern"

/-- A cause with its place, counted in characters. -/
structure Fault where
  position : Nat
  cause : Cause
deriving DecidableEq, Repr

def Fault.message (fault : Fault) : String :=
  s!"Pattern syntax error near position {fault.position}: {fault.cause.message}"

/-- Whether a text is a pattern rather than a path. -/
def isPattern (text : String) : Bool :=
  text.toList.any fun c => c = '*' || c = '?' || c = '[' || c = '\x7b'

def specifiers : List Char → List Specifier
  | first :: '-' :: last :: rest => .range first last :: specifiers rest
  | c :: rest => .single c :: specifiers rest
  | [] => []

/-- The characters of a class up to its closing bracket, and what follows it. The first
character belongs to the class even if it is a bracket.
-/
def classBody : List Char → Option (List Char × List Char)
  | [] => none
  | first :: rest =>
    let body := rest.takeWhile (· != ']')
    match rest.drop body.length with
    | [] => none
    | _ :: after => some (first :: body, after)

/-- The class that follows an opening bracket, the number of its characters up to the closing
bracket, and what follows.
-/
def class? : List Char → Option (Token × Nat × List Char)
  | '!' :: rest => (classBody rest).map fun (body, after) =>
    (.except (specifiers body), body.length + 2, after)
  | rest => (classBody rest).map fun (body, after) =>
    (.within (specifiers body), body.length + 1, after)

/-- The tokens of a pattern, read from a position on. The character before the position is given
if there is one; the fuel bounds the number of tokens.
-/
def tokens : Nat → Nat → Option Char → List Char → Except Fault (List Token)
  | 0, _, _, _ => .ok []
  | _, _, _, [] => .ok []
  | fuel + 1, position, _, '?' :: rest =>
    (tokens fuel (position + 1) (some '?') rest).map (.anyChar :: ·)
  | fuel + 1, position, before, '*' :: rest =>
    match rest with
    -- three stars are refused wherever they stand, two only beside other characters
    | '*' :: '*' :: _ => .error ⟨position + 2, .tooManyStars⟩
    | '*' :: more =>
      if before = none || before = some '/' then
        match more with
        | [] => .ok [.anyDirectories]
        | '/' :: after =>
          (tokens fuel (position + 3) (some '/') after).map (.anyDirectories :: ·)
        | _ => .error ⟨position + 2, .notComponent⟩
      else
        .error ⟨position - 1, .notComponent⟩
    | _ => (tokens fuel (position + 1) (some '*') rest).map (.anySequence :: ·)
  | fuel + 1, position, _, '[' :: rest =>
    match class? rest with
    | none => .error ⟨position, .badRange⟩
    | some (token, length, after) =>
      (tokens fuel (position + length + 1) (some ']') after).map (token :: ·)
  | fuel + 1, position, _, c :: rest =>
    (tokens fuel (position + 1) (some c) rest).map (.char c :: ·)

def compile (text : List Char) : Except Fault (List Token) :=
  tokens text.length 0 none text

/-- Whether a character belongs to a part of a class. -/
def Specifier.contains (c : Char) : Specifier → Bool
  | .single only => c = only
  | .range first last => first ≤ c && c ≤ last

/-- Whether some rest of a text satisfies a condition. -/
def anyRest (condition : List Char → Bool) : List Char → Bool
  | [] => condition []
  | c :: rest => condition (c :: rest) || anyRest condition rest

def fits : List Token → List Char → Bool
  | [], name => name.isEmpty
  | .anySequence :: rest, name => anyRest (fits rest) name
  | .anyDirectories :: rest, name => anyRest (fits rest) name
  | _ :: _, [] => false
  | .char only :: rest, c :: name => c = only && fits rest name
  | .anyChar :: rest, _ :: name => fits rest name
  | .within specifiers :: rest, c :: name =>
    specifiers.any (Specifier.contains c) && fits rest name
  | .except specifiers :: rest, c :: name =>
    !specifiers.any (Specifier.contains c) && fits rest name

inductive Component where
  /-- A name without wildcards. -/
  | literal (name : String)
  | wildcard (tokens : List Token)
  /-- Any number of directories. -/
  | directories
deriving DecidableEq, Repr

namespace Component

/-- The text of tokens that are all plain characters. -/
def literal? : List Token → Option (List Char)
  | [] => some []
  | .char c :: rest => (literal? rest).map (c :: ·)
  | _ => none

def ofTokens (tokens : List Token) : Component :=
  match literal? tokens with
  | some name => .literal (String.ofList name)
  | none => if tokens.contains .anyDirectories then .directories else .wildcard tokens

def fits (name : String) : Component → Bool
  | .literal text => text = name
  | .wildcard tokens => Glob.fits tokens name.toList
  | .directories => true

/-- Whether the component can stand for the directory itself or the one above it, which needs a
point at its beginning.
-/
def fitsSpecial (name : String) : Component → Bool
  | .wildcard (.char '.' :: rest) => Glob.fits (.char '.' :: rest) name.toList
  | _ => false

end Component

/-- The texts between slashes; a slash at the end begins no further one. -/
def pieces (chars : List Char) : List (List Char) :=
  let all := PathText.pieces chars
  if all.getLast? == some [] then all.dropLast else all

/-- The components of texts, up to the first that is not a pattern. -/
def components : List (List Char) → Except Fault (List Component)
  | [] => .ok []
  | piece :: rest =>
    match compile piece with
    | .error fault => .error fault
    | .ok tokens => (components rest).map (.ofTokens tokens :: ·)

/-- The components with runs of those that stand for any number of directories made one. -/
def collapse : List Component → List Component
  | [] => []
  | .directories :: rest =>
    match collapse rest with
    | .directories :: more => .directories :: more
    | more => .directories :: more
  | component :: rest => component :: collapse rest

structure PathPattern where
  absolute : Bool
  components : List Component
  /-- The pattern ends with a slash and stands for directories alone. -/
  directoriesOnly : Bool
deriving Repr

/-- The pattern that a text stands for. The whole text has to be a pattern, and each of its
components too.
-/
def parse (text : String) : Except Fault PathPattern :=
  let chars := text.toList
  let absolute := chars.head? == some '/'
  match compile chars with
  | .error fault => .error fault
  | .ok _ =>
    match components (pieces (if absolute then chars.drop 1 else chars)) with
    | .error fault => .error fault
    | .ok found => .ok ⟨absolute, collapse found, chars.getLast? == some '/'⟩

end ClonePlanner.Files.Glob
