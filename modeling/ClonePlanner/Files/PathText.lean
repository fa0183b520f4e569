/-!
Paths as texts: names with slashes between them.
-/

namespace ClonePlanner.Files.PathText

/-- The texts between slashes; there is at least one. -/
def pieces : List Char → List (List Char)
  | [] => [[]]
  | c :: rest =>
    if c = '/' then [] :: pieces rest
    else match pieces rest with
      | [] => [[c]]
      | piece :: more => (c :: piece) :: more

/-- The steps of a path: its names, with repeated slashes counted once. -/
def steps (path : String) : List String :=
  ((pieces path.toList).filter (!·.isEmpty)).map String.ofList

/-- Whether the path begins at the root. -/
def isAbsolute (path : String) : Bool :=
  path.toList.head? == some '/'

/-- Whether the path ends with a slash. -/
def endsWithSlash (path : String) : Bool :=
  path.toList.getLast? == some '/'

/-- Whether the path stands for the directory that it is taken from. -/
def isHere (path : String) : Bool :=
  (pieces path.toList).all fun piece => piece == ['.']

def join (path step : String) : String :=
  if path.isEmpty || endsWithSlash path then path ++ step else path ++ "/" ++ step

/-- The end of a path, reversed, without slashes and without steps that stay where they are. A
point that begins the path is kept.
-/
def trimEnd : List Char → List Char
  | '/' :: rest => if rest.isEmpty then ['/'] else trimEnd rest
  | '.' :: '/' :: rest => if rest.isEmpty then ['/'] else trimEnd rest
  | path => path

/-- The path of the directory that holds what a path leads to; a path without steps has none. -/
def parent? (path : String) : Option String :=
  match trimEnd path.toList.reverse with
  | [] => none
  | ['/'] => none
  | trimmed =>
    let before := trimmed.dropWhile (· != '/')
    some (String.ofList (trimEnd before).reverse)

end ClonePlanner.Files.PathText
