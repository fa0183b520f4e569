import ClonePlanner.Files.Node
import ClonePlanner.Files.PathText

/-!
A file system as a value: the tree below the root, and the directory that relative paths are
taken from. Paths are followed step by step, and each step needs a directory to start from.
-/

namespace ClonePlanner.Files

inductive Refusal where
  | notFound
  | exists
  | notDirectory
  | isDirectory
  | nameTooLong
  | invalidName
deriving DecidableEq, Repr

def Refusal.message : Refusal → String
  | .notFound => "No such file or directory (os error 2)"
  | .exists => "File exists (os error 17)"
  | .notDirectory => "Not a directory (os error 20)"
  | .isDirectory => "Is a directory (os error 21)"
  | .nameTooLong => "File name too long (os error 36)"
  | .invalidName => "file name contained an unexpected NUL byte"

/-- Why the text of a file is not to be had. -/
inductive ReadFault where
  | refused (refusal : Refusal)
  | notText
deriving DecidableEq, Repr

def ReadFault.message : ReadFault → String
  | .refused refusal => refusal.message
  | .notText => "stream did not contain valid UTF-8"

/-- A file system. -/
structure Storage where
  root : Node
  /-- The location that relative paths start from. -/
  base : Location
deriving Inhabited

namespace Storage

def node? (storage : Storage) (location : Location) : Option Node :=
  storage.root.find? location

/-- Whether a directory is at a location. -/
def isDirectoryAt (storage : Storage) (location : Location) : Bool :=
  match storage.node? location with
  | some node => node.isDirectory
  | none => false

/-- The location one step further. A point stays, two points go up, and the root is above
itself.
-/
def enter (storage : Storage) (location : Location) (step : String)
    : Except Refusal Location :=
  match storage.node? location with
  | none => .error .notFound
  | some (.file _) => .error .notDirectory
  | some (.directory entries) =>
    if step = "." then .ok location
    else if step = ".." then .ok location.dropLast
    else if 255 < step.utf8ByteSize then .error .nameTooLong
    else match Node.child? step entries with
      | some _ => .ok (location ++ [step])
      | none => .error .notFound

/-- The location at the end of some steps. -/
def follow (storage : Storage) : Location → List String → Except Refusal Location
  | location, [] => .ok location
  | location, step :: rest =>
    match storage.enter location step with
    | .error refusal => .error refusal
    | .ok next => storage.follow next rest

/-- Where a path starts. -/
def start (storage : Storage) (path : String) : Location :=
  if PathText.isAbsolute path then [] else storage.base

/-- What is wrong with the text of a path itself. -/
def checkPath (path : String) : Except Refusal Unit :=
  if path.toList.contains '\x00' then .error .invalidName
  else if path.isEmpty then .error .notFound
  else if 4096 ≤ path.utf8ByteSize then .error .nameTooLong
  else .ok ()

/-- The location of a path. A slash at its end stands for a directory. -/
def locate (storage : Storage) (path : String) : Except Refusal Location :=
  match checkPath path with
  | .error refusal => .error refusal
  | .ok () =>
    match storage.follow (storage.start path) (PathText.steps path) with
    | .error refusal => .error refusal
    | .ok location =>
      if PathText.endsWithSlash path && !storage.isDirectoryAt location then
        .error .notDirectory
      else
        .ok location

/-- Whether a path leads to a directory. -/
def hasDirectory (storage : Storage) (path : String) : Bool :=
  match storage.locate path with
  | .ok location => storage.isDirectoryAt location
  | .error _ => false

def readBytes (storage : Storage) (path : String) : Except Refusal ByteArray :=
  match storage.locate path with
  | .error refusal => .error refusal
  | .ok location =>
    match storage.node? location with
    | some (.file contents) => .ok contents
    | some (.directory _) => .error .isDirectory
    | none => .error .notFound

def readText (storage : Storage) (path : String) : Except ReadFault String :=
  match storage.readBytes path with
  | .error refusal => .error (.refused refusal)
  | .ok contents =>
    match String.fromUTF8? contents with
    | some text => .ok text
    | none => .error .notText

/-- The location of the directory that the last step of a path is taken from, and that step. -/
def locateLast (storage : Storage) (path : String) : Except Refusal (Location × String) :=
  match checkPath path with
  | .error refusal => .error refusal
  | .ok () =>
    let steps := PathText.steps path
    match storage.follow (storage.start path) steps.dropLast with
    | .error refusal => .error refusal
    | .ok location =>
      if storage.isDirectoryAt location then .ok (location, steps.getLast?.getD ".")
      else .error .notDirectory

/-- Whether a step is a name, and not a point or two. -/
def isName (step : String) : Bool :=
  step != "." && step != ".."

def makeDirectory (storage : Storage) (path : String) : Except Refusal Storage :=
  match storage.locateLast path with
  | .error refusal => .error refusal
  | .ok (location, step) =>
    match storage.enter location step with
    | .ok _ => .error .exists
    | .error .notFound =>
      .ok { storage with root := storage.root.put (location ++ [step]) .emptyDirectory }
    | .error refusal => .error refusal

/-- The storage with a directory made at a path, after those on the way to it where they are
missing. A directory that is there is left alone. The fuel bounds the steps of the path. What
was made stays when a later step is refused.
-/
def makeDirectories (storage : Storage) : Nat → String → Storage × Option Refusal
  | 0, _ => (storage, some .notFound)
  | fuel + 1, path =>
    if path.isEmpty then
      (storage, none)
    else
      match storage.makeDirectory path with
      | .ok next => (next, none)
      | .error .notFound =>
        match PathText.parent? path with
        | none => (storage, some .notFound)
        | some parent =>
          match storage.makeDirectories fuel parent with
          | (next, some refusal) => (next, some refusal)
          | (next, none) =>
            match next.makeDirectory path with
            -- a path that ends in two points may lead to what its parents' making has made
            | .ok last => (last, none)
            | .error refusal =>
              (next, if next.hasDirectory path then none else some refusal)
      | .error refusal => (storage, if storage.hasDirectory path then none else some refusal)

def writeFile (storage : Storage) (path : String) (contents : ByteArray)
    : Except Refusal Storage :=
  match storage.locateLast path with
  | .error refusal => .error refusal
  | .ok (location, step) =>
    if !isName step || PathText.endsWithSlash path then
      .error .isDirectory
    else
      match storage.enter location step with
      | .ok target =>
        if storage.isDirectoryAt target then .error .isDirectory
        else .ok { storage with root := storage.root.put target (.file contents) }
      | .error .notFound =>
        .ok { storage with root := storage.root.put (location ++ [step]) (.file contents) }
      | .error refusal => .error refusal

end Storage

end ClonePlanner.Files
