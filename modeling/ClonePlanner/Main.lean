import ClonePlanner.Command.Run

/-!
The program. It looks at the part of the file system that a command line names, carries out the
invocation on what it has seen, and writes down what came of it.
-/

namespace ClonePlanner.Main

open ClonePlanner.Command (Invocation)
open ClonePlanner.Files (Location Node Storage)

/-- How the program is called. -/
def usage : String := "\n".intercalate [
  "Plans how values are cloned, from declarations of their types.",
  "",
  "usage: plan -i INPUT... [OPTION...]      write the plans as JSON",
  "       explain -i INPUT... [OPTION...]   explain the plans",
  "",
  "  -i, --input INPUT...                  files, or quoted patterns for files",
  "      --ndjson                          every line of a file is a document",
  "      --json-pointer POINTER            take a part of each document",
  "      --jq-expr FILTER                  take what a filter makes of each document",
  "      --capability deep|shallow|both    which methods to plan",
  "      --multi-rank-arrays-as-statements",
  "                                        duplicate such arrays in statements",
  "      --compact                         write the plans on one line (plan only)",
  "  -o, --out FILE                        write the plans to a file (plan only)",
  "      --no-op                           show how the arguments are understood",
  "  -h, --help                            show this help"
]

/-- The entry of the file system at a location. -/
def entryAt (location : Location) : IO.FS.DirEntry :=
  ⟨"/", "/".intercalate location⟩

/-- An entry with all that is below it. Files are seen without their contents, and a link is not
followed into the directory that it leads to.
-/
partial def survey (entry : IO.FS.DirEntry) : IO Node := do
  let path := entry.path
  match (← path.symlinkMetadata).type with
  | .dir =>
    let below ← (← path.readDir).mapM fun child => return (child.fileName, ← survey child)
    return .directory (below.toList.mergeSort fun left right => left.1 ≤ right.1)
  | _ => return if ← path.isDir then .emptyDirectory else .file .empty

/-- The locations that the steps of a path lead to, one after another. -/
def trail (location : Location) : List String → List Location
  | [] => []
  | step :: rest =>
    let next :=
      if step = "." then location
      else if step = ".." then location.dropLast
      else location ++ [step]
    next :: trail next rest

/-- The storage with what is at a location, if it has not been seen yet. -/
def see (storage : Storage) (location : Location) : IO Storage := do
  let path := (entryAt location).path
  if (storage.node? location).isSome || !(← path.pathExists) then
    return storage
  let node := if ← path.isDir then Node.emptyDirectory else .file .empty
  return { storage with root := storage.root.put location node }

/-- The storage with what is at the steps of a path. -/
def seePath (storage : Storage) (path : String) : IO Storage :=
  (trail (storage.start path) (Files.PathText.steps path)).foldlM see storage

/-- The storage with the directory that a pattern begins with, and all that is below it. -/
def seePattern (storage : Storage) (pattern : String) : IO Storage := do
  let start := storage.start pattern
  let fixed := (Files.PathText.steps pattern).takeWhile (!Files.Glob.isPattern ·)
  let location := (trail start fixed).getLast?.getD start
  let seen ← (trail start fixed).foldlM see storage
  if seen.isDirectoryAt location then
    return { seen with root := seen.root.put location (← survey (entryAt location)) }
  else
    return seen

/-- The storage with the contents of the file that a path leads to. -/
def seeContents (storage : Storage) (path : String) : IO Storage := do
  match storage.locate path with
  | .error _ => return storage
  | .ok location =>
    if storage.isDirectoryAt location then
      return storage
    return { storage with
      root := storage.root.put location (.file (← IO.FS.readBinFile path)) }

/-- What an invocation can see of the file system: first names, then the contents of the files
that its inputs stand for.
-/
def look (invocation : Invocation) : IO Storage := do
  let base := Files.PathText.steps (← IO.currentDir).toString
  let (patterns, paths) := invocation.patterns.partition Files.Glob.isPattern
  let empty : Storage := ⟨Node.emptyDirectory.put base .emptyDirectory, base⟩
  let named ← (paths ++ invocation.out.toList).foldlM seePath
    (← patterns.foldlM seePattern empty)
  match Command.gather (Command.inputPaths .builtIn named) invocation.patterns with
  | .error _ => return named
  | .ok found => found.foldlM seeContents named

/-- Whether the explanation is colored: what the environment demands comes first, and otherwise
a terminal gets colors.
-/
def wantsColor : IO Bool := do
  let forced ← IO.getEnv "CLICOLOR_FORCE"
  let refused ← IO.getEnv "NO_COLOR"
  let allowed ← IO.getEnv "CLICOLOR"
  if forced.any (· != "0") then
    return true
  if refused.isSome then
    return false
  return allowed != some "0" && (← (← IO.getStdout).isTty)

/-- Write a file as it is in the storage. -/
def store (storage : Storage) (path : String) : IO Unit := do
  match storage.readBytes path with
  | .error _ => return
  | .ok contents =>
    if let some parent := Files.PathText.parent? path then
      if !parent.isEmpty then
        IO.FS.createDirAll parent
    IO.FS.writeBinFile path contents

/-- Carry out an invocation, and give the program's result. -/
def carryOut (invocation : Invocation) : IO UInt32 := do
  let outcome := invocation.run .builtIn (← look invocation) (← wantsColor)
  IO.print outcome.output
  match outcome.fault with
  | some fault =>
    IO.eprintln ("Error: " ++ fault.message)
    return 1
  | none =>
    invocation.out.forM (store outcome.storage)
    return 0

end ClonePlanner.Main

/-- The program: its result is 1 if the invocation fails, and 2 if the command line is not
understood.
-/
def main (arguments : List String) : IO UInt32 := do
  match ClonePlanner.Command.Invocation.ofArguments arguments with
  | .error .help =>
    IO.println ClonePlanner.Main.usage
    return 0
  | .error fault =>
    IO.eprintln (fault.message ++ "\n\n" ++ ClonePlanner.Main.usage)
    return 2
  | .ok invocation =>
    if invocation.noOp then
      IO.eprintln (reprStr invocation)
      return 0
    ClonePlanner.Main.carryOut invocation
