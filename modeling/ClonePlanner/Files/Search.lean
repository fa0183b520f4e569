import ClonePlanner.Files.Glob
import ClonePlanner.Files.Storage

/-!
The paths that a pattern stands for, depth first and in the order of names.
-/

namespace ClonePlanner.Files

/-- A place that a search has come to: its path as it will be shown, and its location. -/
structure Place where
  path : String
  location : Location
deriving Repr

namespace Place

/-- The place of an entry. The path of the directory where the search begins is left out. -/
def entry (place : Place) (name : String) : Place :=
  ⟨if PathText.isHere place.path then name else PathText.join place.path name,
    place.location ++ [name]⟩

/-- The place of the directory itself or of the one above it. -/
def special (place : Place) (path name : String) : Place :=
  ⟨path, if name = ".." then place.location.dropLast else place.location⟩

end Place

mutual

/-- What is found at the entries of a directory and below, where `found` gives what is found at
one of them.
-/
def descend (found : Place → Node → List Place) (place : Place) : Node → List Place
  | .file contents => found place (.file contents)
  | .directory entries =>
    found place (.directory entries) ++ descendEntries found place entries
termination_by structural node => node

/-- What is found at the given entries of a place and below. -/
def descendEntries (found : Place → Node → List Place) (place : Place)
    : List (String × Node) → List Place
  | [] => []
  | (name, node) :: rest =>
    descend found (place.entry name) node ++ descendEntries found place rest
termination_by structural entries => entries

end

namespace Storage

/-- The entries of the directory at a place. -/
def entriesAt (storage : Storage) (place : Place) : List (String × Node) :=
  match storage.node? place.location with
  | some node => node.entries
  | none => []

/-- The place that a name leads to from another one, if it is there. -/
def literalPlace? (storage : Storage) (place : Place) (name : String) : Option Place :=
  let path := if PathText.isHere place.path then name else PathText.join place.path name
  if name = "." || name = ".." then
    if storage.isDirectoryAt place.location then some (place.special path name) else none
  else if name.isEmpty then
    if !path.isEmpty && storage.isDirectoryAt place.location then some ⟨path, place.location⟩
    else none
  else
    match storage.enter place.location name with
    | .ok location => some ⟨path, location⟩
    | .error _ => none

/-- The place of the directory itself, or of the one above, that a component stands for. -/
def specialPlaces (storage : Storage) (place : Place) (component : Glob.Component)
    : List Place :=
  if storage.isDirectoryAt place.location then
    ["..", "."].filter (component.fitsSpecial ·) |>.map fun name =>
      place.special (PathText.join place.path name) name
  else
    []

/-- The places that components stand for from a place on. -/
def search (storage : Storage) : List Glob.Component → Place → List Place
  | [], place => [place]
  | .literal name :: rest, place =>
    match storage.literalPlace? place name with
    | some next => storage.search rest next
    | none => []
  | .wildcard tokens :: rest, place =>
    (storage.specialPlaces place (.wildcard tokens)).flatMap (storage.search rest)
      ++ (storage.entriesAt place).flatMap fun (name, _) =>
        if Glob.fits tokens name.toList then storage.search rest (place.entry name) else []
  | [.directories], place =>
    descendEntries (fun place node => if node.isDirectory then [place] else []) place
      (storage.entriesAt place)
  | .directories :: next :: rest, place =>
    descendEntries
      (fun place _ =>
        if next.fits (place.location.getLast?.getD "") then storage.search rest place else [])
      place (storage.entriesAt place)

/-- The paths that a pattern stands for. -/
def paths (storage : Storage) (pattern : Glob.PathPattern) : List String :=
  let start : Place := if pattern.absolute then ⟨"/", []⟩ else ⟨".", storage.base⟩
  let found := match pattern.components with
    | [] => []
    | components => storage.search components start
  (found.filter fun place =>
    !pattern.directoriesOnly || storage.isDirectoryAt place.location).map Place.path

end Storage

end ClonePlanner.Files
