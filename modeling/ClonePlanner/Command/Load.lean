import ClonePlanner.Command.Arguments
import ClonePlanner.Command.Services
import ClonePlanner.Decoding.Declaration
import ClonePlanner.Json.Pointer
import ClonePlanner.Text.Blank

/-!
Loading declarations from files. All patterns are resolved before any file is read; all documents
of a file are parsed before one of them is looked into; then each document is narrowed by the
pointer and the filter, and decoded.
-/

namespace ClonePlanner.Command

open ClonePlanner.Files (Storage)
open ClonePlanner.Json (Value)

inductive LoadFault where
  | input (pattern message : String)
  | read (path : String) (fault : Files.ReadFault)
  | json (origin : String) (fault : Json.SyntaxFault)
  | unselected (pointer origin : String)
  | filter (origin : String) (fault : Filter.Fault)
  | descriptor (fault : Decoding.DescriptorFault)

def LoadFault.message : LoadFault → String
  | .input pattern message =>
    "failed to resolve input pattern `" ++ pattern ++ "`: " ++ message
  | .read path fault => "failed to read " ++ path ++ ": " ++ fault.message
  | .json origin fault => "failed to parse JSON in " ++ origin ++ ": " ++ fault.message
  | .unselected pointer origin =>
    "JSON pointer `" ++ pointer ++ "` selected nothing in " ++ origin
  | .filter origin fault => "jq filter failed on " ++ origin ++ ": " ++ fault.message
  | .descriptor fault => fault.message

/-- What comes of loading. -/
abbrev Loaded (α : Type) := Except LoadFault α

/-- The lists made of some items, one after another, up to the first fault. -/
def gather {α β : Type} (f : α → Loaded (List β)) : List α → Loaded (List β)
  | [] => .ok []
  | item :: rest =>
    match f item with
    | .error fault => .error fault
    | .ok first => (gather f rest).map (first ++ ·)

/-- The paths among the entries that are found for a pattern, up to one that has none. -/
def entryPaths (input : String) : List (Except String String) → Loaded (List String)
  | [] => .ok []
  | .error message :: _ => .error (.input input message)
  | .ok path :: rest => (entryPaths input rest).map (path :: ·)

/-- The paths that an input stands for: itself, or what is found for it if it is a pattern. -/
def inputPaths (services : Services) (storage : Storage) (input : String)
    : Loaded (List String) :=
  if Files.Glob.isPattern input then
    match services.search storage input with
    | .error message => .error (.input input message)
    | .ok [] => .error (.input input "glob pattern matched no files")
    | .ok entries => entryPaths input entries
  else
    .ok [input]

/-- The document in a text from a named place. -/
def parseDocument (origin text : String) : Loaded Value :=
  match Json.read text with
  | .error fault => .error (.json origin fault)
  | .ok document => .ok document

/-- The documents on lines, of which the first has the given number; blank lines hold none. -/
def lineDocuments (origin : String) : Nat → List (List Char) → Loaded (List Value)
  | _, [] => .ok []
  | number, line :: rest =>
    if line.all Text.isBlank then
      lineDocuments origin (number + 1) rest
    else
      match parseDocument s!"{origin}:{number}" (String.ofList line) with
      | .error fault => .error fault
      | .ok document => (lineDocuments origin (number + 1) rest).map (document :: ·)

/-- The documents in the text of a file. -/
def documents (ndjson : Bool) (origin text : String) : Loaded (List Value) :=
  if ndjson then
    lineDocuments origin 1 (Text.lines text.toList)
  else
    (parseDocument origin text).map ([·])

/-- The parts of a document that the pointer and the filter select. -/
def select (engine : Filter.Engine) (pointer filter : Option String) (origin : String)
    (document : Value) : Loaded (List Value) :=
  let pointed : Loaded Value := match pointer with
    | none => .ok document
    | some pointer =>
      match Json.Pointer.select? pointer document with
      | some part => .ok part
      | none => .error (.unselected pointer origin)
  match pointed, filter with
  | .error fault, _ => .error fault
  | .ok part, none => .ok [part]
  | .ok part, some filter =>
    match engine.run filter part with
    | .error fault => .error (.filter origin fault)
    | .ok parts => .ok parts

def declarations (origin : String) (document : Value) : Loaded (List TypeDeclaration) :=
  match Decoding.declarationsFrom origin document with
  | .error fault => .error (.descriptor fault)
  | .ok found => .ok found

namespace Invocation

/-- The declarations in the parts that are selected of a document. -/
def loadDocument (invocation : Invocation) (engine : Filter.Engine) (origin : String)
    (document : Value) : Loaded (List TypeDeclaration) :=
  match select engine invocation.pointer invocation.filter origin document with
  | .error fault => .error fault
  | .ok parts => gather (declarations origin) parts

def loadFile (invocation : Invocation) (engine : Filter.Engine) (storage : Storage)
    (path : String) : Loaded (List TypeDeclaration) :=
  match storage.readText path with
  | .error fault => .error (.read path fault)
  | .ok text =>
    match documents invocation.ndjson path text with
    | .error fault => .error fault
    | .ok found => gather (invocation.loadDocument engine path) found

def load (invocation : Invocation) (services : Services) (storage : Storage)
    : Loaded (List TypeDeclaration) :=
  match gather (inputPaths services storage) invocation.patterns with
  | .error fault => .error fault
  | .ok paths => gather (invocation.loadFile services.filters storage) paths

end Invocation

end ClonePlanner.Command
