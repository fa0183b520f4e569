/-!
Files and directories. A directory keeps its entries in the order of their names, so that walking
it visits siblings in order.
-/

namespace ClonePlanner.Files

/-- A file with its contents, or a directory with its entries. -/
inductive Node where
  | file (contents : ByteArray)
  | directory (entries : List (String × Node))
deriving Inhabited

/-- The names that lead from the root to a node. -/
abbrev Location := List String

namespace Node

def emptyDirectory : Node := .directory []

def isDirectory : Node → Bool
  | .directory _ => true
  | .file _ => false

/-- The entries of a directory; a file has none. -/
def entries : Node → List (String × Node)
  | .directory entries => entries
  | .file _ => []

def child? (name : String) : List (String × Node) → Option Node
  | [] => none
  | (key, node) :: rest => if key = name then some node else child? name rest

/-- The entries with one written at its place in the order of names. -/
def putEntry (name : String) (node : Node) : List (String × Node) → List (String × Node)
  | [] => [(name, node)]
  | (key, old) :: rest =>
    if key = name then (name, node) :: rest
    else if name < key then (name, node) :: (key, old) :: rest
    else (key, old) :: putEntry name node rest

def find? : Location → Node → Option Node
  | [], node => some node
  | name :: rest, node => (child? name node.entries).bind (find? rest)

/-- The tree with a node written at a location; directories on the way are made as needed. -/
def put (tree : Node) : Location → Node → Node
  | [], node => node
  | name :: rest, node =>
    let child := (child? name tree.entries).getD emptyDirectory
    .directory (putEntry name (child.put rest node) tree.entries)

end Node

end ClonePlanner.Files
