import ClonePlanner.Files.Search
import ClonePlanner.Filter.BuiltIn

/-!
What loading relies on: a language of filters, and a search for the files that a pattern stands
for. Loading is the same for all of them; the program has one of each.
-/

namespace ClonePlanner.Command

open ClonePlanner.Files (Storage)

structure Services where
  filters : Filter.Engine
  /-- What is found for a pattern in a storage: what is wrong with the pattern, or one entry after
  another, each a path or the reason why there is none.
  -/
  search : Storage → String → Except String (List (Except String String))

namespace Services

/-- The search for files in a storage. It can look into every directory. -/
def findPaths (storage : Storage) (pattern : String)
    : Except String (List (Except String String)) :=
  match Files.Glob.parse pattern with
  | .error fault => .error fault.message
  | .ok parsed => .ok ((storage.paths parsed).map .ok)

/-- The services of the program. -/
def builtIn : Services := ⟨.builtIn, findPaths⟩

end Services

end ClonePlanner.Command
