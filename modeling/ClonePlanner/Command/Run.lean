import ClonePlanner.Command.Load
import ClonePlanner.Encoding.Plan
import ClonePlanner.Explanation

/-!
Carrying out an invocation on a storage. Nothing is written before all declarations are loaded.
-/

namespace ClonePlanner.Command

open ClonePlanner.Files (Storage)

inductive Fault where
  | load (fault : LoadFault)
  | createDirectory (path : String) (refusal : Files.Refusal)
  | writeFile (path : String) (refusal : Files.Refusal)

def Fault.message : Fault → String
  | .load fault => fault.message
  | .createDirectory path refusal => "creating " ++ path ++ ": " ++ refusal.message
  | .writeFile path refusal => "writing " ++ path ++ ": " ++ refusal.message

structure Outcome where
  output : String
  storage : Storage
  fault : Option Fault

/-- The outcome of writing a text to a path, with the directory that holds it made first. -/
def write (storage : Storage) (path text : String) : Outcome :=
  let (made, refusal) := match Files.PathText.parent? path with
    | none => (storage, none)
    | some parent => storage.makeDirectories (parent.length + 1) parent
  match refusal with
  | some refusal =>
    ⟨"", made, some (.createDirectory ((Files.PathText.parent? path).getD "") refusal)⟩
  | none =>
    match made.writeFile path text.toUTF8 with
    | .ok written => ⟨"", written, none⟩
    | .error refusal => ⟨"", made, some (.writeFile path refusal)⟩

namespace Invocation

def present (invocation : Invocation) (storage : Storage) (color : Bool) (report : PlanReport)
    : Outcome :=
  match invocation.task with
  | .explain => ⟨report.explain color, storage, none⟩
  | .plan =>
    let text := report.json invocation.compact
    match invocation.out with
    | none => ⟨text ++ "\n", storage, none⟩
    | some path => write storage path text

def run (invocation : Invocation) (services : Services) (storage : Storage) (color : Bool)
    : Outcome :=
  if invocation.noOp then
    ⟨"", storage, none⟩
  else
    match invocation.load services storage with
    | .error fault => ⟨"", storage, some (.load fault)⟩
    | .ok declarations =>
      invocation.present storage color (.ofDeclarations declarations invocation.options)

end Invocation

end ClonePlanner.Command
