import ClonePlanner.Json.Tree

/-!
JSON pointers: a path of keys and indices, written with a slash before each step.
-/

namespace ClonePlanner.Json.Pointer

/-- A step with its escapes resolved: `~1` stands for a slash and `~0` for a tilde. -/
def unescape : List Char → List Char
  | [] => []
  | '~' :: '1' :: rest => '/' :: unescape rest
  | '~' :: '0' :: rest => '~' :: unescape rest
  | c :: rest => c :: unescape rest

/-- The texts between slashes. -/
def segments : List Char → List (List Char)
  | [] => [[]]
  | c :: rest =>
    if c = '/' then [] :: segments rest
    else match segments rest with
      | [] => [[c]]
      | segment :: more => (c :: segment) :: more

/-- The steps of a pointer, if it is one: empty, or beginning with a slash. -/
def steps? (pointer : String) : Option (List String) :=
  match pointer.toList with
  | [] => some []
  | '/' :: rest => some ((segments rest).map fun step => String.ofList (unescape step))
  | _ => none

/-- The number that decimal digits stand for. -/
def ofDigits (digits : List Char) : Nat :=
  digits.foldl (fun n c => n * 10 + (c.toNat - '0'.toNat)) 0

/-- The index that a step names: decimal digits without needless zeros. -/
def index? (step : String) : Option Nat :=
  match step.toList with
  | [] => none
  | ['0'] => some 0
  | '0' :: _ => none
  | digits => if digits.all Char.isDigit then some (ofDigits digits) else none

def child? (step : String) : Value → Option Value
  | .array items => (index? step).bind (items[·]?)
  | .object fields => Entries.get? step fields
  | _ => none

def select? (pointer : String) (document : Value) : Option Value :=
  (steps? pointer).bind fun steps => steps.foldlM (fun value step => child? step value) document

end ClonePlanner.Json.Pointer
