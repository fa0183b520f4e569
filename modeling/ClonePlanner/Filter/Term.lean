import ClonePlanner.Filter.Datum

/-!
Filters: functions from a value to a stream of values. Named functions are given by the terms
that they stand for, so that a small set of terms suffices.
-/

namespace ClonePlanner.Filter

inductive Operation where
  | add
  | subtract
  | multiply
  | equal
  | unequal
  | less
  | atMost
  | greater
  | atLeast
deriving DecidableEq, Repr

inductive Builtin where
  | length
  | keys
  | type
  | raise
deriving DecidableEq, Repr

/-- A step to parts of a value, over filters `τ` that give keys and bounds. A problem with an
optional step leaves no outputs instead of a failure.
-/
inductive Part (τ : Type) where
  | index (optional : Bool) (key : τ)
  | slice (optional : Bool) (first last : Option τ)
  | iterate (optional : Bool)
deriving Repr

/-- A filter. -/
inductive Term where
  | identity
  | descend
  | literal (value : Datum)
  | variable (name : String)
  | negate (operand : Term)
  | collect (items : Term)
  /-- The objects of `rest` with a key and its value added. -/
  | field (rest key value : Term)
  | path (subject : Term) (parts : List (Part Term))
  | pipe (first second : Term)
  /-- Each output of `source` is bound to a name while `body` runs. -/
  | bind (source : Term) (name : String) (body : Term)
  | both (first second : Term)
  | operate (operation : Operation) (left right : Term)
  /-- Both or either; the second operand runs when the first does not decide. -/
  | decide (stop : Bool) (left right : Term)
  | alternative (left right : Term)
  | branch (condition yes no : Term)
  | attempt (body : Term) (handler : Option Term)
  | reduce (source : Term) (name : String) (start update : Term)
  | takeFirst (source : Term)
  | has (key : Term)
  | builtin (function : Builtin)
  | empty
  /-- A call of a function that there is not, with this many arguments. -/
  | undefined (name : String) (arity : Nat)
deriving Inhabited, Repr

namespace Term

/-- The iteration over all parts of each output. -/
def each (subject : Term) : Term :=
  .path subject [.iterate false]

/-- The meaning of a function name with its arguments. -/
def call (name : String) (arguments : List Term) : Term :=
  match name, arguments with
  | "null", [] => .literal .null
  | "true", [] => .literal (.bool true)
  | "false", [] => .literal (.bool false)
  | "empty", [] => .empty
  | "error", [] => .builtin .raise
  | "error", [value] => .pipe value (.builtin .raise)
  | "not", [] => .branch .identity (.literal (.bool false)) (.literal (.bool true))
  | "length", [] => .builtin .length
  | "keys", [] => .builtin .keys
  | "type", [] => .builtin .type
  | "has", [key] => .has key
  | "select", [condition] => .branch condition .identity .empty
  | "map", [function] => .collect (.pipe (each .identity) function)
  | "add", [] =>
    .reduce (each .identity) "item" (.literal .null)
      (.operate .add .identity (.variable "item"))
  | "first", [] => .path .identity [.index false (.literal (Datum.integer 0))]
  | "first", [source] => .takeFirst source
  | _, _ => .undefined name arguments.length

mutual

/-- The names in the term that have no meaning, with the given variables bound around it. Each
comes with what it should have named.
-/
def undefinedNames (scope : List String) : Term → List (String × String)
  | .identity | .descend | .literal _ | .builtin _ | .empty => []
  | .undefined name arity => [(name, s!"Filter({arity})")]
  | .variable name => if scope.contains name then [] else [("$" ++ name, "Var")]
  | .negate operand => undefinedNames scope operand
  | .collect items => undefinedNames scope items
  | .field rest key value =>
    undefinedNames scope rest ++ undefinedNames scope key ++ undefinedNames scope value
  | .path subject parts => undefinedNames scope subject ++ undefinedInParts scope parts
  | .pipe first second => undefinedNames scope first ++ undefinedNames scope second
  | .bind source name body => undefinedNames scope source ++ undefinedNames (name :: scope) body
  | .both first second => undefinedNames scope first ++ undefinedNames scope second
  | .operate _ left right => undefinedNames scope left ++ undefinedNames scope right
  | .decide _ left right => undefinedNames scope left ++ undefinedNames scope right
  | .alternative left right => undefinedNames scope left ++ undefinedNames scope right
  | .branch condition yes no =>
    undefinedNames scope condition ++ undefinedNames scope yes ++ undefinedNames scope no
  | .attempt body handler => undefinedNames scope body ++ undefinedInOption scope handler
  | .reduce source name start update =>
    undefinedNames scope source ++ undefinedNames scope start
      ++ undefinedNames (name :: scope) update
  | .takeFirst source => undefinedNames scope source
  | .has key => undefinedNames scope key
termination_by structural term => term

/-- The names without a meaning in the steps. -/
def undefinedInParts (scope : List String) : List (Part Term) → List (String × String)
  | [] => []
  | part :: rest => undefinedInPart scope part ++ undefinedInParts scope rest
termination_by structural parts => parts

/-- The names without a meaning in the step. -/
def undefinedInPart (scope : List String) : Part Term → List (String × String)
  | .index _ key => undefinedNames scope key
  | .slice _ first last => undefinedInOption scope first ++ undefinedInOption scope last
  | .iterate _ => []
termination_by structural part => part

/-- The names without a meaning in the term, if there is one. -/
def undefinedInOption (scope : List String) : Option Term → List (String × String)
  | none => []
  | some term => undefinedNames scope term
termination_by structural term => term

end

end Term

end ClonePlanner.Filter
