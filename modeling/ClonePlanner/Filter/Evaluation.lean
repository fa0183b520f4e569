import ClonePlanner.Filter.Arithmetic

/-!
Running filters. The keys and bounds in a path are taken from the input of the path, all of them
before its first step.
-/

namespace ClonePlanner.Filter

/-- Values bound to names, newest first. -/
abbrev Scope := List (String × Datum)

/-- The values of a fold with an update for each item, depth first. A failure among the items is
met when they run out.
-/
def foldStream (update : Datum → Datum → Stream Datum) (failure : Option Datum)
    : List Datum → Datum → Stream Datum
  | [], state => match failure with
    | none => .one state
    | some value => .fail value
  | item :: rest, state => (update item state).bind (foldStream update failure rest)

namespace Term

mutual

/-- The outputs of a term for an input. -/
def eval (scope : Scope) : Term → Datum → Stream Datum
  | .identity, input => .one input
  | .descend, input => .ofList input.descendants
  | .literal value, _ => .one value
  | .variable name, _ => match Entries.get? name scope with
    | some value => .one value
    | none => .empty
  | .negate operand, input => (eval scope operand input).bind Datum.negate
  | .collect items, input => (eval scope items input).gather.map .array
  | .field rest key value, input =>
    (eval scope rest input).bind fun object =>
      (eval scope key input).product (fun key value => object.withField key value)
        (eval scope value input)
  | .path subject parts, input =>
    (eval scope subject input).bind fun start =>
      (evalParts scope parts input).bind fun steps => Part.applyAll steps start
  | .pipe first second, input => (eval scope first input).bind (eval scope second)
  | .bind source name body, input =>
    (eval scope source input).bind fun value => eval ((name, value) :: scope) body input
  | .both first second, input => (eval scope first input).append (eval scope second input)
  | .operate operation left right, input =>
    (eval scope left input).product operation.apply (eval scope right input)
  | .decide stop left right, input =>
    (eval scope left input).bind fun value =>
      if value.isTruthy == stop then .one (.bool stop)
      else (eval scope right input).map fun value => .bool value.isTruthy
  | .alternative left right, input =>
    let stream := eval scope left input
    let kept : Stream Datum := ⟨stream.values.filter Datum.isTruthy, stream.failure⟩
    if kept.values.isEmpty && kept.failure.isNone then eval scope right input else kept
  | .branch condition yes no, input =>
    (eval scope condition input).bind fun value =>
      if value.isTruthy then eval scope yes input else eval scope no input
  | .attempt body handler, input =>
    (eval scope body input).recover fun value => evalOption scope .empty handler value
  | .reduce source name start update, input =>
    let items := eval scope source input
    (eval scope start input).bind
      (foldStream (fun item state => eval ((name, item) :: scope) update state)
        items.failure items.values)
  | .takeFirst source, input => (eval scope source input).takeFirst
  | .has key, input => (eval scope key input).bind input.has
  | .builtin function, input => function.apply input
  | .empty, _ => .empty
  | .undefined _ _, _ => .empty
termination_by structural term => term

/-- The steps with all choices of their keys and bounds; later ones vary faster. -/
def evalParts (scope : Scope) : List (Part Term) → Datum → Stream (List (Part Datum))
  | [], _ => .one []
  | part :: rest, input =>
    (evalPart scope part input).product (fun step steps => .one (step :: steps))
      (evalParts scope rest input)
termination_by structural parts => parts

/-- A step with all choices of its key or bounds. -/
def evalPart (scope : Scope) : Part Term → Datum → Stream (Part Datum)
  | .index optional key, input => (eval scope key input).map (.index optional ·)
  | .slice optional first last, input =>
    (evalBound scope first input).product
      (fun first last => .one (.slice optional first last)) (evalBound scope last input)
  | .iterate optional, _ => .one (.iterate optional)
termination_by structural part => part

/-- All choices of a bound that may be missing. -/
def evalBound (scope : Scope) : Option Term → Datum → Stream (Option Datum)
  | none, _ => .one none
  | some term, input => (eval scope term input).map some
termination_by structural term => term

/-- The outputs of a term, or a given stream if there is no term. -/
def evalOption (scope : Scope) (absent : Stream Datum) : Option Term → Datum → Stream Datum
  | none, _ => absent
  | some term, input => eval scope term input
termination_by structural term => term

end

end Term

end ClonePlanner.Filter
