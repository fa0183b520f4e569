import ClonePlanner.Filter.Datum

/-!
Streams: the outputs of a filter up to its first failure.
-/

namespace ClonePlanner.Filter

/-- Outputs, and the value that was raised behind them, if one was. -/
structure Stream (α : Type) where
  values : List α
  failure : Option Datum
deriving Repr

namespace Stream

variable {α β γ : Type}

def empty : Stream α := ⟨[], none⟩

def one (value : α) : Stream α := ⟨[value], none⟩

def ofList (values : List α) : Stream α := ⟨values, none⟩

def fail (value : Datum) : Stream α := ⟨[], some value⟩

def refuse (message : List Char) : Stream α :=
  fail (.string (String.ofList message))

/-- The outputs of one stream and then another; nothing follows a failure. -/
def append (first second : Stream α) : Stream α :=
  match first.failure with
  | some _ => first
  | none => ⟨first.values ++ second.values, second.failure⟩

/-- All outputs of a filter on each of some values, up to the first failure. -/
def collectFrom (f : α → Stream β) (failure : Option Datum) : List α → Stream β
  | [] => ⟨[], failure⟩
  | value :: rest => (f value).append (collectFrom f failure rest)

/-- All outputs of a filter on each output, up to the first failure. -/
def bind (stream : Stream α) (f : α → Stream β) : Stream β :=
  collectFrom f stream.failure stream.values

def map (f : α → β) (stream : Stream α) : Stream β :=
  ⟨stream.values.map f, stream.failure⟩

/-- The first output or failure alone. -/
def takeFirst (stream : Stream α) : Stream α :=
  match stream.values with
  | value :: _ => one value
  | [] => stream

/-- The outputs up to the failure, and what a handler makes of the failure. -/
def recover (stream : Stream α) (handler : Datum → Stream α) : Stream α :=
  match stream.failure with
  | none => stream
  | some value => ⟨stream.values ++ (handler value).values, (handler value).failure⟩

/-- The outputs up to the failure. -/
def forget (stream : Stream α) : Stream α :=
  ⟨stream.values, none⟩

/-- The stream, without its failure if the failure is to be ignored. -/
def forgetIf (ignore : Bool) (stream : Stream α) : Stream α :=
  if ignore then stream.forget else stream

/-- The outputs collected in one list, or the failure. -/
def gather (stream : Stream α) : Stream (List α) :=
  match stream.failure with
  | none => one stream.values
  | some value => fail value

/-- A function of two values on all outputs of two streams; the second varies faster. -/
def product (f : α → β → Stream γ) (left : Stream α) (right : Stream β) : Stream γ :=
  left.bind fun first => right.bind fun second => f first second

end Stream

end ClonePlanner.Filter
