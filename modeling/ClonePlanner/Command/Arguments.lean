import ClonePlanner.Planning.Options

/-!
The command line: a task, its options and their values. An option without an attached value
waits for the arguments behind it; what is wrong with its values shows only when the next option
or the end of the line comes.
-/

namespace ClonePlanner.Command

/-- What a command line asks for. -/
inductive Task where
  | plan
  | explain
deriving DecidableEq, Repr

def Task.ofName? : String → Option Task
  | "plan" => some .plan
  | "explain" => some .explain
  | _ => none

/-- Why a command line is not carried out. -/
inductive UsageFault where
  /-- Help was asked for. -/
  | help
  | noArguments
  | unknownTask
  | unknownArgument
  | badValue
  | repeatedOption
  | valueForFlag
  | missingInput
deriving DecidableEq, Repr

def UsageFault.message : UsageFault → String
  | .help => "help was asked for"
  | .noArguments => "a task is missing"
  | .unknownTask => "there is no such task"
  | .unknownArgument => "an argument is not expected"
  | .badValue => "the value of an option is missing or not one of its values"
  | .repeatedOption => "an option is given more than once"
  | .valueForFlag => "an option that takes no value is given one"
  | .missingInput => "no input is given"

inductive OptionName where
  | ndjson
  | pointer
  | filter
  | input
  | capability
  | multiRankArraysAsStatements
  | compact
  | out
  | noOp
  | help
deriving DecidableEq, Repr

/-- How many values an option takes. -/
inductive Arity where
  | flag
  | single
  /-- One or more, also in several places. -/
  | many
deriving DecidableEq, Repr

namespace OptionName

def arity : OptionName → Arity
  | .pointer | .filter | .capability | .out => .single
  | .input => .many
  | .ndjson | .multiRankArraysAsStatements | .compact | .noOp | .help => .flag

def belongsTo (option : OptionName) (task : Task) : Bool :=
  match option, task with
  | .compact, .explain | .out, .explain => false
  | _, _ => true

def ofLong? : String → Option OptionName
  | "ndjson" => some .ndjson
  | "json-pointer" => some .pointer
  | "jq-expr" => some .filter
  | "input" => some .input
  | "capability" => some .capability
  | "multi-rank-arrays-as-statements" => some .multiRankArraysAsStatements
  | "compact" => some .compact
  | "out" => some .out
  | "no-op" => some .noOp
  | "help" => some .help
  | _ => none

def ofShort? : Char → Option OptionName
  | 'i' => some .input
  | 'o' => some .out
  | 'h' => some .help
  | _ => none

/-- Whether a value is one of those that the option takes. -/
def accepts (option : OptionName) (value : String) : Bool :=
  match option with
  | .capability => value = "deep" || value = "shallow" || value = "both"
  | .out => !value.isEmpty
  | _ => true

end OptionName

structure Reading where
  /-- Options with their values. -/
  given : List (OptionName × List String)
  /-- An option whose values have not been looked at. -/
  pending : Option (OptionName × List String)
  /-- Whether an argument that is no option is a value of the pending one. -/
  waiting : Bool
  /-- Whether options have been ended by two dashes. -/
  ended : Bool

namespace Reading

def start : Reading := ⟨[], none, false, false⟩

def has (reading : Reading) (option : OptionName) : Bool :=
  reading.given.any (·.1 == option)

/-- The values of an option, from all places. -/
def values (reading : Reading) (option : OptionName) : List String :=
  (reading.given.filter (·.1 == option)).flatMap (·.2)

/-- The options with one more and its values. -/
def accept (reading : Reading) (option : OptionName) (values : List String)
    : Except UsageFault Reading :=
  let next : Reading := { reading with given := reading.given ++ [(option, values)] }
  match option.arity with
  | .flag =>
    if option = .help then .error .help
    else if reading.has option then .error .repeatedOption
    else .ok next
  | .single =>
    if values.isEmpty then .error .badValue
    else if reading.has option then .error .repeatedOption
    else if values.all option.accepts then .ok next
    else .error .badValue
  | .many => if values.isEmpty then .error .badValue else .ok next

/-- The options with the pending one looked at. -/
def settle (reading : Reading) : Except UsageFault Reading :=
  match reading.pending with
  | none => .ok reading
  | some (option, values) => { reading with pending := none }.accept option values

/-- The options with a flag, or with an option whose only value is attached to it. -/
def supply (reading : Reading) (option : OptionName) (values : List String)
    : Except UsageFault Reading :=
  match reading.settle with
  | .error fault => .error fault
  | .ok settled => { settled with waiting := false }.accept option values

/-- The options with one that waits for its values. -/
def await (reading : Reading) (option : OptionName) : Except UsageFault Reading :=
  match reading.settle with
  | .error fault => .error fault
  | .ok settled => .ok { settled with pending := some (option, []), waiting := true }

/-- A long option, with the value that is attached by an equals sign. -/
def long (task : Task) (reading : Reading) (name : String) (value : Option String)
    : Except UsageFault Reading :=
  match (OptionName.ofLong? name).filter (·.belongsTo task) with
  | none => .error .unknownArgument
  | some option =>
    match option.arity, value with
    | .flag, none => reading.supply option []
    -- this is seen before the pending option is looked at
    | .flag, some _ => .error .valueForFlag
    | _, some value => reading.supply option [value]
    | _, none => reading.await option

/-- Short options in a row. The rest of the row is the value of the first that takes one. -/
def shorts (task : Task) (reading : Reading) : List Char → Except UsageFault Reading
  | [] => .ok { reading with waiting := false }
  | c :: rest =>
    match (OptionName.ofShort? c).filter (·.belongsTo task) with
    | none => .error .unknownArgument
    | some option =>
      if option.arity = .flag then
        match reading.supply option [] with
        | .error fault => .error fault
        | .ok next => next.shorts task rest
      else
        match rest with
        | [] => reading.await option
        | '=' :: value => reading.supply option [String.ofList value]
        | value => reading.supply option [String.ofList value]

def plain (reading : Reading) (argument : String) : Except UsageFault Reading :=
  match reading.waiting, reading.pending with
  | true, some (option, values) =>
    .ok { reading with
      pending := some (option, values ++ [argument])
      waiting := option.arity = .many }
  | _, _ => .error .unknownArgument

/-- A long option's name, and the value that is attached to it. -/
def splitLong (chars : List Char) : String × Option String :=
  let name := chars.takeWhile (· != '=')
  match chars.drop name.length with
  | [] => (String.ofList name, none)
  | _ :: value => (String.ofList name, some (String.ofList value))

def step (task : Task) (reading : Reading) (argument : String) : Except UsageFault Reading :=
  if reading.ended then
    .error .unknownArgument
  else match argument.toList with
    | ['-', '-'] => .ok { reading with ended := true }
    | '-' :: '-' :: rest =>
      let (name, value) := splitLong rest
      reading.long task name value
    | '-' :: c :: rest => reading.shorts task (c :: rest)
    | _ => reading.plain argument

end Reading

/-- A command line that can be carried out. -/
structure Invocation where
  task : Task
  patterns : List String
  ndjson : Bool
  pointer : Option String
  filter : Option String
  options : PlannerOptions
  compact : Bool
  out : Option String
  noOp : Bool
deriving Repr

namespace Invocation

/-- The capabilities that a value of the capability option stands for. -/
def requested : Option String → Capabilities
  | some "deep" => ⟨true, false⟩
  | some "shallow" => ⟨false, true⟩
  | _ => .both

/-- The task with the options read for it. Inputs have to be given. -/
def ofReading (task : Task) (reading : Reading) : Except UsageFault Invocation :=
  if reading.has .input then
    .ok {
      task
      patterns := reading.values .input
      ndjson := reading.has .ndjson
      pointer := (reading.values .pointer).head?
      filter := (reading.values .filter).head?
      options := {
        requested := requested (reading.values .capability).head?
        inlineMultiRankArrays := !reading.has .multiRankArraysAsStatements
      }
      compact := reading.has .compact
      out := (reading.values .out).head?
      noOp := reading.has .noOp
    }
  else
    .error .missingInput

/-- The task with the arguments behind its name. -/
def ofOptions (task : Task) (arguments : List String) : Except UsageFault Invocation :=
  match arguments.foldlM (Reading.step task) .start with
  | .error fault => .error fault
  | .ok reading =>
    match reading.settle with
    | .error fault => .error fault
    | .ok settled => ofReading task settled

/-- What is wrong with the words behind a request for help on a task. -/
def helpFault : List String → UsageFault
  | [] => .help
  | [word] => if (Task.ofName? word).isSome || word = "help" then .help else .unknownTask
  | _ => .unknownTask

/-- What is wrong with a line that does not begin with the name of a task. -/
def startFault (argument : String) : UsageFault :=
  match argument.toList with
  | '-' :: '-' :: rest =>
    match Reading.splitLong rest with
    | ("help", none) => .help
    | ("help", some _) => .valueForFlag
    | _ => .unknownArgument
  | '-' :: 'h' :: _ => .help
  | '-' :: _ :: _ => .unknownArgument
  | _ => .unknownTask

/-- The invocation that the arguments of a command line ask for. -/
def ofArguments : List String → Except UsageFault Invocation
  | [] => .error .noArguments
  | ["--"] => .error .noArguments
  | "--" :: word :: _ =>
    .error (if (Task.ofName? word).isSome || word = "help" then .unknownArgument
      else .unknownTask)
  | "help" :: rest => .error (helpFault rest)
  | word :: rest =>
    match Task.ofName? word with
    | some task => ofOptions task rest
    | none => .error (startFault word)

end Invocation

end ClonePlanner.Command
