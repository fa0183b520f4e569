import ClonePlanner.Filter.Engine
import ClonePlanner.Filter.Evaluation
import ClonePlanner.Filter.Grammar

/-!
The language of filters that the program brings along: paths, operators, bindings and a few named
functions.
-/

namespace ClonePlanner.Filter

/-- The outputs as texts. -/
def Stream.outputs (stream : Stream Datum) : Outputs where
  texts := stream.values.map fun datum => String.ofList datum.chars
  raised := stream.failure.map fun datum => String.ofList datum.chars

/-- Filters are parsed, and names are checked before a filter runs. -/
def Engine.builtIn : Engine where
  compile text :=
    match Term.ofText? text with
    | none => .error (.unparsed [(text, "syntax error")])
    | some term =>
      match term.undefinedNames [] with
      | [] => .ok fun document => (term.eval [] (Datum.ofValue document)).outputs
      | names => .error (.undefinedNames [(text, names)])

end ClonePlanner.Filter
