import ClonePlanner.Json.Reader

/-!
Languages of filters. A language says what a text makes of a document; applying a filter checks
its text first, and each of its outputs has to be a JSON document again.
-/

namespace ClonePlanner.Filter

/-- Why a text is no filter. -/
inductive Refusal where
  /-- The text cannot be parsed. Each error comes with the code that it is in. -/
  | unparsed (errors : List (String × String))
  /-- Names have no meaning. They come with the code that they are in, each with what it should
  have named.
  -/
  | undefinedNames (places : List (String × List (String × String)))

def Refusal.message : Refusal → String
  | .unparsed errors =>
    "\n".intercalate (errors.map fun (code, error) =>
      "parse error: " ++ error ++ " in `" ++ code ++ "`")
  | .undefinedNames places =>
    "\n".intercalate (places.flatMap fun (code, names) => names.map fun (name, kind) =>
      "undefined `" ++ name ++ "`: " ++ kind ++ " in `" ++ code ++ "`")

/-- What a filter makes of a document, as far as it is asked for: the texts of its outputs, and
what it raised behind them, if it did.
-/
structure Outputs where
  texts : List String
  raised : Option String

/-- A language of filters: what a text does as a filter, if it is one. -/
structure Engine where
  compile : String → Except Refusal (Json.Value → Outputs)

inductive Fault where
  | refused (refusal : Refusal)
  /-- The filter raised something. -/
  | raised (message : String)
  /-- An output, given by its position, is not a JSON document. -/
  | output (position : Nat) (cause : Json.SyntaxFault)

def Fault.message : Fault → String
  | .refused refusal => refusal.message
  | .raised message => message
  | .output position cause => s!"jq output #{position} is not valid JSON: {cause.message}"

/-- The documents in the texts of outputs, of which the first has the given position. -/
def documents : Nat → List String → Except Fault (List Json.Value)
  | _, [] => .ok []
  | position, text :: rest =>
    match Json.read text with
    | .error cause => .error (.output position cause)
    | .ok document => (documents (position + 1) rest).map (document :: ·)

/-- The outputs of a filter on a document. One fault among them leaves no result. -/
def Engine.run (engine : Engine) (filter : String) (document : Json.Value)
    : Except Fault (List Json.Value) :=
  match engine.compile filter with
  | .error refusal => .error (.refused refusal)
  | .ok outputsOf =>
    let outputs := outputsOf document
    -- a failure comes behind all outputs, so one that is no document comes first
    match documents 0 outputs.texts, outputs.raised with
    | .error fault, _ => .error fault
    | .ok _, some message => .error (.raised message)
    | .ok results, none => .ok results

end ClonePlanner.Filter
