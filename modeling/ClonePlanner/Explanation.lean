import ClonePlanner.Report

/-!
Reports for people. The explanation is a list of pieces of text, each with the terminal codes it
may be shown in, so that the plain and the colored text are two renderings of one list.
-/

namespace ClonePlanner

/-- Terminal codes for a piece of text. -/
inductive Tone where
  | typeName
  | label
  | faint
  | warning
  | transform
  | remark
deriving DecidableEq, Repr

/-- The numbers of the codes, as a terminal reads them. -/
def Tone.codes : Tone → List Char
  | .typeName => ['1', ';', '3', '6']
  | .label => ['1']
  | .faint => ['2']
  | .warning => ['3', '1']
  | .transform => ['3', '2']
  | .remark => ['3', '3']

/-- A piece of text, shown in a tone or as it is. -/
structure Piece where
  tone : Option Tone
  text : List Char
deriving DecidableEq, Repr

namespace Piece

def escape : Char := '\x1b'

def reset : List Char := [escape, '[', '0', 'm']

def opening (tone : Tone) : List Char :=
  [escape, '['] ++ tone.codes ++ ['m']

/-- A text with a tone begun again wherever the text itself ends all tones. -/
def reopen (code : List Char) : List Char → List Char
  | [] => []
  | '\x1b' :: '[' :: '0' :: 'm' :: rest => reset ++ code ++ reopen code rest
  | c :: rest => c :: reopen code rest

def colored (piece : Piece) : List Char :=
  match piece.tone with
  | none => piece.text
  | some tone => opening tone ++ reopen (opening tone) piece.text ++ reset

def plain (text : String) : Piece := ⟨none, text.toList⟩

def toned (tone : Tone) (text : String) : Piece := ⟨some tone, text.toList⟩

end Piece

namespace Explanation

def elementText : ElementAction → String
  | .clone => "clone"
  | .copy => "copy"

def actionText : CloneAction → String
  | .copyScalar => "copy scalar"
  | .copyReference => "copy reference"
  | .recurseCloneable => "recurse"
  | .cloneArray rank element =>
    "array rank " ++ toString rank.toNat ++ ", elements " ++ elementText element
  | .cloneDictionary variant value =>
    "rebuild " ++ variant.title ++ ", values " ++ elementText value
  | .cloneCollection variant element =>
    "rebuild " ++ variant.title ++ ", elements " ++ elementText element

def strategyText : ConstructionStrategy → String
  | .objectInitializer => "object initializer"
  | .functionalUpdate => "functional update"
  | .statementSequence => "statement sequence"

def reasonText : SkipReason → String
  | .abstract => "abstract type"
  | .userImplemented => "already implemented by hand"
  | .notMarked => "capability not opted into"
  | .notRequested => "capability not requested"

def remarks (entry : PlanEntry) : List String :=
  (if entry.nullGuarded then ["null-guarded"] else [])
    ++ if entry.initOnly then ["init-only"] else []

/-- The remarks in brackets, or nothing. -/
def remarkText (entry : PlanEntry) : String :=
  match remarks entry with
  | [] => ""
  | texts => " [" ++ ", ".intercalate texts ++ "]"

/-- Where an entry comes from, if not from the type itself. -/
def originText (typeName : String) (entry : PlanEntry) : String :=
  if entry.declaredIn = typeName then "" else " from " ++ entry.declaredIn

def memberLine (typeName name : String) (entry : PlanEntry) : List Piece :=
  let tone := if entry.action.isDirectAssignment then none else some Tone.transform
  [
    .plain ("    " ++ name ++ ": "),
    ⟨tone, (actionText entry.action).toList⟩,
    .toned .remark (remarkText entry),
    .toned .faint (originText typeName entry),
    .plain "\n"
  ]

def memberLines (plan : ClonePlan) : List Piece :=
  if plan.isEmpty then
    [.plain "    ", .toned .faint "no members", .plain "\n"]
  else
    plan.members.entries.flatMap fun (name, entry) => memberLine plan.typeName name entry

def outcomeLines (label : String) : PlanOutcome → List Piece
  | .planned plan =>
    [
      .plain "  ",
      .toned .label label,
      .plain " ",
      .toned .faint ("(" ++ strategyText plan.strategy ++ ")"),
      .plain "\n"
    ] ++ memberLines plan
  | .skipped reason =>
    [
      .plain "  ",
      .toned .label label,
      .plain " ",
      .toned .warning ("skipped: " ++ reasonText reason),
      .plain "\n"
    ]

def typeLines (set : PlanSet) : List Piece :=
  [.toned .typeName set.name, .plain "\n"]
    ++ outcomeLines "deep" set.deep
    ++ outcomeLines "shallow" set.shallow

end Explanation

namespace PlanReport

def explanation (report : PlanReport) : List Piece :=
  report.types.flatMap Explanation.typeLines

/-- The explanation, with or without terminal codes. -/
def explain (report : PlanReport) (color : Bool) : String :=
  String.ofList (report.explanation.flatMap fun piece =>
    if color then piece.colored else piece.text)

end PlanReport

end ClonePlanner
