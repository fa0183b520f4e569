import ClonePlanner.Decoding.Record
import ClonePlanner.Report

/-!
Decoding plans and reports. The data of an outcome is set aside until its status is known, and
so is the data of an action until its kind is.
-/

namespace ClonePlanner

namespace CloneAction

inductive Tag where
  | copyScalar
  | recurseCloneable
  | cloneArray
  | cloneDictionary
  | cloneCollection
  | copyReference
deriving DecidableEq, Repr

namespace Tag

def name : Tag → String
  | .copyScalar => "copy_scalar"
  | .recurseCloneable => "recurse_cloneable"
  | .cloneArray => "clone_array"
  | .cloneDictionary => "clone_dictionary"
  | .cloneCollection => "clone_collection"
  | .copyReference => "copy_reference"

instance : Named Tag where
  all := [.copyScalar, .recurseCloneable, .cloneArray, .cloneDictionary, .cloneCollection,
    .copyReference]
  name := name
  complete := by intro tag; cases tag <;> decide
  name_injective := by intro left right; cases left <;> cases right <;> decide

end Tag

def tag : CloneAction → Tag
  | .copyScalar => .copyScalar
  | .recurseCloneable => .recurseCloneable
  | .cloneArray .. => .cloneArray
  | .cloneDictionary .. => .cloneDictionary
  | .cloneCollection .. => .cloneCollection
  | .copyReference => .copyReference

end CloneAction

namespace PlanOutcome

inductive Tag where
  | planned
  | skipped
deriving DecidableEq, Repr

namespace Tag

def name : Tag → String
  | .planned => "planned"
  | .skipped => "skipped"

instance : Named Tag where
  all := [.planned, .skipped]
  name := name
  complete := by intro tag; cases tag <;> decide
  name_injective := by intro left right; cases left <;> cases right <;> decide

end Tag

def tag : PlanOutcome → Tag
  | .planned _ => .planned
  | .skipped _ => .skipped

end PlanOutcome

namespace Decoding

open ClonePlanner.Json (Value)

/-- The form of an action of some kind. -/
def actionForm : CloneAction.Tag → Form CloneAction
  | .copyScalar => .unit .copyScalar
  | .recurseCloneable => .unit .recurseCloneable
  | .cloneArray => ⟨"struct variant CloneAction::CloneArray", 2, fun source =>
      CloneAction.cloneArray
        <$> source.required 0 "rank" word32
        <*> source.required 1 "element" (choice .setAside)⟩
  | .cloneDictionary => ⟨"struct variant CloneAction::CloneDictionary", 2, fun source =>
      CloneAction.cloneDictionary
        <$> source.required 0 "variant" (choice .setAside)
        <*> source.required 1 "value" (choice .setAside)⟩
  | .cloneCollection => ⟨"struct variant CloneAction::CloneCollection", 2, fun source =>
      CloneAction.cloneCollection
        <$> source.required 0 "variant" (choice .setAside)
        <*> source.required 1 "element" (choice .setAside)⟩
  | .copyReference => .unit .copyReference

def action (setting : Setting) : Value → Decoded CloneAction :=
  tagged setting "CloneAction" "kind" actionForm

def entry (setting : Setting) : Value → Decoded PlanEntry :=
  record setting "struct PlanEntry" 4 fun source =>
    PlanEntry.mk
      <$> source.required 0 "action" (action setting)
      <*> source.required 1 "null_guarded" flag
      <*> source.required 2 "init_only" flag
      <*> source.required 3 "declared_in" text

/-- A map from member names to plan entries. -/
def entries (setting : Setting) : Value → Decoded (OrderedMap PlanEntry)
  | .object fields => (fieldValues (entry setting) fields).map .ofList
  | value => wrongType value "a map"

def plan (setting : Setting) : Value → Decoded ClonePlan :=
  record setting "struct ClonePlan" 4 fun source =>
    ClonePlan.mk
      <$> source.required 0 "type_name" text
      <*> source.required 1 "capability" (choice setting)
      <*> source.required 2 "strategy" (choice setting)
      <*> source.required 3 "members" (entries setting)

/-- The form of an outcome of some status. -/
def outcomeForm : PlanOutcome.Tag → Form PlanOutcome
  | .planned => ⟨"struct variant PlanOutcome::Planned", 1, fun source =>
      PlanOutcome.planned <$> source.required 0 "plan" (plan .setAside)⟩
  | .skipped => ⟨"struct variant PlanOutcome::Skipped", 1, fun source =>
      PlanOutcome.skipped <$> source.required 0 "reason" (choice .setAside)⟩

def outcome : Value → Decoded PlanOutcome :=
  tagged .direct "PlanOutcome" "status" outcomeForm

def planSet : Value → Decoded PlanSet :=
  record .direct "struct PlanSet" 3 fun source =>
    PlanSet.mk
      <$> source.required 0 "name" text
      <*> source.required 1 "deep" outcome
      <*> source.required 2 "shallow" outcome

def report : Value → Decoded PlanReport :=
  record .direct "struct PlanReport" 1 fun source =>
    PlanReport.mk <$> source.required 0 "types" (list planSet)

end Decoding

end ClonePlanner
