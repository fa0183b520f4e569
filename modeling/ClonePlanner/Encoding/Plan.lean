import ClonePlanner.Decoding.Plan
import ClonePlanner.Encoding.Declaration

/-!
Plans and reports as documents.
-/

namespace ClonePlanner

namespace Encoding

open ClonePlanner.Json (Value)

/-- The fields of an action beside its kind. -/
def actionFields : CloneAction → List (String × Value)
  | .copyScalar | .recurseCloneable | .copyReference => []
  | .cloneArray rank element => [("rank", word32 rank), ("element", name element)]
  | .cloneDictionary variant value => [("variant", name variant), ("value", name value)]
  | .cloneCollection variant element => [("variant", name variant), ("element", name element)]

def action (value : CloneAction) : Value :=
  .object (("kind", name value.tag) :: actionFields value)

def entry (value : PlanEntry) : Value :=
  .object [
    ("action", action value.action),
    ("null_guarded", .bool value.nullGuarded),
    ("init_only", .bool value.initOnly),
    ("declared_in", .string value.declaredIn)]

/-- A map from member names to plan entries. -/
def entries (value : OrderedMap PlanEntry) : Value :=
  .object (value.entries.mapValues entry)

def plan (value : ClonePlan) : Value :=
  .object [
    ("type_name", .string value.typeName),
    ("capability", name value.capability),
    ("strategy", name value.strategy),
    ("members", entries value.members)]

/-- The fields of an outcome beside its status. -/
def outcomeFields : PlanOutcome → List (String × Value)
  | .planned value => [("plan", plan value)]
  | .skipped reason => [("reason", name reason)]

def outcome (value : PlanOutcome) : Value :=
  .object (("status", name value.tag) :: outcomeFields value)

def planSet (value : PlanSet) : Value :=
  .object [
    ("name", .string value.name),
    ("deep", outcome value.deep),
    ("shallow", outcome value.shallow)]

def report (value : PlanReport) : Value :=
  .object [("types", .array (value.types.map planSet))]

end Encoding

/-- The text of a report, on one line or indented. -/
def PlanReport.json (report : PlanReport) (compact : Bool) : String :=
  Json.write (if compact then .compact else .pretty) (Encoding.report report)

end ClonePlanner
