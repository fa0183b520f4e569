import ClonePlanner.Encoding.Plan
import ClonePlanner.Explanation
import ClonePlanner.Proofs.Documents.WrittenParts
import ClonePlanner.Proofs.Json.ReadBack

/-! The text of a report holds the report. Each record of a plan decodes to itself, also where
its fields were set aside until a tag was known; the map of members keeps its order because its
names are distinct; and a report is nested to eight levels, far from the limit of the reader.
-/

namespace ClonePlanner

namespace Decoding

open ClonePlanner.Json (Value)

attribute [local simp] record Form.decode Source.required Source.field Source.part? Source.locate

/-- A written value with several forms is read in the form that its tag selects. -/
theorem tagged_object {α γ : Type} [Named γ] (setting : Setting) (title tagKey : String)
    (form : γ → Form α) (value : γ) (fields : List (String × Value))
    : tagged setting title tagKey form (.object ((tagKey, Encoding.name value) :: fields))
      = (form value).decode (.keyed ((tagKey, Encoding.name value) :: fields)) := by
  simp only [tagged, Entries.get?, if_true, tag_name, Decoded.under_ok]

/-- The written fields of an action, its kind first. -/
def actionWritten (value : CloneAction) : List (String × Value) :=
  ("kind", Encoding.name value.tag) :: Encoding.actionFields value

/-- A written action is read in the form of its kind, by cases on it. -/
theorem action_encoding (setting : Setting) (value : CloneAction)
    : action setting (Encoding.action value) = .ok value := by
  rw [action, Encoding.action, tagged_object]
  cases value with
  | copyScalar => rfl
  | recurseCloneable => rfl
  | cloneArray rank element =>
      have rankFound : Entries.get? "rank" (actionWritten (.cloneArray rank element))
          = some (Encoding.word32 rank) := by
        simp [actionWritten, Encoding.actionFields, Entries.get?]
      have elementFound : Entries.get? "element" (actionWritten (.cloneArray rank element))
          = some (Encoding.name element) := by
        simp [actionWritten, Encoding.actionFields, Entries.get?]
      have rankRead (title : String) :=
        Source.required_keyed rankFound (word32_word32 rank) title 0
      have elementRead (title : String) :=
        Source.required_keyed elementFound (choice_name .setAside element) title 1
      -- the fields are read by these lemmas only: the bound of a word does not compute
      rw [actionWritten] at rankRead elementRead
      simp only [CloneAction.tag, actionForm, Form.decode] at rankRead elementRead ⊢
      simp only [rankRead, elementRead, Reading.map_ready, Reading.seq_ready,
        Reading.settle_ready, Decoded.atRoot_ok]
  | cloneDictionary variant value =>
      simp [Encoding.actionFields, CloneAction.tag, actionForm]
  | cloneCollection variant element =>
      simp [Encoding.actionFields, CloneAction.tag, actionForm]
  | copyReference => rfl

theorem entry_encoding (setting : Setting) (value : PlanEntry)
    : entry setting (Encoding.entry value) = .ok value := by
  simp [entry, Encoding.entry, action_encoding]

/-- Written fields are read in order if each value is, by induction over the fields. -/
theorem fieldValues_mapValues {α : Type} {decode : Value → Decoded α} {encode : α → Value}
    (inverse : ∀ value, decode (encode value) = .ok value) (fields : Entries α)
    : fieldValues decode (fields.mapValues encode) = .ok fields := by
  induction fields with
  | nil => rfl
  | cons field rest ih =>
      rw [Entries.mapValues] at ih
      simp only [Entries.mapValues, List.map_cons, fieldValues, inverse, Decoded.under_ok, ih,
        Except.map]

/-- A written map has the same entries in the same order, since no name occurs twice. -/
theorem entries_encoding (setting : Setting) (value : OrderedMap PlanEntry)
    : entries setting (Encoding.entries value) = .ok value := by
  have fields := fieldValues_mapValues (entry_encoding setting) value.entries
  have same : OrderedMap.ofList value.entries = value :=
    OrderedMap.ext (OrderedMap.entries_ofList value.nodup)
  simp only [entries, Encoding.entries, fields, Except.map, same]

theorem plan_encoding (setting : Setting) (value : ClonePlan)
    : plan setting (Encoding.plan value) = .ok value := by
  simp [plan, Encoding.plan, entries_encoding]

theorem outcome_encoding (value : PlanOutcome)
    : outcome (Encoding.outcome value) = .ok value := by
  rw [outcome, Encoding.outcome, tagged_object]
  cases value <;> simp [Encoding.outcomeFields, PlanOutcome.tag, outcomeForm, plan_encoding]

theorem planSet_encoding (value : PlanSet) : planSet (Encoding.planSet value) = .ok value := by
  simp [planSet, Encoding.planSet, outcome_encoding]

theorem report_encoding (value : PlanReport) : report (Encoding.report value) = .ok value := by
  simp [report, Encoding.report, list_array planSet_encoding]

end Decoding

namespace Encoding

open ClonePlanner.Json.Value

theorem readable_name {α : Type} [Named α] {limit : Nat} (value : α)
    : (name value).Readable limit :=
  readable_string _

/-- A word is far below the greatest integer that is read exactly. -/
theorem readable_word32 {limit : Nat} (value : UInt32) : (word32 value).Readable limit := by
  have below := value.toNat_lt
  apply readable_integer
  simp only [Json.Number.InRange, Json.Number.minInteger, Json.Number.maxInteger]
  omega

theorem readable_action (value : CloneAction) : (action value).Readable 1 := by
  apply readable_object
  · cases value <;> simp [actionFields]
  · cases value <;> simp [actionFields, readable_name, readable_word32]

theorem readable_entry (value : PlanEntry) : (entry value).Readable 2 := by
  apply readable_object
  · simp
  · simp [readable_action, readable_bool, readable_string]

/-- The members of a plan have distinct names, so they are distinct keys. -/
theorem readable_entries (value : OrderedMap PlanEntry) : (entries value).Readable 3 := by
  apply readable_object
  · rw [Entries.keys_mapValues]
    exact value.nodup
  · intro field mem
    obtain ⟨member, _, rfl⟩ := List.mem_map.mp mem
    exact readable_entry member.2

theorem readable_plan (value : ClonePlan) : (plan value).Readable 4 := by
  apply readable_object
  · simp
  · simp [readable_entries, readable_string, readable_name]

theorem readable_outcome (value : PlanOutcome) : (outcome value).Readable 5 := by
  apply readable_object
  · cases value <;> simp [outcomeFields]
  · cases value <;> simp [outcomeFields, readable_plan, readable_name]

theorem readable_planSet (value : PlanSet) : (planSet value).Readable 6 := by
  apply readable_object
  · simp
  · simp [readable_outcome, readable_string]

/-- However many types and members a report has, its nesting is bounded. -/
theorem readable_report (value : PlanReport) : (report value).Readable 8 := by
  have types : Readable 7 (.array (value.types.map planSet)) :=
    readable_array (by simp [readable_planSet])
  apply readable_object
  · simp
  · simpa using types

end Encoding

namespace PlanReport

/-- The text of a report, on one line or indented, is read as the document that was written. -/
theorem read_json (report : PlanReport) (compact : Bool)
    : Json.read (report.json compact) = .ok (Encoding.report report) := by
  have readable : (Encoding.report report).Readable Json.Reader.maxDepth :=
    (Encoding.readable_report report).mono (by decide)
  cases compact with
  | true => exact Json.read_write Json.Style.blank_compact readable
  | false => exact Json.read_write Json.Style.blank_pretty readable

/-- Both texts of a report hold one document, and it decodes to the report itself: the same
types with the same plans, whose members stand in the same order. So nothing that is counted or
explained is lost. Witness: the document that was written.
-/
theorem json_holds_report (report : PlanReport)
    : ∃ document decoded,
        (∀ compact, Json.read (report.json compact) = .ok document)
        ∧ Decoding.report document = .ok decoded
        ∧ decoded = report
        ∧ decoded.plannedCount = report.plannedCount
        ∧ ∀ color, decoded.explain color = report.explain color :=
  ⟨
    Encoding.report report,
    report,
    read_json report,
    Decoding.report_encoding report,
    rfl,
    rfl,
    fun _ => rfl
  ⟩

end PlanReport

end ClonePlanner
