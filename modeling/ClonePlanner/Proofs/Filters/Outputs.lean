import ClonePlanner.Filter.BuiltIn
import ClonePlanner.Proofs.Filters.Results
import ClonePlanner.Proofs.Json.ReadBack

/-! Outputs of filters that are values of the document come out as they are. A number of a
document is shown as the document would write it, whether the filter keeps it as an integer or as
text, so an output is written and read back as any document is. This is so in any language that
shows the values; the language of the program shows what its filters select.
-/

namespace ClonePlanner.Filter

open ClonePlanner.Json (Value)
open ClonePlanner.Json.Reader (maxDepth)

-----------------------------------------------------------------------------------------
-- Streams
-----------------------------------------------------------------------------------------

namespace Stream

variable {α β : Type}

/-- One output alone is given to a filter as a value is. -/
theorem one_bind (value : α) (f : α → Stream β) : (one value).bind f = f value := by
  simp only [bind, one, collectFrom, append]
  split
  · rfl
  · next none => rw [List.append_nil, ← none]

/-- Giving each output back changes nothing, by induction over the outputs. -/
theorem bind_one (stream : Stream α) : stream.bind one = stream := by
  obtain ⟨values, failure⟩ := stream
  rw [bind]
  induction values with
  | nil => rfl
  | cons value rest ih =>
      dsimp only at ih ⊢
      rw [collectFrom, ih]
      rfl

end Stream

-----------------------------------------------------------------------------------------
-- Values that are shown
-----------------------------------------------------------------------------------------

/-- A number is shown as it is written, by cases on how it is kept. -/
theorem Quantity.chars_ofNumber (number : Json.Number)
    : (ofNumber number).chars = Json.writeNumber number := by
  cases number with
  | float bits => rfl
  | integer value =>
      simp only [ofNumber]
      split <;> rfl

theorem Datum.chars_ofValue (value : Value)
    : (ofValue value).chars = value.chars .compact Json.writeNumber 0 := by
  rw [Datum.chars, ofValue, Json.Tree.chars_mapNumbers]
  simp only [Quantity.chars_ofNumber]

/-- A value of a document as filters show it. -/
def shown (value : Value) : String :=
  String.ofList (Datum.ofValue value).chars

/-- In the language the text is a filter. Its outputs on the document are the values, as filters
show them.
-/
def Engine.Shows (engine : Engine) (filter : String) (document : Value) (values : List Value)
    : Prop :=
  ∃ outputsOf, engine.compile filter = .ok outputsOf
    ∧ outputsOf document = ⟨values.map shown, none⟩

/-- A value that is read as it was written is read from what is shown. -/
theorem isTextOf_shown {value : Value} (readable : value.Readable maxDepth)
    : IsTextOf (shown value) value := by
  rw [IsTextOf, shown, Datum.chars_ofValue]
  exact Json.read_write Json.Style.blank_compact readable

/-- A filter that shows values of a document gives these values. -/
theorem Engine.Shows.gives {engine : Engine} {filter : String} {document : Value}
    {values : List Value} (shows : engine.Shows filter document values)
    (readable : ∀ value ∈ values, value.Readable maxDepth)
    : engine.Gives filter document values := by
  obtain ⟨outputsOf, compiled, outputs⟩ := shows
  have texts : List.Forall₂ IsTextOf (values.map shown) values :=
    List.forall₂_map_left_iff.mpr
      (List.forall₂_same.mpr fun value mem => isTextOf_shown (readable value mem))
  refine ⟨outputsOf, compiled, ?_⟩
  rw [outputs]
  exact ⟨texts, rfl⟩

-----------------------------------------------------------------------------------------
-- The built-in language
-----------------------------------------------------------------------------------------

/-- A filter whose outputs are values of a document shows these. -/
theorem builtIn_shows_of_eval {filter : String} {term : Term} {document : Value}
    {values : List Value} (parsed : Term.ofText? filter = some term)
    (defined : term.undefinedNames [] = [])
    (outputs : term.eval [] (Datum.ofValue document) = .ofList (values.map Datum.ofValue))
    : Engine.builtIn.Shows filter document values := by
  refine ⟨fun document => (term.eval [] (Datum.ofValue document)).outputs, ?_, ?_⟩
  · simp only [Engine.builtIn, parsed, defined]
  · simp only [outputs, Stream.outputs, Stream.ofList, List.map_map]
    rfl

theorem builtIn_shows_identity (document : Value) : Engine.builtIn.Shows "." document [document] :=
  builtIn_shows_of_eval rfl rfl rfl

/-- The iteration over what an object has under a key. -/
def Term.partsOf (key : String) : Term :=
  .path .identity [.index false (.literal (.string key)), .iterate false]

/-- A field and a pair of brackets stand for the iteration over the field. -/
theorem Term.ofTokens?_partsOf (key : String)
    : Term.ofTokens? [.field key, .mark "[", .mark "]"] = some (partsOf key) :=
  rfl

/-- Under a key of an object stands the value that the document has there. -/
theorem lookUp_ofValue {key : String} {fields : List (String × Value)} {value : Value}
    (listed : Entries.get? key fields = some value)
    : Datum.lookUp (Datum.ofValue (.object fields)) (.string key) = .one (Datum.ofValue value) := by
  have found : Entries.get? key (Json.Tree.mapFields Quantity.ofNumber fields)
      = some (Datum.ofValue value) := by
    rw [Json.Tree.mapFields_eq_mapValues, Entries.get?_mapValues, listed]
    rfl
  simp only [Datum.ofValue, Json.Tree.mapNumbers, Datum.lookUp, found, Option.getD_some]

theorem parts_ofValue (values : List Value)
    : Datum.parts (Datum.ofValue (.array values)) = .ofList (values.map Datum.ofValue) := by
  simp only [Datum.ofValue, Json.Tree.mapNumbers, Datum.parts, Json.Tree.mapItems_eq_map]
  rfl

/-- The steps are found without regard to the input, and taken one after the other. -/
theorem eval_partsOf {key : String} {fields : List (String × Value)} {values : List Value}
    (listed : Entries.get? key fields = some (.array values))
    : (Term.partsOf key).eval [] (Datum.ofValue (.object fields))
      = .ofList (values.map Datum.ofValue) := by
  have steps : Term.evalParts [] [.index false (.literal (.string key)), .iterate false]
      (Datum.ofValue (.object fields)) = .one [.index false (.string key), .iterate false] :=
    rfl
  rw [Term.partsOf, Term.eval, steps, Term.eval, Stream.one_bind, Stream.one_bind]
  simp only [Part.applyAll, Part.apply, Stream.forgetIf, Bool.false_eq_true, if_false,
    lookUp_ofValue listed, Stream.one_bind, parts_ofValue, Stream.bind_one]

/-- The filter shows the items of the list under the key, in order. -/
theorem builtIn_shows_types {fields : List (String × Value)} {values : List Value}
    (listed : Entries.get? "types" fields = some (.array values))
    : Engine.builtIn.Shows ".types[]" (.object fields) values := by
  have tokens : Token.ofText? ".types[]" = some [.field "types", .mark "[", .mark "]"] := by
    decide
  have parsed : Term.ofText? ".types[]" = some (.partsOf "types") := by
    rw [Term.ofText?, tokens]
    exact Term.ofTokens?_partsOf "types"
  exact builtIn_shows_of_eval parsed rfl (eval_partsOf listed)

end ClonePlanner.Filter
