import ClonePlanner.Proofs.Filters.Outputs
import ClonePlanner.Proofs.Json.AcceptedValues
import ClonePlanner.Proofs.Loading.Packaging
import ClonePlanner.Proofs.Loading.RunOutcome

/-! Filters that select what is there. A pointer to a list and the filter that gives its items
select the same declarations or end with the same fault, and the identity selects what would be
taken without a filter. Both rest on what the reader accepts: a value from a file is so shallow
that it can be written and read back, unless it holds a floating-point number. Of the language of
filters it is only asked that it shows these values, as the language of the program does.
-/

namespace ClonePlanner.Command

open ClonePlanner.Files (Storage)
open ClonePlanner.Filter (Engine)
open ClonePlanner.Json (Value)
open ClonePlanner.Json.Reader (maxDepth)

-----------------------------------------------------------------------------------------
-- Parts of accepted documents
-----------------------------------------------------------------------------------------

section Parts

variable {document part : Value} {limit : Nat}

theorem bounded_of_child? {step : String} (bounded : document.Bounded limit)
    (found : Json.Pointer.child? step document = some part)
    : part.Bounded limit := by
  cases document with
  | array items =>
      obtain ⟨index, _, there⟩ := Option.bind_eq_some_iff.mp found
      exact bounded.of_mem_items (List.mem_of_getElem? there)
  | object fields => exact bounded.of_mem_fields (Entries.mem_of_get? found)
  | null | bool _ | number _ | string _ => cases found

/-- Steps lead into a document as deep as the document goes at most, by induction over them. -/
theorem bounded_of_steps {steps : List String} (bounded : document.Bounded limit)
    (found : steps.foldlM (fun value step => Json.Pointer.child? step value) document = some part)
    : part.Bounded limit := by
  induction steps generalizing document with
  | nil =>
      cases found
      exact bounded
  | cons step rest ih =>
      rw [List.foldlM_cons] at found
      obtain ⟨child, isChild, found⟩ := Option.bind_eq_some_iff.mp found
      exact ih (bounded_of_child? bounded isChild) found

theorem bounded_of_pointsTo {pointer : Option String} (bounded : document.Bounded limit)
    (pointed : PointsTo pointer document part)
    : part.Bounded limit := by
  cases pointer with
  | none =>
      obtain rfl : part = document := pointed
      exact bounded
  | some pointer =>
      obtain ⟨steps, _, found⟩ := Option.bind_eq_some_iff.mp pointed
      exact bounded_of_steps bounded found

end Parts

-----------------------------------------------------------------------------------------
-- A list and its items
-----------------------------------------------------------------------------------------

section Items

variable {origin : String} {values : List Value}
  (single : ∀ value ∈ values, ∀ items, value ≠ .array items)
include single

theorem gather_items_of_ok {found : List TypeDeclaration}
    (decoded : declarations origin (.array values) = .ok found)
    : gather (declarations origin) values = .ok found :=
  gather_declarations_eq_ok_iff.mpr
    ((declarations_array single).mp (declarations_eq_ok_iff.mp decoded))

/-- Items fail one after another with what is wrong with the first of them that fails. -/
theorem gather_items_of_error {before after : List Value} {value : Value}
    {problem : Decoding.Problem} (cut : values = before ++ value :: after)
    (fine : ∀ earlier ∈ before, ∃ declared, Decoding.declaration earlier = .ok declared)
    (wrong : Decoding.declaration value = .error problem)
    : gather (declarations origin) values = .error (.descriptor ⟨origin, problem⟩) := by
  subst cut
  have earlierFine : ∀ earlier ∈ before, ∀ fault, ¬ PartFails origin earlier fault := by
    rintro earlier listed _ ⟨problem, refused, rfl⟩
    have passes : ∃ list, Decoding.declarationsFrom origin earlier = .ok list :=
      (Decoding.exists_declarationsFrom_single (single earlier (by simp [listed]))).mpr
        (fine earlier listed)
    obtain ⟨list, passed⟩ := passes
    cases passed.symm.trans refused
  have refused : PartFails origin value (.descriptor ⟨origin, problem⟩) :=
    ⟨_, (Decoding.declarationsFrom_single_eq_error_iff (single value (by simp))).mpr
      ⟨problem, wrong, rfl⟩, rfl⟩
  exact gather_declarations_eq_error_iff.mpr ⟨before, value, after, rfl, earlierFine, refused⟩

end Items

namespace Invocation

/-- The invocation with another pointer and another filter. -/
def selecting (invocation : Invocation) (pointer filter : Option String) : Invocation :=
  { invocation with pointer, filter }

section Selecting

variable (invocation : Invocation) (pointer filter : Option String)

@[simp]
theorem selecting_patterns
    : (invocation.selecting pointer filter).patterns = invocation.patterns :=
  rfl

@[simp]
theorem selecting_ndjson : (invocation.selecting pointer filter).ndjson = invocation.ndjson :=
  rfl

end Selecting

-----------------------------------------------------------------------------------------
-- The items under a key
-----------------------------------------------------------------------------------------

section Types

variable {engine : Engine} {fields : List (String × Value)} {values : List Value}
  {origin : String}

theorem loadDocument_pointer (invocation : Invocation) {value : Value}
    (listed : Entries.get? "types" fields = some value)
    : (invocation.selecting (some "/types") none).loadDocument engine origin (.object fields)
      = declarations origin value := by
  have steps : Json.Pointer.steps? "/types" = some ["types"] := by decide
  have found : Json.Pointer.select? "/types" (.object fields) = some value := by
    simp [Json.Pointer.select?, steps, Json.Pointer.child?, listed]
  simp only [loadDocument, selecting, select, found, gather]
  cases declarations origin value <;> simp [Except.map]

theorem loadDocument_filter (invocation : Invocation)
    (shows : engine.Shows ".types[]" (.object fields) values)
    (readable : ∀ value ∈ values, value.Readable maxDepth)
    : (invocation.selecting none (some ".types[]")).loadDocument engine origin (.object fields)
      = gather (declarations origin) values := by
  have given := Engine.run_eq_ok_iff.mpr (shows.gives readable)
  simp only [loadDocument, selecting, select, given]

end Types

/-- A list under the key and the filter that gives its items load the same declarations, one for
each item, or both fail at the first item that is none, with the same origin and message. Only the
location differs: seen from the list it begins with the index of the item. This is so in each
language in which the filter shows the items, and in that of the program it does.
-/
theorem loadDocument_types (invocation : Invocation) (origin : String) {text : String}
    {fields : List (String × Value)} {values : List Value}
    (accepted : Json.read text = .ok (.object fields))
    (listed : Entries.get? "types" fields = some (.array values))
    (single : ∀ value ∈ values, ∀ items, value ≠ .array items)
    (floatless : ∀ value ∈ values, value.Floatless)
    : Engine.builtIn.Shows ".types[]" (.object fields) values
      ∧ ∀ engine : Engine, engine.Shows ".types[]" (.object fields) values →
        let byPointer :=
          (invocation.selecting (some "/types") none).loadDocument engine origin (.object fields)
        let byFilter :=
          (invocation.selecting none (some ".types[]")).loadDocument engine origin (.object fields)
        (∃ found,
          List.Forall₂ (fun value declared => Decoding.declaration value = .ok declared)
            values found
          ∧ byPointer = .ok found ∧ byFilter = .ok found)
        ∨ ∃ before value after path cause,
            values = before ++ value :: after
            ∧ (∀ earlier ∈ before, ∃ declared, Decoding.declaration earlier = .ok declared)
            ∧ Decoding.declaration value = .error ⟨path, cause⟩
            ∧ byPointer = .error (.descriptor ⟨origin, .index before.length :: path, cause⟩)
            ∧ byFilter = .error (.descriptor ⟨origin, path, cause⟩) := by
  refine ⟨Filter.builtIn_shows_types listed, ?_⟩
  intro engine shows byPointer byFilter
  have bounded := (Json.bounded_of_read accepted).of_mem_fields (Entries.mem_of_get? listed)
  have readable : ∀ value ∈ values, value.Readable maxDepth := fun value mem =>
    (bounded.of_mem_items mem).readable (floatless value mem)
  have pointed : byPointer = declarations origin (.array values) :=
    loadDocument_pointer invocation listed
  have filtered : byFilter = gather (declarations origin) values :=
    loadDocument_filter invocation shows readable
  rw [pointed, filtered]
  cases decoded : declarations origin (.array values) with
  | ok found =>
      have each := Decoding.items_eq_ok_iff.mp (declarations_eq_ok_iff.mp decoded)
      exact .inl ⟨found, each, rfl, gather_items_of_ok single decoded⟩
  | error fault =>
      obtain ⟨problem, failed, rfl⟩ := declarations_eq_error_iff.mp decoded
      obtain ⟨before, value, after, own, cut, fine, wrong, rfl⟩ :=
        Decoding.declarationsFrom_array_eq_error_iff.mp failed
      have apart : gather (declarations origin) values = .error (.descriptor ⟨origin, own⟩) :=
        gather_items_of_error single cut fine wrong
      exact .inr ⟨before, value, after, own.path, own.cause, cut, fine, wrong, rfl, apart⟩

/-- The text of a document with another field before a list of a class and a number. -/
def wrappedText : String := "\x7b\"unit\":\"Core\",\"types\":[\x7b\"name\":\"A\"\x7d,7]\x7d"

/-- The fields of that document. -/
def wrapped : List (String × Value) := [
  ("unit", .string "Core"),
  ("types", .array [.object [("name", .string "A")], .number (.integer 7)])]

theorem wrapped_loadDocument_types
    : Json.read wrappedText = .ok (.object wrapped)
      ∧ ∃ path cause,
        ((planOf false []).selecting (some "/types") none).loadDocument .builtIn "a"
            (.object wrapped)
          = .error (.descriptor ⟨"a", .index 1 :: path, cause⟩)
        ∧ ((planOf false []).selecting none (some ".types[]")).loadDocument .builtIn "a"
            (.object wrapped)
          = .error (.descriptor ⟨"a", path, cause⟩) := by
  have accepted : Json.read wrappedText = .ok (.object wrapped) := rfl
  refine ⟨accepted, ?_⟩
  obtain ⟨shows, agree⟩ := loadDocument_types (planOf false []) "a" accepted rfl (by simp)
    (by simp [Value.Floatless, Json.Tree.numbers, Json.Tree.fieldNumbers])
  rcases agree .builtIn shows with
    ⟨found, _, loaded, _⟩
    | ⟨before, value, after, path, cause, cut, _, wrong, byPointer, byFilter⟩
  · have failed : ((planOf false []).selecting (some "/types") none).loadDocument .builtIn "a"
        (.object wrapped) = .error _ := rfl
    cases failed.symm.trans loaded
  · cases before with
    | nil =>
        cases cut
        have decoded : Decoding.declaration (.object [("name", .string "A")]) = .ok _ := rfl
        cases decoded.symm.trans wrong
    | cons first rest =>
        cases rest with
        | nil => exact ⟨path, cause, byPointer, byFilter⟩
        | cons second more => simp at cut

-----------------------------------------------------------------------------------------
-- The identity
-----------------------------------------------------------------------------------------

/-- The document is in a file that an input stands for. -/
def InInputs (invocation : Invocation) (services : Services) (storage : Storage)
    (document : Value) : Prop :=
  ∃ input ∈ invocation.patterns, ∃ paths, InputGives services storage input paths
    ∧ ∃ path ∈ paths, ∃ text, storage.readText path = .ok text
      ∧ InText invocation.ndjson text document

theorem bounded_of_inText {ndjson : Bool} {text : String} {document : Value}
    (inText : InText ndjson text document)
    : document.Bounded maxDepth := by
  cases ndjson with
  | true =>
      obtain ⟨_, _, _, read⟩ := inText
      exact Json.bounded_of_read read
  | false => exact Json.bounded_of_read inText

section Identity

variable {engine : Engine} {invocation : Invocation} {storage : Storage} {path : String}

/-- Where a pointer leads to a value that the identity gives back or nowhere, the identity behind
it changes nothing.
-/
theorem select_identity {pointer : Option String} {origin : String} {document : Value}
    (same : ∀ part, PointsTo pointer document part → engine.Gives "." part [part])
    : select engine pointer (some ".") origin document
      = select engine pointer none origin document := by
  rcases pointsTo_or_unselected pointer document with ⟨part, pointed⟩ | ⟨steps, rfl, missed⟩
  · have same : select engine none (some ".") origin part = .ok [part] :=
      select_none_eq_ok_iff.mpr (same part pointed)
    rw [select_of_pointsTo pointed, select_of_pointsTo pointed, same]
    rfl
  · rw [select_of_unselected missed, select_of_unselected missed]

theorem loadDocument_identity {document : Value}
    (same : ∀ part, PointsTo invocation.pointer document part → engine.Gives "." part [part])
    : (invocation.selecting invocation.pointer (some ".")).loadDocument engine path document
      = (invocation.selecting invocation.pointer none).loadDocument engine path document := by
  simp only [loadDocument, selecting, select_identity same]

theorem loadFile_identity
    (same : ∀ text document part, storage.readText path = .ok text →
      InText invocation.ndjson text document → PointsTo invocation.pointer document part →
      engine.Gives "." part [part])
    : (invocation.selecting invocation.pointer (some ".")).loadFile engine storage path
      = (invocation.selecting invocation.pointer none).loadFile engine storage path := by
  cases read : storage.readText path with
  | error fault => simp only [loadFile, read]
  | ok text =>
      cases found : documents invocation.ndjson path text with
      | error fault => simp only [loadFile, read, selecting_ndjson, found]
      | ok listed =>
          simp only [loadFile, read, selecting_ndjson, found]
          refine gather_congr fun document mem => loadDocument_identity ?_
          have inText := inText_of_mem (documents_eq_ok_iff.mp found) mem
          exact fun part => same text document part read inText

end Identity

/-- The identity gives every document that the reader accepts back, unless there is a
floating-point number in it. As a filter for inputs it changes nothing: what is loaded are the
declarations that are loaded without a filter, and a fault is the fault without one. This is so in
each language in which the identity shows its input, and in that of the program it does.
-/
theorem load_identityFilter
    : (∀ document, Engine.builtIn.Shows "." document [document])
      ∧ ∀ services : Services,
        (∀ document, document.Floatless → services.filters.Shows "." document [document]) →
        (∀ document : Value, document.Bounded maxDepth → document.Floatless →
          services.filters.run "." document = .ok [document])
        ∧ ∀ (invocation : Invocation) (storage : Storage),
          (∀ document part, invocation.InInputs services storage document →
            PointsTo invocation.pointer document part → part.Floatless) →
          (invocation.selecting invocation.pointer (some ".")).load services storage
            = (invocation.selecting invocation.pointer none).load services storage := by
  refine ⟨Filter.builtIn_shows_identity, fun services shows => ?_⟩
  have identity (document : Value) (bounded : document.Bounded maxDepth)
      (floatless : document.Floatless)
      : services.filters.Gives "." document [document] :=
    (shows document floatless).gives
      (List.forall_mem_singleton.mpr (bounded.readable floatless))
  refine ⟨fun document bounded floatless =>
    Engine.run_eq_ok_iff.mpr (identity document bounded floatless), ?_⟩
  intro invocation storage floatless
  cases resolved : gather (inputPaths services storage) invocation.patterns with
  | error fault => simp only [load, selecting_patterns, resolved]
  | ok paths =>
      simp only [load, selecting_patterns, resolved]
      refine gather_congr fun path listed => loadFile_identity ?_
      intro text document part read inText pointed
      obtain ⟨input, given, own, gives, mem⟩ :=
        (gather_inputPaths_eq_ok_iff.mp resolved).exists_of_found listed
      have inInputs : invocation.InInputs services storage document :=
        ⟨input, given, own, gives, path, mem, text, read, inText⟩
      have bounded := bounded_of_pointsTo (bounded_of_inText inText) pointed
      exact identity part bounded (floatless document part inInputs pointed)

/-- A text with a quote, a backslash, control characters and a character beyond 16 bits, as key
and value, beside the least and the greatest integer.
-/
def oddDocument : Value :=
  .object [
    ("\"\\\x00\n\x1f\x7f😀", .string "\"\\\x00\n\x1f\x7f😀"),
    ("ends", .array [
      .number (.integer Json.Number.minInteger),
      .number (.integer Json.Number.maxInteger)])]

theorem oddDocument_load_identityFilter
    : Engine.builtIn.run "." oddDocument = .ok [oddDocument]
      ∧ (planOf false ["a"]).InInputs .builtIn twoClassStorage (.object [("name", .string "A")])
      ∧ ((planOf false ["a"]).selecting none (some ".")).load .builtIn twoClassStorage
        = ((planOf false ["a"]).selecting none none).load .builtIn twoClassStorage := by
  obtain ⟨identity, unchanged⟩ :=
    load_identityFilter.2 .builtIn fun document _ => load_identityFilter.1 document
  refine ⟨?_, ?_, ?_⟩
  · have least : Json.Number.InRange (.integer Json.Number.minInteger) := by
      simp [Json.Number.InRange, Json.Number.minInteger, Json.Number.maxInteger]
    have greatest : Json.Number.InRange (.integer Json.Number.maxInteger) := by
      simp [Json.Number.InRange, Json.Number.minInteger, Json.Number.maxInteger]
    have bounded : oddDocument.Bounded maxDepth :=
      ⟨⟨by decide, trivial, ⟨least, greatest, trivial⟩, trivial⟩, by decide⟩
    have floatless : oddDocument.Floatless := by
      simp [oddDocument, Value.Floatless, Json.Tree.numbers, Json.Tree.fieldNumbers,
        Json.Tree.itemNumbers]
    exact identity oddDocument bounded floatless
  · exact ⟨"a", by simp [planOf], ["a"], .literal rfl, "a", by simp, classA, rfl, rfl⟩
  · refine unchanged (planOf false ["a"]) twoClassStorage ?_
    rintro document part ⟨input, given, paths, gives, path, listed, text, found, read⟩ pointed
    obtain rfl : input = "a" := List.mem_singleton.mp given
    have only : inputPaths .builtIn twoClassStorage "a" = .ok ["a"] := rfl
    cases only.symm.trans (inputPaths_eq_ok_iff.mpr gives)
    obtain rfl : path = "a" := List.mem_singleton.mp listed
    have content : twoClassStorage.readText "a" = .ok classA := rfl
    cases content.symm.trans found
    have accepted : Json.read classA = .ok (.object [("name", .string "A")]) := rfl
    cases accepted.symm.trans read
    obtain rfl : part = _ := pointed
    simp [Value.Floatless, Json.Tree.numbers, Json.Tree.fieldNumbers]

end Invocation

end ClonePlanner.Command
