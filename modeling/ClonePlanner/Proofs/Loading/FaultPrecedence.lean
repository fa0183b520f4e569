import ClonePlanner.Proofs.Filters.Results
import ClonePlanner.Proofs.Loading.FirstFault

/-! Which fault loading ends with, by rules that do not run the loader. Patterns come before
files; in a file, reading comes before parsing, parsing all documents before looking into the
first one, and in a document selecting comes before decoding. At each of these stages the first
item that fails decides. Inputs that are loaded together give what they give apart.
-/

namespace ClonePlanner.Command

open ClonePlanner.Files (Storage)
open ClonePlanner.Filter (Engine)
open ClonePlanner.Json (Value)

-----------------------------------------------------------------------------------------
-- Inputs
-----------------------------------------------------------------------------------------

/-- The input is a pattern that cannot be resolved: there is something wrong with the pattern,
nothing is found for it, or one of the entries that are found is none. The first such entry counts.
-/
inductive InputFails (services : Services) (storage : Storage) (input : String)
    : LoadFault → Prop where
  | malformed {message : String} (isPattern : Files.Glob.isPattern input = true)
      (refused : services.search storage input = .error message)
    : InputFails services storage input (.input input message)
  | unmatched (isPattern : Files.Glob.isPattern input = true)
      (nothing : services.search storage input = .ok [])
    : InputFails services storage input (.input input "glob pattern matched no files")
  | entry {before : List String} {message : String} {after : List (Except String String)}
      (isPattern : Files.Glob.isPattern input = true)
      (found : services.search storage input = .ok (before.map .ok ++ .error message :: after))
    : InputFails services storage input (.input input message)

/-- The input stands for the paths: for itself alone, or for all that is found for it as a pattern,
in the order in which it is found.
-/
inductive InputGives (services : Services) (storage : Storage) (input : String)
    : List String → Prop where
  | literal (plain : Files.Glob.isPattern input = false)
    : InputGives services storage input [input]
  | found {paths : List String} (isPattern : Files.Glob.isPattern input = true)
      (found : services.search storage input = .ok (paths.map .ok)) (some : paths ≠ [])
    : InputGives services storage input paths

/-- Entries fail with the first of them that is no path, by induction over them. -/
theorem entryPaths_eq_error_iff {input : String} {entries : List (Except String String)}
    {fault : LoadFault}
    : entryPaths input entries = .error fault
      ↔ ∃ (before : List String) (message : String) (after : List (Except String String)),
          entries = before.map .ok ++ .error message :: after
          ∧ fault = .input input message := by
  induction entries with
  | nil =>
      refine iff_of_false (by simp [entryPaths]) ?_
      rintro ⟨before, message, after, cut, _⟩
      cases before <;> cases cut
  | cons entry rest ih =>
      cases entry with
      | error message =>
          constructor
          · intro failed
            cases failed
            exact ⟨[], message, rest, rfl, rfl⟩
          · rintro ⟨before, other, after, cut, rfl⟩
            cases before with
            | nil =>
                cases cut
                rfl
            | cons first more => cases (List.cons.inj cut).1
      | ok path =>
          have passed : entryPaths input (.ok path :: rest) = .error fault
              ↔ entryPaths input rest = .error fault := by
            rw [entryPaths]
            cases entryPaths input rest <;> simp [Except.map]
          rw [passed, ih]
          constructor
          · rintro ⟨before, message, after, rfl, rfl⟩
            exact ⟨path :: before, message, after, rfl, rfl⟩
          · rintro ⟨before, message, after, cut, rfl⟩
            cases before with
            | nil => cases (List.cons.inj cut).1
            | cons first more => exact ⟨more, message, after, (List.cons.inj cut).2, rfl⟩

/-- Entries succeed if all of them are paths, by induction over them. -/
theorem entryPaths_eq_ok_iff {input : String} {entries : List (Except String String)}
    {paths : List String}
    : entryPaths input entries = .ok paths ↔ entries = paths.map .ok := by
  induction entries generalizing paths with
  | nil => simp [entryPaths, eq_comm]
  | cons entry rest ih =>
      cases entry with
      | error message =>
          refine iff_of_false (by simp [entryPaths]) ?_
          cases paths <;> simp
      | ok path =>
          rw [entryPaths]
          cases paths with
          | nil => cases entryPaths input rest <;> simp [Except.map]
          | cons first more =>
              rw [List.map_cons, List.cons.injEq, ← ih]
              cases entryPaths input rest <;> simp [Except.map]

section Inputs

variable {services : Services} {storage : Storage} {input : String} {fault : LoadFault}

theorem inputPaths_of_found {entries : List (Except String String)}
    (isPattern : Files.Glob.isPattern input = true)
    (found : services.search storage input = .ok entries) (some : entries ≠ [])
    : inputPaths services storage input = entryPaths input entries := by
  cases entries with
  | nil => exact (some rfl).elim
  | cons entry rest => simp only [inputPaths, isPattern, if_true, found]

theorem inputPaths_eq_error_iff
    : inputPaths services storage input = .error fault
      ↔ InputFails services storage input fault := by
  constructor
  · intro failed
    cases isPattern : Files.Glob.isPattern input with
    | false => simp [inputPaths, isPattern] at failed
    | true =>
        cases found : services.search storage input with
        | error message =>
            simp only [inputPaths, isPattern, if_true, found, Except.error.injEq] at failed
            exact failed ▸ .malformed isPattern found
        | ok entries =>
            cases entries with
            | nil =>
                simp only [inputPaths, isPattern, if_true, found, Except.error.injEq] at failed
                exact failed ▸ .unmatched isPattern found
            | cons entry rest =>
                rw [inputPaths_of_found isPattern found (List.cons_ne_nil _ _)] at failed
                obtain ⟨before, message, after, cut, rfl⟩ := entryPaths_eq_error_iff.mp failed
                exact .entry isPattern (found.trans (congrArg _ cut))
  · intro fails
    cases fails with
    | malformed isPattern refused => simp only [inputPaths, isPattern, if_true, refused]
    | unmatched isPattern nothing => simp only [inputPaths, isPattern, if_true, nothing]
    | entry isPattern found =>
        rw [inputPaths_of_found isPattern found (by simp)]
        exact entryPaths_eq_error_iff.mpr ⟨_, _, _, rfl, rfl⟩

theorem inputPaths_eq_ok_iff {paths : List String}
    : inputPaths services storage input = .ok paths
      ↔ InputGives services storage input paths := by
  constructor
  · intro resolved
    cases isPattern : Files.Glob.isPattern input with
    | false =>
        simp only [inputPaths, isPattern, Bool.false_eq_true, if_false, Except.ok.injEq] at resolved
        exact resolved ▸ .literal isPattern
    | true =>
        cases found : services.search storage input with
        | error message => simp [inputPaths, isPattern, found] at resolved
        | ok entries =>
            cases entries with
            | nil => simp [inputPaths, isPattern, found] at resolved
            | cons entry rest =>
                rw [inputPaths_of_found isPattern found (List.cons_ne_nil _ _)] at resolved
                have same := entryPaths_eq_ok_iff.mp resolved
                refine .found isPattern (found.trans (congrArg _ same)) ?_
                rintro rfl
                cases same
  · intro gives
    cases gives with
    | literal plain => simp only [inputPaths, plain, Bool.false_eq_true, if_false]
    | found isPattern found some =>
        rw [inputPaths_of_found isPattern found (by simpa using some)]
        exact entryPaths_eq_ok_iff.mpr rfl

end Inputs

-----------------------------------------------------------------------------------------
-- The documents of a file
-----------------------------------------------------------------------------------------

/-- The line is not blank, and what stands on it is no document; the fault names its number. -/
def LineFails (origin : String) (numbered : List Char × Nat) (fault : LoadFault) : Prop :=
  numbered.1.all Text.isBlank = false
  ∧ ∃ cause, Json.read (String.ofList numbered.1) = .error cause
      ∧ fault = .json s!"{origin}:{numbered.2}" cause

/-- The documents on the lines that are not blank. -/
def HoldsLines (lines : List (List Char)) (documents : List Value) : Prop :=
  List.Forall₂ (fun line document => Json.read (String.ofList line) = .ok document)
    (lines.filter (!·.all Text.isBlank)) documents

/-- The documents of a text, on its lines or as a whole. -/
def HoldsDocuments (ndjson : Bool) (text : String) (documents : List Value) : Prop :=
  if ndjson then
    HoldsLines (Text.lines text.toList) documents
  else
    ∃ document, Json.read text = .ok document ∧ documents = [document]

section Lines

variable {origin : String} {line : List Char} {rest : List (List Char)} {number : Nat}

theorem lineDocuments_cons_blank (blank : line.all Text.isBlank = true)
    : lineDocuments origin number (line :: rest) = lineDocuments origin (number + 1) rest := by
  simp only [lineDocuments, blank, if_true]

theorem lineDocuments_cons_of_ok {document : Value} (visible : line.all Text.isBlank = false)
    (read : Json.read (String.ofList line) = .ok document)
    : lineDocuments origin number (line :: rest)
      = (lineDocuments origin (number + 1) rest).map (document :: ·) := by
  simp only [lineDocuments, visible, Bool.false_eq_true, if_false, parseDocument, read]

theorem lineDocuments_cons_of_error {cause : Json.SyntaxFault}
    (visible : line.all Text.isBlank = false)
    (refused : Json.read (String.ofList line) = .error cause)
    : lineDocuments origin number (line :: rest)
      = .error (.json s!"{origin}:{number}" cause) := by
  simp only [lineDocuments, visible, Bool.false_eq_true, if_false, parseDocument, refused]

/-- Lines fail with the fault of the first one that is neither blank nor a document, by
induction over the lines, of which the first has any number.
-/
theorem lineDocuments_eq_error_iff {lines : List (List Char)} {fault : LoadFault}
    : lineDocuments origin number lines = .error fault
      ↔ FirstToFail (LineFails origin) (lines.zipIdx number) fault := by
  induction lines generalizing number with
  | nil => exact iff_of_false (by simp [lineDocuments]) not_firstToFail_nil
  | cons line rest ih =>
      rw [List.zipIdx_cons, firstToFail_cons_iff, ← ih]
      cases visible : line.all Text.isBlank with
      | true =>
          have fine (other : LoadFault) : ¬ LineFails origin (line, number) other :=
            fun fails => by simp [LineFails, visible] at fails
          rw [lineDocuments_cons_blank visible]
          exact ⟨fun failed => .inr ⟨fine, failed⟩,
            fun fails => (fails.resolve_left (fine fault)).2⟩
      | false =>
          cases read : Json.read (String.ofList line) with
          | error cause =>
              rw [lineDocuments_cons_of_error visible read]
              have fails : LineFails origin (line, number) (.json s!"{origin}:{number}" cause) :=
                ⟨visible, cause, read, rfl⟩
              constructor
              · intro failed
                cases failed
                exact .inl fails
              · rintro (⟨_, other, refused, rfl⟩ | ⟨fine, _⟩)
                · cases read.symm.trans refused
                  rfl
                · exact (fine _ fails).elim
          | ok document =>
              have fine (other : LoadFault) : ¬ LineFails origin (line, number) other := by
                rintro ⟨_, cause, refused, _⟩
                cases read.symm.trans refused
              rw [lineDocuments_cons_of_ok visible read]
              cases lineDocuments origin (number + 1) rest with
              | error cause => simp [Except.map, fine]
              | ok documents => simp [Except.map, fine]

theorem holdsLines_cons_blank {documents : List Value} (blank : line.all Text.isBlank = true)
    : HoldsLines (line :: rest) documents ↔ HoldsLines rest documents := by
  rw [HoldsLines, HoldsLines, List.filter_cons_of_neg (by simp [blank])]

theorem holdsLines_cons_visible {documents : List Value}
    (visible : line.all Text.isBlank = false)
    : HoldsLines (line :: rest) documents
      ↔ ∃ document others, Json.read (String.ofList line) = .ok document
          ∧ HoldsLines rest others ∧ documents = document :: others := by
  rw [HoldsLines, List.filter_cons_of_pos (by simp [visible]), List.forall₂_cons_left_iff]
  rfl

/-- Lines hold the documents on those that are not blank, by induction over the lines. -/
theorem lineDocuments_eq_ok_iff {lines : List (List Char)} {documents : List Value}
    : lineDocuments origin number lines = .ok documents ↔ HoldsLines lines documents := by
  induction lines generalizing number documents with
  | nil => simp [lineDocuments, HoldsLines, eq_comm]
  | cons line rest ih =>
      cases visible : line.all Text.isBlank with
      | true => rw [lineDocuments_cons_blank visible, holdsLines_cons_blank visible, ih]
      | false =>
          rw [holdsLines_cons_visible visible]
          cases read : Json.read (String.ofList line) with
          | error cause =>
              rw [lineDocuments_cons_of_error visible read]
              simp
          | ok document =>
              rw [lineDocuments_cons_of_ok visible read]
              simp only [← @ih (number + 1)]
              cases lineDocuments origin (number + 1) rest with
              | error cause => simp [Except.map]
              | ok others => simp [Except.map, eq_comm]

end Lines

theorem documents_eq_ok_iff {ndjson : Bool} {origin text : String} {found : List Value}
    : documents ndjson origin text = .ok found ↔ HoldsDocuments ndjson text found := by
  cases ndjson with
  | true =>
      simp only [documents, HoldsDocuments, if_true]
      exact lineDocuments_eq_ok_iff
  | false =>
      simp only [documents, HoldsDocuments, Bool.false_eq_true, if_false, parseDocument]
      cases Json.read text with
      | error cause => simp [Except.map]
      | ok document => simp [Except.map, eq_comm]

-----------------------------------------------------------------------------------------
-- One document
-----------------------------------------------------------------------------------------

/-- The part of a document that a pointer leads to; without a pointer it is the document. -/
def PointsTo (pointer : Option String) (document part : Value) : Prop :=
  match pointer with
  | none => part = document
  | some pointer => Json.Pointer.select? pointer document = some part

/-- What a filter makes of a part; without a filter it is the part alone. -/
def Yields (engine : Engine) (filter : Option String) (part : Value) (parts : List Value)
    : Prop :=
  match filter with
  | none => parts = [part]
  | some filter => engine.Gives filter part parts

/-- A selected part does not decode. -/
def PartFails (origin : String) (part : Value) (fault : LoadFault) : Prop :=
  ∃ problem, Decoding.declarationsFrom origin part = .error problem ∧ fault = .descriptor problem

/-- The document fails to be selected from, or what is selected fails to decode. -/
inductive DocumentFails (engine : Engine) (invocation : Invocation) (origin : String)
    (document : Value) : LoadFault → Prop where
  | unselected {pointer : String} (given : invocation.pointer = some pointer)
      (missed : Json.Pointer.select? pointer document = none)
    : DocumentFails engine invocation origin document (.unselected pointer origin)
  | filter {part : Value} {filter : String} {fault : Filter.Fault}
      (pointed : PointsTo invocation.pointer document part)
      (given : invocation.filter = some filter) (failed : engine.FailsOn filter part fault)
    : DocumentFails engine invocation origin document (.filter origin fault)
  | part {part : Value} {parts : List Value} {fault : LoadFault}
      (pointed : PointsTo invocation.pointer document part)
      (yielded : Yields engine invocation.filter part parts)
      (first : FirstToFail (PartFails origin) parts fault)
    : DocumentFails engine invocation origin document fault

theorem declarations_eq_error_iff {origin : String} {part : Value} {fault : LoadFault}
    : declarations origin part = .error fault ↔ PartFails origin part fault := by
  unfold declarations PartFails
  cases Decoding.declarationsFrom origin part with
  | error problem => simp [eq_comm]
  | ok found => simp

/-- A pointer leads to a part of the document, or it is one that leads nowhere. -/
theorem pointsTo_or_unselected (pointer : Option String) (document : Value)
    : (∃ part, PointsTo pointer document part)
      ∨ ∃ steps, pointer = some steps ∧ Json.Pointer.select? steps document = none := by
  cases pointer with
  | none => exact .inl ⟨document, rfl⟩
  | some steps =>
      cases found : Json.Pointer.select? steps document with
      | none => exact .inr ⟨steps, rfl, found⟩
      | some part => exact .inl ⟨part, found⟩

section Select

variable {engine : Engine} {filter : Option String} {origin : String} {document part : Value}

theorem select_of_unselected {pointer : String}
    (missed : Json.Pointer.select? pointer document = none)
    : select engine (some pointer) filter origin document
      = .error (.unselected pointer origin) := by
  simp only [select, missed]

/-- Behind the pointer the filter decides what is selected. -/
theorem select_of_pointsTo {pointer : Option String} (pointed : PointsTo pointer document part)
    : select engine pointer filter origin document = select engine none filter origin part := by
  cases pointer with
  | none =>
      obtain rfl : part = document := pointed
      rfl
  | some pointer =>
      have found : Json.Pointer.select? pointer document = some part := pointed
      cases filter <;> simp only [select, found]

theorem select_none_eq_ok_iff {parts : List Value}
    : select engine none filter origin part = .ok parts ↔ Yields engine filter part parts := by
  cases filter with
  | none => simp [select, Yields, eq_comm]
  | some filter =>
      simp only [select, Yields, ← Engine.run_eq_ok_iff]
      cases engine.run filter part <;> simp

theorem select_none_eq_error_iff {fault : LoadFault}
    : select engine none filter origin part = .error fault
      ↔ ∃ text cause, filter = some text ∧ engine.FailsOn text part cause
          ∧ fault = .filter origin cause := by
  cases filter with
  | none => simp [select]
  | some filter =>
      simp only [select, Option.some.injEq, exists_and_left, exists_eq_left',
        ← Engine.run_eq_error_iff]
      cases engine.run filter part <;> simp [eq_comm]

end Select

theorem gather_declarations_eq_error_iff {origin : String} {parts : List Value}
    {fault : LoadFault}
    : gather (declarations origin) parts = .error fault
      ↔ FirstToFail (PartFails origin) parts fault := by
  simp only [gather_eq_error_iff, declarations_eq_error_iff]

section Documents

variable {engine : Engine} {invocation : Invocation} {origin : String} {document : Value}
  {fault : LoadFault}

/-- A document fails in the pointer, in the filter or in what they select, in this order. -/
theorem loadDocument_eq_error_iff
    : invocation.loadDocument engine origin document = .error fault
      ↔ DocumentFails engine invocation origin document fault := by
  constructor
  · intro failed
    unfold Invocation.loadDocument at failed
    rcases pointsTo_or_unselected invocation.pointer document with
      ⟨part, pointed⟩ | ⟨pointer, given, missed⟩
    · rw [select_of_pointsTo pointed] at failed
      cases selected : select engine none invocation.filter origin part with
      | error cause =>
          rw [selected] at failed
          cases failed
          obtain ⟨filter, cause, given, failed, rfl⟩ := select_none_eq_error_iff.mp selected
          exact .filter pointed given failed
      | ok parts =>
          rw [selected] at failed
          exact .part pointed (select_none_eq_ok_iff.mp selected)
            (gather_declarations_eq_error_iff.mp failed)
    · rw [given, select_of_unselected missed] at failed
      cases failed
      exact .unselected given missed
  · intro fails
    unfold Invocation.loadDocument
    cases fails with
    | unselected given missed => rw [given, select_of_unselected missed]
    | filter pointed given failed =>
        rw [select_of_pointsTo pointed,
          select_none_eq_error_iff.mpr ⟨_, _, given, failed, rfl⟩]
    | part pointed yielded first =>
        rw [select_of_pointsTo pointed, select_none_eq_ok_iff.mpr yielded]
        exact gather_declarations_eq_error_iff.mpr first

end Documents

-----------------------------------------------------------------------------------------
-- Files, and all inputs together
-----------------------------------------------------------------------------------------

/-- A file is not read, or some document in it is malformed, or all are documents and one of
them fails.
-/
inductive FileFails (engine : Engine) (invocation : Invocation) (storage : Storage)
    (path : String) : LoadFault → Prop where
  | unreadable {fault : Files.ReadFault} (refused : storage.readText path = .error fault)
    : FileFails engine invocation storage path (.read path fault)
  | malformed {text : String} {fault : Json.SyntaxFault} (found : storage.readText path = .ok text)
      (whole : invocation.ndjson = false) (refused : Json.read text = .error fault)
    : FileFails engine invocation storage path (.json path fault)
  | malformedLine {text : String} {fault : LoadFault} (found : storage.readText path = .ok text)
      (byLine : invocation.ndjson = true)
      (first : FirstToFail (LineFails path) ((Text.lines text.toList).zipIdx 1) fault)
    : FileFails engine invocation storage path fault
  | document {text : String} {documents : List Value} {fault : LoadFault}
      (found : storage.readText path = .ok text)
      (holds : HoldsDocuments invocation.ndjson text documents)
      (first : FirstToFail (DocumentFails engine invocation path) documents fault)
    : FileFails engine invocation storage path fault

/-- An input cannot be resolved, or all are and one of the files fails, in resolved order. -/
inductive LoadFails (services : Services) (invocation : Invocation) (storage : Storage)
    : LoadFault → Prop where
  | input {fault : LoadFault}
      (first : FirstToFail (InputFails services storage) invocation.patterns fault)
    : LoadFails services invocation storage fault
  | file {paths : List String} {fault : LoadFault}
      (resolved : InTurn (InputGives services storage) invocation.patterns paths)
      (first : FirstToFail (FileFails services.filters invocation storage) paths fault)
    : LoadFails services invocation storage fault

section Files

variable {services : Services} {engine : Engine} {invocation : Invocation} {storage : Storage}
  {path : String} {fault : LoadFault}

theorem documents_eq_error_iff {ndjson : Bool} {text : String}
    : documents ndjson path text = .error fault
      ↔ ndjson = true ∧ FirstToFail (LineFails path) ((Text.lines text.toList).zipIdx 1) fault
        ∨ ndjson = false ∧ ∃ cause, Json.read text = .error cause ∧ fault = .json path cause := by
  cases ndjson with
  | true => simp [documents, lineDocuments_eq_error_iff]
  | false =>
      simp only [documents, parseDocument]
      cases Json.read text <;> simp [Except.map, eq_comm]

theorem gather_loadDocument_eq_error_iff {found : List Value}
    : gather (invocation.loadDocument engine path) found = .error fault
      ↔ FirstToFail (DocumentFails engine invocation path) found fault := by
  simp only [gather_eq_error_iff, loadDocument_eq_error_iff]

theorem loadFile_eq_error_iff
    : invocation.loadFile engine storage path = .error fault
      ↔ FileFails engine invocation storage path fault := by
  constructor
  · intro failed
    unfold Invocation.loadFile at failed
    split at failed
    case h_1 cause refused =>
      cases failed
      exact .unreadable refused
    case h_2 text found =>
      split at failed
      case h_1 cause refused =>
        cases failed
        rcases documents_eq_error_iff.mp refused with
          ⟨byLine, first⟩ | ⟨whole, cause, malformed, rfl⟩
        · exact .malformedLine found byLine first
        · exact .malformed found whole malformed
      case h_2 holds =>
        exact .document found (documents_eq_ok_iff.mp holds)
          (gather_loadDocument_eq_error_iff.mp failed)
  · intro fails
    unfold Invocation.loadFile
    cases fails with
    | unreadable refused => rw [refused]
    | malformed found whole refused =>
        rw [found]
        simp only [documents_eq_error_iff.mpr (.inr ⟨whole, _, refused, rfl⟩)]
    | malformedLine found byLine first =>
        rw [found]
        simp only [documents_eq_error_iff.mpr (.inl ⟨byLine, first⟩)]
    | document found holds first =>
        rw [found]
        simp only [documents_eq_ok_iff.mpr holds]
        exact gather_loadDocument_eq_error_iff.mpr first

theorem gather_inputPaths_eq_ok_iff {patterns paths : List String}
    : gather (inputPaths services storage) patterns = .ok paths
      ↔ InTurn (InputGives services storage) patterns paths := by
  simp only [gather_eq_ok_iff, inputPaths_eq_ok_iff]

theorem load_eq_ok_iff {declarations : List TypeDeclaration}
    : invocation.load services storage = .ok declarations
      ↔ ∃ paths, gather (inputPaths services storage) invocation.patterns = .ok paths
          ∧ gather (invocation.loadFile services.filters storage) paths = .ok declarations := by
  unfold Invocation.load
  cases gather (inputPaths services storage) invocation.patterns <;> simp

theorem load_eq_error_iff
    : invocation.load services storage = .error fault
      ↔ LoadFails services invocation storage fault := by
  have inputs := @gather_eq_error_iff _ _ (inputPaths services storage) invocation.patterns
  have files := @gather_eq_error_iff _ _ (invocation.loadFile services.filters storage)
  simp only [inputPaths_eq_error_iff, loadFile_eq_error_iff] at inputs files
  constructor
  · intro failed
    unfold Invocation.load at failed
    cases resolved : gather (inputPaths services storage) invocation.patterns with
    | error cause =>
        rw [resolved] at failed
        cases failed
        exact .input (inputs.mp resolved)
    | ok paths =>
        rw [resolved] at failed
        exact .file (gather_inputPaths_eq_ok_iff.mp resolved) (files.mp failed)
  · intro fails
    unfold Invocation.load
    cases fails with
    | input first => rw [inputs.mpr first]
    | file resolved first =>
        rw [gather_inputPaths_eq_ok_iff.mpr resolved]
        exact files.mpr first

end Files

namespace Invocation

/-- The invocation on other inputs. -/
def on (invocation : Invocation) (patterns : List String) : Invocation :=
  { invocation with patterns }

@[simp]
theorem on_patterns (invocation : Invocation) (patterns : List String)
    : (invocation.on patterns).patterns = patterns :=
  rfl

/-- A file is loaded without regard to the inputs that lead to it. -/
@[simp]
theorem loadFile_on (invocation : Invocation) (patterns : List String) (engine : Engine)
    (storage : Storage)
    : (invocation.on patterns).loadFile engine storage = invocation.loadFile engine storage :=
  rfl

/-- Whatever language filters are in, and whatever is found for patterns: inputs that are loaded
together are loaded exactly if each part of them is, and give the declarations of the one part
before those of the other. Where they fail, the fault is the one that the order of the stages puts
first, wherever the inputs are parted.
-/
theorem load_append (services : Services) (invocation : Invocation) (storage : Storage)
    (left right : List String)
    : (∀ declarations,
        (invocation.on (left ++ right)).load services storage = .ok declarations
        ↔ ∃ first second, (invocation.on left).load services storage = .ok first
            ∧ (invocation.on right).load services storage = .ok second
            ∧ declarations = first ++ second)
      ∧ ∀ fault, (invocation.on (left ++ right)).load services storage = .error fault
          ↔ LoadFails services (invocation.on (left ++ right)) storage fault := by
  refine ⟨fun declarations => ?_, fun fault => load_eq_error_iff⟩
  simp only [load_eq_ok_iff, on_patterns, loadFile_on]
  constructor
  · rintro ⟨paths, resolved, loaded⟩
    obtain ⟨leftPaths, rightPaths, leftResolved, rightResolved, rfl⟩ :=
      gather_append_eq_ok_iff.mp resolved
    obtain ⟨first, second, leftLoaded, rightLoaded, rfl⟩ := gather_append_eq_ok_iff.mp loaded
    exact ⟨first, second, ⟨leftPaths, leftResolved, leftLoaded⟩,
      ⟨rightPaths, rightResolved, rightLoaded⟩, rfl⟩
  · rintro ⟨first, second, ⟨leftPaths, leftResolved, leftLoaded⟩,
      ⟨rightPaths, rightResolved, rightLoaded⟩, rfl⟩
    exact ⟨leftPaths ++ rightPaths,
      gather_append_eq_ok_iff.mpr ⟨_, _, leftResolved, rightResolved, rfl⟩,
      gather_append_eq_ok_iff.mpr ⟨_, _, leftLoaded, rightLoaded, rfl⟩⟩

end Invocation

end ClonePlanner.Command
