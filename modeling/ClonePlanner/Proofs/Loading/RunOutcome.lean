import ClonePlanner.Command.Run
import ClonePlanner.Proofs.Files.WrittenFile
import ClonePlanner.Proofs.Loading.LoadedDeclarations

/-! What a run leaves behind. A flaw in anything that the run comes to, wherever it stands, ends
the run before anything is written. Without one the plans of all declarations come out as one
text.
-/

namespace ClonePlanner

-----------------------------------------------------------------------------------------
-- The contents of reports
-----------------------------------------------------------------------------------------

/-- The set is for the declaration: under its name, with what planning comes to for each
capability.
-/
structure PlanSet.IsFor (options : PlannerOptions) (declaration : TypeDeclaration)
    (set : PlanSet) : Prop where
  name : set.name = declaration.name
  deep : set.deep = declaration.outcome .deep options
  shallow : set.shallow = declaration.outcome .shallow options

/-- A report has one set for each declaration, in their order. -/
theorem PlanReport.ofDeclarations_isFor (declarations : List TypeDeclaration)
    (options : PlannerOptions)
    : List.Forall₂ (PlanSet.IsFor options) declarations
        (ofDeclarations declarations options).types := by
  have eachIsFor (declaration : TypeDeclaration)
      : PlanSet.IsFor options declaration (declaration.planSet options) :=
    ⟨rfl, rfl, rfl⟩
  exact List.forall₂_map_right_iff.mpr (List.forall₂_same.mpr fun each _ => eachIsFor each)

namespace Command

open ClonePlanner.Filter (Engine)
open ClonePlanner.Files (Storage)
open ClonePlanner.Json (Value)

section Items

variable {α β : Type}

/-- Each item of a list that corresponds to another has a partner there. -/
theorem exists_partner {R : α → β → Prop} {items : List α} {others : List β}
    (aligned : List.Forall₂ R items others) {item : α} (listed : item ∈ items)
    : ∃ other ∈ others, R item other := by
  induction aligned with
  | nil => cases listed
  | cons related _ ih =>
      rcases List.mem_cons.mp listed with rfl | later
      · exact ⟨_, List.mem_cons_self, related⟩
      · obtain ⟨other, there, related⟩ := ih later
        exact ⟨other, List.mem_cons_of_mem _ there, related⟩

theorem FirstToFail.exists_mem {Fails : α → LoadFault → Prop} {items : List α}
    {fault : LoadFault} (first : FirstToFail Fails items fault)
    : ∃ item ∈ items, Fails item fault := by
  obtain ⟨before, item, after, rfl, _, fails⟩ := first
  exact ⟨item, by simp, fails⟩

end Items

namespace Invocation

-----------------------------------------------------------------------------------------
-- What a run comes to
-----------------------------------------------------------------------------------------

/-- The inputs that the run resolves: none where it only shows how its arguments are understood.
-/
def attempted (invocation : Invocation) : List String :=
  if invocation.noOp then [] else invocation.patterns

/-- An input that the run resolves stands for the file, maybe among others. -/
def ComesToFile (invocation : Invocation) (services : Services) (storage : Storage)
    (path : String) : Prop :=
  ∃ input ∈ invocation.attempted, ∃ paths, InputGives services storage input paths
    ∧ path ∈ paths

/-- The document is in a text, on a line of its own or as the whole. -/
def InText (ndjson : Bool) (text : String) (document : Value) : Prop :=
  if ndjson then
    ∃ line ∈ Text.lines text.toList, line.all Text.isBlank = false
      ∧ Json.read (String.ofList line) = .ok document
  else
    Json.read text = .ok document

/-- The document is in a file that the run comes to. -/
def ComesToDocument (invocation : Invocation) (services : Services) (storage : Storage)
    (path : String) (document : Value) : Prop :=
  invocation.ComesToFile services storage path
  ∧ ∃ text, storage.readText path = .ok text ∧ InText invocation.ndjson text document

/-- The part is among those that are selected of a document that the run comes to. -/
def ComesToPart (invocation : Invocation) (services : Services) (storage : Storage)
    (path : String) (part : Value) : Prop :=
  ∃ document pointed parts, invocation.ComesToDocument services storage path document
    ∧ PointsTo invocation.pointer document pointed
    ∧ Yields services.filters invocation.filter pointed parts ∧ part ∈ parts

/-- Something that the run comes to is flawed: an input, a file, a document or a part of one,
whatever stands before it and behind it.
-/
inductive Flawed (invocation : Invocation) (services : Services) (storage : Storage)
    : LoadFault → Prop where
  | input {input : String} {fault : LoadFault} (attempted : input ∈ invocation.attempted)
      (fails : InputFails services storage input fault)
    : Flawed invocation services storage fault
  | unreadable {path : String} {fault : Files.ReadFault}
      (reached : invocation.ComesToFile services storage path)
      (refused : storage.readText path = .error fault)
    : Flawed invocation services storage (.read path fault)
  | malformed {path text : String} {fault : Json.SyntaxFault}
      (reached : invocation.ComesToFile services storage path)
      (found : storage.readText path = .ok text) (whole : invocation.ndjson = false)
      (refused : Json.read text = .error fault)
    : Flawed invocation services storage (.json path fault)
  | malformedLine {path text : String} {numbered : List Char × Nat} {fault : LoadFault}
      (reached : invocation.ComesToFile services storage path)
      (found : storage.readText path = .ok text) (byLine : invocation.ndjson = true)
      (listed : numbered ∈ (Text.lines text.toList).zipIdx 1)
      (fails : LineFails path numbered fault)
    : Flawed invocation services storage fault
  | unselected {path pointer : String} {document : Value}
      (reached : invocation.ComesToDocument services storage path document)
      (given : invocation.pointer = some pointer)
      (missed : Json.Pointer.select? pointer document = none)
    : Flawed invocation services storage (.unselected pointer path)
  | filter {path filter : String} {document part : Value} {fault : Filter.Fault}
      (reached : invocation.ComesToDocument services storage path document)
      (pointed : PointsTo invocation.pointer document part)
      (given : invocation.filter = some filter)
      (failed : services.filters.FailsOn filter part fault)
    : Flawed invocation services storage (.filter path fault)
  | part {path : String} {part : Value} {fault : LoadFault}
      (reached : invocation.ComesToPart services storage path part)
      (fails : PartFails path part fault)
    : Flawed invocation services storage fault

section Flawed

variable {invocation : Invocation} {services : Services} {storage : Storage} {path : String}
  {fault : LoadFault} {declarations : List TypeDeclaration}

theorem mem_attempted_iff {input : String}
    : input ∈ invocation.attempted ↔ invocation.noOp = false ∧ input ∈ invocation.patterns := by
  unfold attempted
  cases invocation.noOp <;> simp

theorem ComesToFile.noOp (reached : invocation.ComesToFile services storage path)
    : invocation.noOp = false := by
  obtain ⟨input, attempted, _⟩ := reached
  exact (mem_attempted_iff.mp attempted).1

theorem Flawed.noOp (flawed : invocation.Flawed services storage fault)
    : invocation.noOp = false := by
  cases flawed with
  | input attempted => exact (mem_attempted_iff.mp attempted).1
  | unreadable reached | malformed reached | malformedLine reached => exact reached.noOp
  | unselected reached | filter reached => exact reached.1.noOp
  | part reached =>
      obtain ⟨_, _, _, reached, _⟩ := reached
      exact reached.1.noOp

-----------------------------------------------------------------------------------------
-- No flaw escapes the loader
-----------------------------------------------------------------------------------------

theorem inputGives_of_load (gives : LoadGives services invocation storage declarations)
    {input : String} (attempted : input ∈ invocation.attempted)
    : ∃ paths, InputGives services storage input paths := by
  obtain ⟨paths, resolved, _⟩ := gives
  obtain ⟨own, inputGives, _⟩ := resolved.exists_of_mem (mem_attempted_iff.mp attempted).2
  exact ⟨own, inputGives⟩

/-- Where all is loaded, each file that the run comes to is. -/
theorem fileGives_of_load (gives : LoadGives services invocation storage declarations)
    (reached : invocation.ComesToFile services storage path)
    : ∃ list, FileGives services.filters invocation storage path list := by
  obtain ⟨paths, resolved, inTurn⟩ := gives
  obtain ⟨input, attempted, own, inputGives, listed⟩ := reached
  obtain ⟨_, same, within⟩ := resolved.exists_of_mem (mem_attempted_iff.mp attempted).2
  cases (inputPaths_eq_ok_iff.mpr inputGives).symm.trans (inputPaths_eq_ok_iff.mpr same)
  obtain ⟨list, found, _⟩ := inTurn.exists_of_mem (within listed)
  exact ⟨list, found⟩

/-- Among lines that hold documents, each that is not blank holds one. -/
theorem HoldsLines.exists_document {lines : List (List Char)} {documents : List Value}
    (holds : HoldsLines lines documents) {line : List Char} (listed : line ∈ lines)
    (visible : line.all Text.isBlank = false)
    : ∃ document ∈ documents, Json.read (String.ofList line) = .ok document :=
  exists_partner holds (List.mem_filter.mpr ⟨listed, by simp [visible]⟩)

/-- What is found in a text is among the documents that the text holds. -/
theorem mem_of_inText {ndjson : Bool} {text : String} {documents : List Value}
    {document : Value} (holds : HoldsDocuments ndjson text documents)
    (found : InText ndjson text document)
    : document ∈ documents := by
  cases ndjson with
  | true =>
      obtain ⟨line, listed, visible, read⟩ := found
      obtain ⟨other, there, same⟩ := HoldsLines.exists_document holds listed visible
      cases read.symm.trans same
      exact there
  | false =>
      obtain ⟨other, same, rfl⟩ := holds
      cases found.symm.trans same
      exact List.mem_singleton_self _

/-- Where all is loaded, each document that the run comes to is. -/
theorem documentGives_of_load {document : Value}
    (gives : LoadGives services invocation storage declarations)
    (reached : invocation.ComesToDocument services storage path document)
    : ∃ list, DocumentGives services.filters invocation document list := by
  obtain ⟨file, text, read, found⟩ := reached
  obtain ⟨_, _, documents, same, holds, inTurn⟩ := fileGives_of_load gives file
  cases read.symm.trans same
  obtain ⟨list, documentGives, _⟩ := inTurn.exists_of_mem (mem_of_inText holds found)
  exact ⟨list, documentGives⟩

/-- A document that fails by the rules is not loaded. -/
theorem not_documentFails_of_load {document : Value}
    (gives : LoadGives services invocation storage declarations)
    (reached : invocation.ComesToDocument services storage path document)
    : ¬ DocumentFails services.filters invocation path document fault := by
  intro fails
  obtain ⟨list, documentGives⟩ := documentGives_of_load gives reached
  have loaded : invocation.loadDocument services.filters path document = .ok list :=
    loadDocument_eq_ok_iff.mpr documentGives
  cases loaded.symm.trans (loadDocument_eq_error_iff.mpr fails)

/-- A file that fails by the rules is not loaded. -/
theorem not_fileFails_of_load (gives : LoadGives services invocation storage declarations)
    (reached : invocation.ComesToFile services storage path)
    : ¬ FileFails services.filters invocation storage path fault := by
  intro fails
  obtain ⟨list, fileGives⟩ := fileGives_of_load gives reached
  have loaded := loadFile_eq_ok_iff.mpr fileGives
  cases loaded.symm.trans (loadFile_eq_error_iff.mpr fails)

/-- Where loading succeeds nothing that the run comes to is flawed, by cases on the flaw. -/
theorem not_flawed_of_load (gives : LoadGives services invocation storage declarations)
    : ¬ invocation.Flawed services storage fault := by
  intro flawed
  cases flawed with
  | input attempted fails =>
      obtain ⟨paths, inputGives⟩ := inputGives_of_load gives attempted
      have resolved := inputPaths_eq_ok_iff.mpr inputGives
      cases resolved.symm.trans (inputPaths_eq_error_iff.mpr fails)
  | unreadable reached refused => exact not_fileFails_of_load gives reached (.unreadable refused)
  | malformed reached found whole refused =>
      exact not_fileFails_of_load gives reached (.malformed found whole refused)
  | @malformedLine _ _ numbered _ reached found byLine listed fails =>
      obtain ⟨_, _, documents, same, holds, _⟩ := fileGives_of_load gives reached
      cases found.symm.trans same
      rw [byLine] at holds
      obtain ⟨visible, cause, refused, _⟩ := fails
      obtain ⟨document, _, read⟩ :=
        HoldsLines.exists_document holds (List.fst_mem_of_mem_zipIdx listed) visible
      cases read.symm.trans refused
  | unselected reached given missed =>
      exact not_documentFails_of_load gives reached (.unselected given missed)
  | filter reached pointed given failed =>
      exact not_documentFails_of_load gives reached (.filter pointed given failed)
  | @part path _ _ reached fails =>
      obtain ⟨document, pointed, parts, reached, points, yields, listed⟩ := reached
      obtain ⟨list, documentGives⟩ := documentGives_of_load gives reached
      have loaded : invocation.loadDocument services.filters path document = .ok list :=
        loadDocument_eq_ok_iff.mpr documentGives
      unfold loadDocument at loaded
      rw [select_of_pointsTo points, select_none_eq_ok_iff.mpr yields] at loaded
      obtain ⟨_, decoded, _⟩ := (gather_eq_ok_iff.mp loaded).exists_of_mem listed
      cases decoded.symm.trans (declarations_eq_error_iff.mpr fails)

-----------------------------------------------------------------------------------------
-- The fault of the loader is a flaw
-----------------------------------------------------------------------------------------

theorem comesToFile_of_resolved {paths : List String} (loads : invocation.noOp = false)
    (resolved : InTurn (InputGives services storage) invocation.patterns paths)
    (listed : path ∈ paths)
    : invocation.ComesToFile services storage path := by
  obtain ⟨input, given, own, inputGives, mem⟩ := resolved.exists_of_found listed
  exact ⟨input, mem_attempted_iff.mpr ⟨loads, given⟩, own, inputGives, mem⟩

/-- A document that a text holds is found in it. -/
theorem inText_of_mem {ndjson : Bool} {text : String} {documents : List Value}
    {document : Value} (holds : HoldsDocuments ndjson text documents)
    (listed : document ∈ documents)
    : InText ndjson text document := by
  cases ndjson with
  | true =>
      have lines : HoldsLines (Text.lines text.toList) documents := holds
      obtain ⟨line, there, read⟩ := exists_partner lines.flip listed
      obtain ⟨listed, visible⟩ := List.mem_filter.mp there
      exact ⟨line, listed, by simpa using visible, read⟩
  | false =>
      obtain ⟨only, read, rfl⟩ := holds
      cases List.mem_singleton.mp listed
      exact read

theorem flawed_of_documentFails {document : Value}
    (reached : invocation.ComesToDocument services storage path document)
    (fails : DocumentFails services.filters invocation path document fault)
    : invocation.Flawed services storage fault := by
  cases fails with
  | unselected given missed => exact .unselected reached given missed
  | filter pointed given failed => exact .filter reached pointed given failed
  | part pointed yielded first =>
      obtain ⟨part, listed, fails⟩ := first.exists_mem
      exact .part ⟨_, _, _, reached, pointed, yielded, listed⟩ fails

theorem flawed_of_fileFails (reached : invocation.ComesToFile services storage path)
    (fails : FileFails services.filters invocation storage path fault)
    : invocation.Flawed services storage fault := by
  cases fails with
  | unreadable refused => exact .unreadable reached refused
  | malformed found whole refused => exact .malformed reached found whole refused
  | malformedLine found byLine first =>
      obtain ⟨numbered, listed, fails⟩ := first.exists_mem
      exact .malformedLine reached found byLine listed fails
  | document found holds first =>
      obtain ⟨document, listed, fails⟩ := first.exists_mem
      exact flawed_of_documentFails ⟨reached, _, found, inText_of_mem holds listed⟩ fails

theorem flawed_of_loadFails (loads : invocation.noOp = false)
    (fails : LoadFails services invocation storage fault)
    : invocation.Flawed services storage fault := by
  cases fails with
  | input first =>
      obtain ⟨input, given, fails⟩ := first.exists_mem
      exact .input (mem_attempted_iff.mpr ⟨loads, given⟩) fails
  | file resolved first =>
      obtain ⟨path, listed, fails⟩ := first.exists_mem
      exact flawed_of_fileFails (comesToFile_of_resolved loads resolved listed) fails

/-- A flaw anywhere makes the loader fail, with a fault that is a flaw itself. -/
theorem load_of_flawed (flawed : invocation.Flawed services storage fault)
    : ∃ first, invocation.load services storage = .error first
        ∧ invocation.Flawed services storage first := by
  cases loaded : invocation.load services storage with
  | ok declarations => exact (not_flawed_of_load (load_eq_ok_iff_gives.mp loaded) flawed).elim
  | error first =>
      exact ⟨first, rfl, flawed_of_loadFails flawed.noOp (load_eq_error_iff.mp loaded)⟩

end Flawed

-----------------------------------------------------------------------------------------
-- Delivering a text
-----------------------------------------------------------------------------------------

/-- The storage, with the directory made that is to hold what the path leads to. -/
inductive Prepared (storage : Storage) (path : String) : Storage → Prop where
  | bare (top : Files.PathText.parent? path = none) : Prepared storage path storage
  | made {parent : String} {next : Storage} (above : Files.PathText.parent? path = some parent)
      (made : storage.makeDirectories (parent.length + 1) parent = (next, none))
    : Prepared storage path next

/-- The storage does not let the text be written: a directory is not made, or the file is not
written.
-/
inductive Refuses (storage : Storage) (path text : String) : Fault → Prop where
  | directory {parent : String} {next : Storage} {refusal : Files.Refusal}
      (above : Files.PathText.parent? path = some parent)
      (refused : storage.makeDirectories (parent.length + 1) parent = (next, some refusal))
    : Refuses storage path text (.createDirectory parent refusal)
  | file {next : Storage} {refusal : Files.Refusal} (prepared : Prepared storage path next)
      (refused : next.writeFile path text.toUTF8 = .error refusal)
    : Refuses storage path text (.writeFile path refusal)

/-- The text comes out: as a line of the output, or in the file that is named for it unless the
storage refuses that.
-/
def Delivers (invocation : Invocation) (storage : Storage) (text : String) (outcome : Outcome)
    : Prop :=
  match invocation.out with
  | none => outcome = ⟨text ++ "\n", storage, none⟩
  | some path =>
    outcome.output = ""
    ∧ (outcome.fault = none ∧ outcome.storage.readText path = .ok text
      ∨ ∃ fault, outcome.fault = some fault ∧ Refuses storage path text fault)

section Write

variable {storage next : Storage} {path text : String}

theorem write_of_ok {written : Storage} (prepared : Prepared storage path next)
    (wrote : next.writeFile path text.toUTF8 = .ok written)
    : write storage path text = ⟨"", written, none⟩ := by
  cases prepared with
  | bare top => simp only [write, top, wrote]
  | made above made => simp only [write, above, made, wrote]

theorem write_of_refused {fault : Fault} (refuses : Refuses storage path text fault)
    : ∃ left, write storage path text = ⟨"", left, some fault⟩ := by
  cases refuses with
  | @directory parent next refusal above refused =>
      exact ⟨next, by simp only [write, above, refused, Option.getD_some]⟩
  | @file next refusal prepared refused =>
      cases prepared with
      | bare top => exact ⟨storage, by simp only [write, top, refused]⟩
      | made above made => exact ⟨next, by simp only [write, above, made, refused]⟩

/-- Either the directory for the file is made, or the storage refuses that. -/
theorem prepared_or_refuses (storage : Storage) (path text : String)
    : (∃ next, Prepared storage path next) ∨ ∃ fault, Refuses storage path text fault := by
  cases above : Files.PathText.parent? path with
  | none => exact .inl ⟨storage, .bare above⟩
  | some parent =>
      cases made : storage.makeDirectories (parent.length + 1) parent with
      | mk next refused =>
          cases refused with
          | none => exact .inl ⟨next, .made above made⟩
          | some refusal => exact .inr ⟨_, .directory above made⟩

/-- Writing a text delivers it, or says what the storage refuses. -/
theorem write_delivers (storage : Storage) (path text : String)
    : (write storage path text).output = ""
      ∧ ((write storage path text).fault = none
          ∧ (write storage path text).storage.readText path = .ok text
        ∨ ∃ fault, (write storage path text).fault = some fault
            ∧ Refuses storage path text fault) := by
  have refused {fault : Fault} (refuses : Refuses storage path text fault)
      : (write storage path text).output = ""
        ∧ (write storage path text).fault = some fault := by
    obtain ⟨left, outcome⟩ := write_of_refused refuses
    rw [outcome]
    exact ⟨rfl, rfl⟩
  rcases prepared_or_refuses storage path text with ⟨next, prepared⟩ | ⟨fault, refuses⟩
  · cases wrote : next.writeFile path text.toUTF8 with
    | ok written =>
        rw [write_of_ok prepared wrote]
        exact ⟨rfl, .inl ⟨rfl, Files.Storage.readText_of_writeFile wrote⟩⟩
    | error refusal =>
        have refuses := Refuses.file prepared wrote
        exact ⟨(refused refuses).1, .inr ⟨_, (refused refuses).2, refuses⟩⟩
  · exact ⟨(refused refuses).1, .inr ⟨fault, (refused refuses).2, refuses⟩⟩

end Write

-----------------------------------------------------------------------------------------
-- Runs
-----------------------------------------------------------------------------------------

/-- A run with a flaw in anything that it comes to, whatever is fine before and behind it, gives
the first fault of the loader, writes nothing and leaves the storage as it was. Loading succeeds
exactly if nothing is flawed; then it has loaded what the inputs give, and a run for plans delivers
a report with one set for each declaration, in their order. A run that only shows how its arguments
are understood does nothing of this. All of it holds whatever language filters are in, and whatever
is found for patterns.
-/
theorem run_allOrNothing (invocation : Invocation) (services : Services) (storage : Storage)
    (color : Bool)
    : (∀ flaw, invocation.Flawed services storage flaw →
        ∃ fault, invocation.Flawed services storage fault
          ∧ LoadFails services invocation storage fault
          ∧ invocation.run services storage color = ⟨"", storage, some (.load fault)⟩)
      ∧ (invocation.noOp = false →
        (∀ flaw, ¬ invocation.Flawed services storage flaw) →
        ∃ declarations, invocation.load services storage = .ok declarations)
      ∧ (∀ declarations, invocation.noOp = false →
        invocation.load services storage = .ok declarations →
        LoadGives services invocation storage declarations
        ∧ (∀ flaw, ¬ invocation.Flawed services storage flaw)
        ∧ (invocation.task = .plan →
          ∃ report : PlanReport,
            List.Forall₂ (PlanSet.IsFor invocation.options) declarations report.types
            ∧ invocation.Delivers storage (report.json invocation.compact)
              (invocation.run services storage color)))
      ∧ (invocation.noOp = true → invocation.run services storage color = ⟨"", storage, none⟩) := by
  refine ⟨?_, ?_, ?_, ?_⟩
  · intro flaw flawed
    obtain ⟨fault, failed, first⟩ := load_of_flawed flawed
    refine ⟨fault, first, load_eq_error_iff.mp failed, ?_⟩
    simp only [run, flawed.noOp, Bool.false_eq_true, if_false, failed]
  · intro loads flawless
    cases loaded : invocation.load services storage with
    | ok declarations => exact ⟨declarations, rfl⟩
    | error fault =>
        exact (flawless fault (flawed_of_loadFails loads (load_eq_error_iff.mp loaded))).elim
  · intro declarations loads loaded
    have gives := load_eq_ok_iff_gives.mp loaded
    refine ⟨gives, fun flaw => not_flawed_of_load gives, ?_⟩
    intro plans
    refine ⟨.ofDeclarations declarations invocation.options,
      PlanReport.ofDeclarations_isFor declarations invocation.options, ?_⟩
    simp only [run, loads, Bool.false_eq_true, if_false, loaded, present, plans]
    unfold Delivers
    cases invocation.out with
    | none => rfl
    | some path => exact write_delivers storage path _
  · intro shows
    simp only [run, shows, if_true]

/-- A file with a class, and one that holds no document. -/
def goodAndBroken : Storage where
  root := .directory [
    ("broken", .file "\x7boops".toUTF8),
    ("good", .file "\x7b\"name\":\"A\"\x7d".toUTF8)]
  base := []

/-- An invocation that writes plans to a file in a directory that is not there yet. -/
def saving (noOp : Bool) (patterns : List String) : Invocation where
  task := .plan
  patterns := patterns
  ndjson := false
  pointer := none
  filter := none
  options := {}
  compact := true
  out := some "new/plans"
  noOp := noOp

theorem goodAndBroken_run_allOrNothing
    : (∃ fault, (saving false ["good", "broken"]).run .builtIn goodAndBroken false
        = ⟨"", goodAndBroken, some (.load fault)⟩)
      ∧ (∃ report : PlanReport, report.types.map (·.name) = ["A"]
          ∧ ((saving false ["good"]).run .builtIn goodAndBroken false).storage.readText "new/plans"
            = .ok (report.json true))
      ∧ (saving true ["broken"]).run .builtIn goodAndBroken false = ⟨"", goodAndBroken, none⟩ := by
  refine ⟨?_, ?_, (run_allOrNothing _ .builtIn _ false).2.2.2 rfl⟩
  · have reached : (saving false ["good", "broken"]).ComesToFile .builtIn goodAndBroken "broken" :=
      ⟨"broken", by decide, ["broken"], .literal rfl, by decide⟩
    have found : goodAndBroken.readText "broken" = .ok "\x7boops" := rfl
    have flawed : (saving false ["good", "broken"]).Flawed .builtIn goodAndBroken _ :=
      .malformed reached found rfl rfl
    obtain ⟨fault, _, _, outcome⟩ := (run_allOrNothing _ .builtIn _ false).1 _ flawed
    exact ⟨fault, outcome⟩
  · have loaded : (saving false ["good"]).load .builtIn goodAndBroken = .ok [_] := rfl
    obtain ⟨⟨sets⟩, aligned, delivered⟩ :=
      ((run_allOrNothing _ .builtIn _ false).2.2.1 _ rfl loaded).2.2 rfl
    have fine : ((saving false ["good"]).run .builtIn goodAndBroken false).fault = none := rfl
    have names : sets.map (·.name) = ["A"] := by
      cases aligned with
      | cons isFor none =>
          cases none
          exact congrArg (fun name => [name]) isFor.name
    rcases delivered.2 with ⟨_, written⟩ | ⟨fault, refused, _⟩
    · exact ⟨⟨sets⟩, names, written⟩
    · cases fine.symm.trans refused

end Invocation

end Command

end ClonePlanner
