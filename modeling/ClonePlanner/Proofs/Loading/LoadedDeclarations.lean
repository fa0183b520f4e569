import ClonePlanner.Proofs.Loading.FaultPrecedence

/-! What loading gives where nothing fails, by rules that do not run the loader. Inputs stand for
files, texts hold documents, and the parts that are selected of these decode. At each of these
stages the results stand in the order of the items that they come from.
-/

namespace ClonePlanner.Command

open ClonePlanner.Files (Storage)
open ClonePlanner.Filter (Engine)
open ClonePlanner.Json (Value)

-----------------------------------------------------------------------------------------
-- Declarations in several documents
-----------------------------------------------------------------------------------------

/-- The documents decode, one after another, to the declarations. -/
def Decodes (documents : List Value) (found : List TypeDeclaration) : Prop :=
  InTurn (fun document list => Decoding.declarations document = .ok list) documents found

section Decodes

variable {document : Value} {documents : List Value} {found : List TypeDeclaration}

theorem declarations_eq_ok_iff {origin : String}
    : declarations origin document = .ok found ↔ Decoding.declarations document = .ok found := by
  unfold declarations Decoding.declarationsFrom
  cases Decoding.declarations document <;> simp [Decoding.withOrigin]

theorem gather_declarations_eq_ok_iff {origin : String}
    : gather (declarations origin) documents = .ok found ↔ Decodes documents found := by
  simp only [gather_eq_ok_iff, declarations_eq_ok_iff, Decodes]

/-- Documents decode in two parts as they do together. -/
theorem decodes_append_iff {more : List Value}
    : Decodes (documents ++ more) found
      ↔ ∃ first second, Decodes documents first ∧ Decodes more second
          ∧ found = first ++ second :=
  inTurn_append_iff

theorem decodes_nil_iff : Decodes [] found ↔ found = [] :=
  inTurn_nil_iff

theorem decodes_singleton_iff
    : Decodes [document] found ↔ Decoding.declarations document = .ok found :=
  inTurn_singleton_iff

end Decodes

-----------------------------------------------------------------------------------------
-- Documents, files and inputs
-----------------------------------------------------------------------------------------

/-- The document gives the declarations of the parts that are selected of it. -/
def DocumentGives (engine : Engine) (invocation : Invocation) (document : Value)
    (found : List TypeDeclaration) : Prop :=
  ∃ pointed parts, PointsTo invocation.pointer document pointed
    ∧ Yields engine invocation.filter pointed parts ∧ Decodes parts found

/-- The file gives the declarations of the documents in its text. -/
def FileGives (engine : Engine) (invocation : Invocation) (storage : Storage) (path : String)
    (found : List TypeDeclaration) : Prop :=
  ∃ text documents, storage.readText path = .ok text
    ∧ HoldsDocuments invocation.ndjson text documents
    ∧ InTurn (DocumentGives engine invocation) documents found

/-- The inputs give the declarations of the files that they stand for. -/
def LoadGives (services : Services) (invocation : Invocation) (storage : Storage)
    (found : List TypeDeclaration) : Prop :=
  ∃ paths, InTurn (InputGives services storage) invocation.patterns paths
    ∧ InTurn (FileGives services.filters invocation storage) paths found

section Gives

variable {services : Services} {engine : Engine} {invocation : Invocation} {storage : Storage}
  {found : List TypeDeclaration}

theorem loadDocument_eq_ok_iff {origin : String} {document : Value}
    : invocation.loadDocument engine origin document = .ok found
      ↔ DocumentGives engine invocation document found := by
  unfold Invocation.loadDocument
  constructor
  · intro loaded
    rcases pointsTo_or_unselected invocation.pointer document with
      ⟨part, pointed⟩ | ⟨pointer, given, missed⟩
    · rw [select_of_pointsTo pointed] at loaded
      cases selected : select engine none invocation.filter origin part with
      | error fault =>
          rw [selected] at loaded
          cases loaded
      | ok parts =>
          rw [selected] at loaded
          exact ⟨part, parts, pointed, select_none_eq_ok_iff.mp selected,
            gather_declarations_eq_ok_iff.mp loaded⟩
    · rw [given, select_of_unselected missed] at loaded
      cases loaded
  · rintro ⟨part, parts, pointed, yields, decodes⟩
    rw [select_of_pointsTo pointed, select_none_eq_ok_iff.mpr yields]
    exact gather_declarations_eq_ok_iff.mpr decodes

theorem loadFile_eq_ok_iff {path : String}
    : invocation.loadFile engine storage path = .ok found
      ↔ FileGives engine invocation storage path found := by
  have gathers {documents : List Value}
      : gather (invocation.loadDocument engine path) documents = .ok found
        ↔ InTurn (DocumentGives engine invocation) documents found := by
    simp only [gather_eq_ok_iff, loadDocument_eq_ok_iff]
  unfold Invocation.loadFile
  constructor
  · intro loaded
    split at loaded
    case h_1 => cases loaded
    case h_2 text read =>
      split at loaded
      case h_1 => cases loaded
      case h_2 documents holds =>
        exact ⟨text, documents, read, documents_eq_ok_iff.mp holds, gathers.mp loaded⟩
  · rintro ⟨text, documents, read, holds, inTurn⟩
    simp only [read, documents_eq_ok_iff.mpr holds]
    exact gathers.mpr inTurn

/-- Inputs are loaded with what they give. -/
theorem load_eq_ok_iff_gives
    : invocation.load services storage = .ok found
      ↔ LoadGives services invocation storage found := by
  simp only [load_eq_ok_iff, gather_inputPaths_eq_ok_iff, LoadGives]
  simp only [gather_eq_ok_iff, loadFile_eq_ok_iff]

end Gives

end ClonePlanner.Command
