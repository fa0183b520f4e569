import ClonePlanner.Proofs.Documents.DeclarationLists
import ClonePlanner.Proofs.Json.Embedding
import ClonePlanner.Proofs.Json.ReadBack
import ClonePlanner.Proofs.Loading.LoadedDeclarations

/-! Documents come in one list, on the lines of one file or in files of their own, and load alike.
The items of a list are read as they are by themselves, a line is its text but for a carriage
return, and a list decodes as its items do.
-/

namespace ClonePlanner

-----------------------------------------------------------------------------------------
-- Lines
-----------------------------------------------------------------------------------------

namespace Text

/-- What may end a line. -/
def LineEnd (ending : List Char) : Prop :=
  ending = ['\n'] ∨ ending = ['\r', '\n']

/-- The line without a carriage return at its end. -/
def withoutReturn : List Char → List Char
  | [] => []
  | ['\r'] => []
  | c :: rest => c :: withoutReturn rest

theorem withoutReturn_cons_cons (c d : Char) (rest : List Char)
    : withoutReturn (c :: d :: rest) = c :: withoutReturn (d :: rest) := by
  simp [withoutReturn]

theorem withoutReturn_append_return (line : List Char)
    : withoutReturn (line ++ ['\r']) = line := by
  induction line with
  | nil => rfl
  | cons c rest ih => cases rest <;> simp_all [withoutReturn]

theorem withoutReturn_cases (line : List Char)
    : withoutReturn line = line ∨ line = withoutReturn line ++ ['\r'] := by
  fun_induction withoutReturn line with
  | case1 => exact .inl rfl
  | case2 => exact .inr rfl
  | case3 c rest _ ih =>
      rcases ih with same | ends
      · exact .inl (congrArg _ same)
      · exact .inr (congrArg _ ends)

/-- A line feed ends the line before it, by induction over the line. -/
theorem lines_lineFeed {line : List Char} (whole : '\n' ∉ line) (rest : List Char)
    : lines (line ++ '\n' :: rest) = withoutReturn line :: lines rest := by
  induction line with
  | nil => rfl
  | cons c more ih =>
      obtain ⟨noFeed, wholeMore⟩ : '\n' ≠ c ∧ '\n' ∉ more := by simpa using whole
      have later := ih wholeMore
      cases more with
      | nil =>
          -- directly before the line feed, a carriage return belongs to the end of the line
          by_cases isReturn : c = '\r'
          · subst c
            rfl
          · rw [List.nil_append] at later
            simp [lines, withoutReturn, isReturn, noFeed.symm, later]
      | cons d more =>
          have noEnd : d ≠ '\n' := by
            rintro rfl
            simp at wholeMore
          rw [withoutReturn_cons_cons, List.cons_append, lines.eq_4, later]
          · exact noFeed.symm
          · intro _ _ same
            exact noEnd (List.cons.inj same).1

/-- A line without an end is seen as it is, unless it is empty. -/
theorem lines_last {line : List Char} (whole : '\n' ∉ line)
    : lines line = if line = [] then [] else [line] := by
  induction line with
  | nil => rfl
  | cons c rest ih =>
      obtain ⟨noFeed, wholeRest⟩ : '\n' ≠ c ∧ '\n' ∉ rest := by simpa using whole
      rw [lines.eq_4 c rest noFeed.symm, ih wholeRest]
      · cases rest <;> simp
      · rintro more rfl rfl
        simp at wholeRest

/-- An ended line is seen as it is, or without a carriage return that belongs to its end. -/
theorem lines_ended {line ending : List Char} (whole : '\n' ∉ line) (ends : LineEnd ending)
    (rest : List Char)
    : ∃ seen, lines (line ++ ending ++ rest) = seen :: lines rest
        ∧ (seen = line ∨ line = seen ++ ['\r']) := by
  rcases ends with rfl | rfl
  · refine ⟨withoutReturn line, ?_, withoutReturn_cases line⟩
    simpa using lines_lineFeed whole rest
  · have wholeReturn : '\n' ∉ line ++ ['\r'] := by simpa using whole
    refine ⟨line, ?_, .inl rfl⟩
    have cut := lines_lineFeed wholeReturn rest
    rw [withoutReturn_append_return] at cut
    simpa using cut

end Text

-----------------------------------------------------------------------------------------
-- Documents that may be items of a list
-----------------------------------------------------------------------------------------

namespace Command

open ClonePlanner.Files (Storage)
open ClonePlanner.Json (Value)
open ClonePlanner.Json.Reader (ItemsFollow Reads maxDepth peak readChars)

/-- The text is one line and a document other than a list, so shallow that a list has room for
it.
-/
structure IsItem (text : String) (value : Value) : Prop where
  whole : '\n' ∉ text.toList
  read : Json.read text = .ok value
  single : ∀ items, value ≠ .array items
  shallow : peak .start text.toList < maxDepth

/-- The texts in brackets, with commas between them. -/
def bracketed (texts : List String) : String :=
  "[" ++ ",".intercalate texts ++ "]"

/-- The characters hold the texts on lines of their own, in order and with blank lines around
them. The last line need not be ended.
-/
inductive OnLines : List String → List Char → Prop where
  | blankLast {line : List Char} (blank : line.all Text.isBlank = true) (whole : '\n' ∉ line)
    : OnLines [] line
  | textLast (text : String) : OnLines [text] text.toList
  | blank {texts : List String} {line ending chars : List Char}
      (blank : line.all Text.isBlank = true) (whole : '\n' ∉ line)
      (ends : Text.LineEnd ending) (more : OnLines texts chars)
    : OnLines texts (line ++ ending ++ chars)
  | text (text : String) {texts : List String} {ending chars : List Char}
      (ends : Text.LineEnd ending) (more : OnLines texts chars)
    : OnLines (text :: texts) (text.toList ++ ending ++ chars)

section Items

variable {text : String} {value : Value} {texts : List String} {values : List Value}

namespace IsItem

theorem readChars (item : IsItem text value) : readChars text.toList = .ok value :=
  Json.read_eq_ok_iff.mp item.read

/-- As the only container around it, a list leaves room for the item. -/
theorem reads (item : IsItem text value) (done : List Value)
    : Reads [.array done] text.toList value :=
  Json.Reader.reads_of_readChars item.readChars item.shallow

/-- The item is also read from its line, which may lack a carriage return at the end. -/
theorem read_seen (item : IsItem text value) {seen : List Char}
    (cut : seen = text.toList ∨ text.toList = seen ++ ['\r'])
    : Json.Reader.readChars seen = .ok value := by
  rcases cut with rfl | ends
  · exact item.readChars
  · have read := item.readChars
    have shallow := Nat.le_of_lt item.shallow
    rw [ends] at read shallow
    exact Json.Reader.readChars_of_append_blank rfl read shallow

end IsItem

theorem single_of_items (items : List.Forall₂ IsItem texts values)
    : ∀ value ∈ values, ∀ items, value ≠ .array items := by
  induction items with
  | nil => simp
  | cons item _ ih => exact List.forall_mem_cons.mpr ⟨item.single, ih⟩

/-- Behind an item of a list, items with a comma before each are read as further items. -/
theorem itemsFollow_of_items (items : List.Forall₂ IsItem texts values)
    : ItemsFollow [] (texts.flatMap fun text => ',' :: text.toList) values := by
  induction items with
  | nil => exact Json.Reader.itemsFollow_nil
  | cons item _ ih =>
      rw [List.flatMap_cons]
      exact Json.Reader.itemsFollow_cons Json.Reader.blanks_nil item.reads ih

theorem bracketed_toList (first : String) (rest : List String)
    : (bracketed (first :: rest)).toList
      = '[' :: [] ++ first.toList ++ rest.flatMap (fun text => ',' :: text.toList) ++ []
        ++ [']'] := by
  have commas (first : String) : (",".intercalate (first :: rest)).toList
      = first.toList ++ rest.flatMap fun text => ',' :: text.toList := by
    induction rest generalizing first with
    | nil => simp
    | cons second rest ih => simp [String.intercalate_cons_cons, ih second]
  simp [bracketed, commas]

/-- Bracketed items are the list of what they are by themselves. -/
theorem read_bracketed (some : texts ≠ []) (items : List.Forall₂ IsItem texts values)
    : Json.read (bracketed texts) = .ok (.array values) := by
  cases items with
  | nil => exact (some rfl).elim
  | @cons first _ rest _ item more =>
      have noGap := Json.Reader.blanks_nil
      have whole := Json.Reader.reads_array (by decide) noGap noGap item.reads
        (itemsFollow_of_items more)
      apply Json.read_of_reads
      rw [bracketed_toList]
      exact whole

theorem holdsLines_document {line : List Char} {lines : List (List Char)} {document : Value}
    {documents : List Value} (read : Json.Reader.readChars line = .ok document)
    (holds : HoldsLines lines documents)
    : HoldsLines (line :: lines) (document :: documents) := by
  have visible := Json.Reader.not_blank_of_readChars read
  rw [← String.toList_ofList (l := line), ← Json.read_eq_ok_iff] at read
  exact (holdsLines_cons_visible visible).mpr ⟨document, documents, read, holds, rfl⟩

/-- The lines hold the documents of the texts on them, by induction over the lines. -/
theorem OnLines.holdsLines {chars : List Char} (onLines : OnLines texts chars)
    (items : List.Forall₂ IsItem texts values)
    : HoldsLines (Text.lines chars) values := by
  induction onLines generalizing values with
  | @blankLast line blank whole =>
      cases items
      rw [Text.lines_last whole]
      split
      · exact .nil
      · exact (holdsLines_cons_blank blank).mpr .nil
  | textLast text =>
      cases items with
      | cons item none =>
          cases none
          rw [Text.lines_last item.whole]
          split
          case isTrue empty =>
            have visible := Json.Reader.not_blank_of_readChars item.readChars
            simp [empty] at visible
          case isFalse => exact holdsLines_document item.readChars .nil
  | @blank _ line ending chars blank whole ends _ ih =>
      obtain ⟨seen, cut, same⟩ := Text.lines_ended whole ends chars
      have seenBlank : seen.all Text.isBlank = true := by
        rcases same with rfl | rfl
        · exact blank
        · simp only [List.all_append, Bool.and_eq_true] at blank
          exact blank.1
      rw [cut]
      exact (holdsLines_cons_blank seenBlank).mpr (ih items)
  | @text text _ ending chars ends _ ih =>
      cases items with
      | cons item more =>
          obtain ⟨seen, cut, same⟩ := Text.lines_ended item.whole ends chars
          rw [cut]
          exact holdsLines_document (item.read_seen same) (ih more)

end Items

/-- A list of documents that are no lists decodes as they do. -/
theorem declarations_array {documents : List Value} {found : List TypeDeclaration}
    (single : ∀ document ∈ documents, ∀ items, document ≠ .array items)
    : Decoding.declarations (.array documents) = .ok found ↔ Decodes documents found := by
  rw [Decoding.declarations, Decoding.items_eq_ok_iff, @Decoding.forall₂_single_iff "" _ single]
  simp only [Decodes, InTurn, Decoding.declarationsFrom, Decoding.withOrigin_eq_ok_iff]

-----------------------------------------------------------------------------------------
-- Files that inputs stand for
-----------------------------------------------------------------------------------------

namespace Invocation

/-- The inputs stand for one file each, with the texts in order, and the documents in them are
taken as they are.
-/
structure TakesFiles (invocation : Invocation) (services : Services) (storage : Storage)
    (ndjson : Bool) (texts : List String) : Prop where
  noPointer : invocation.pointer = none
  noFilter : invocation.filter = none
  ndjson : invocation.ndjson = ndjson
  files : List.Forall₂
    (fun input text =>
      ∃ path, InputGives services storage input [path] ∧ storage.readText path = .ok text)
    invocation.patterns texts

section TakesFiles

variable {services : Services} {engine : Filter.Engine} {invocation : Invocation}
  {storage : Storage} {ndjson : Bool} {texts : List String} {documents : List (List Value)}
  {found : List TypeDeclaration}

/-- Without a pointer and a filter a document is loaded as a whole. -/
theorem loadDocument_whole_eq_ok_iff (noPointer : invocation.pointer = none)
    (noFilter : invocation.filter = none) {origin : String} {document : Value}
    : invocation.loadDocument engine origin document = .ok found
      ↔ Decoding.declarations document = .ok found := by
  simp [loadDocument_eq_ok_iff, DocumentGives, noPointer, noFilter, PointsTo, Yields,
    decodes_singleton_iff]

theorem loadFile_whole_eq_ok_iff (noPointer : invocation.pointer = none)
    (noFilter : invocation.filter = none) {path text : String} {documents : List Value}
    (read : storage.readText path = .ok text)
    (holds : HoldsDocuments invocation.ndjson text documents)
    : invocation.loadFile engine storage path = .ok found ↔ Decodes documents found := by
  unfold loadFile
  rw [read]
  simp only [documents_eq_ok_iff.mpr holds, gather_eq_ok_iff,
    loadDocument_whole_eq_ok_iff noPointer noFilter, Decodes]

/-- Files with documents are loaded by decoding these in turn, by induction over the inputs. -/
theorem load_takesFiles (takes : invocation.TakesFiles services storage ndjson texts)
    (holds : List.Forall₂ (HoldsDocuments ndjson) texts documents)
    : invocation.load services storage = .ok found ↔ Decodes documents.flatten found := by
  obtain ⟨noPointer, noFilter, rfl, files⟩ := takes
  obtain ⟨paths, resolved, loaded⟩ : ∃ paths,
      gather (inputPaths services storage) invocation.patterns = .ok paths
      ∧ ∀ found, gather (invocation.loadFile services.filters storage) paths = .ok found
          ↔ Decodes documents.flatten found := by
    generalize invocation.patterns = patterns at files
    induction files generalizing documents with
    | nil =>
        cases holds
        exact ⟨[], rfl, fun found => by simp [gather, decodes_nil_iff, eq_comm]⟩
    | cons file _ ih =>
        obtain ⟨path, gives, read⟩ := file
        cases holds with
        | cons first more =>
            obtain ⟨paths, resolved, loaded⟩ := ih more
            refine ⟨path :: paths, ?_, fun found => ?_⟩
            · have own := inputPaths_eq_ok_iff.mpr gives
              exact gather_cons_eq_ok_iff.mpr ⟨_, _, own, resolved, rfl⟩
            · simp only [List.flatten_cons, gather_cons_eq_ok_iff, decodes_append_iff, loaded,
                loadFile_whole_eq_ok_iff noPointer noFilter read first]
  simp only [load_eq_ok_iff, resolved, Except.ok.injEq, exists_eq_left', loaded]

end TakesFiles

/-- It does not matter whether documents come as items of a list in a file, on the lines of a
file or in files of their own. If they decode, all three load with the declarations that they
decode to, and if they do not, none of the three loads.
-/
theorem load_packaging {texts : List String} {values : List Value} (some : texts ≠ [])
    (items : List.Forall₂ IsItem texts values) {lines : String}
    (onLines : OnLines texts lines.toList) {services : Services}
    {inList onLine apart : Invocation} {listStorage lineStorage storage : Storage}
    (takesList : inList.TakesFiles services listStorage false [bracketed texts])
    (takesLines : onLine.TakesFiles services lineStorage true [lines])
    (takesTexts : apart.TakesFiles services storage false texts)
    : (∃ declarations, Decodes values declarations
          ∧ inList.load services listStorage = .ok declarations
          ∧ onLine.load services lineStorage = .ok declarations
          ∧ apart.load services storage = .ok declarations)
      ∨ (¬ ∃ declarations, Decodes values declarations)
        ∧ ∃ listFault lineFault fault, inList.load services listStorage = .error listFault
          ∧ onLine.load services lineStorage = .error lineFault
          ∧ apart.load services storage = .error fault := by
  have listLoads (found : List TypeDeclaration)
      : inList.load services listStorage = .ok found ↔ Decodes values found := by
    have holds : HoldsDocuments false (bracketed texts) [.array values] :=
      ⟨_, read_bracketed some items, rfl⟩
    rw [load_takesFiles takesList (.cons holds .nil), List.flatten_singleton,
      decodes_singleton_iff, declarations_array (single_of_items items)]
  have linesLoad (found : List TypeDeclaration)
      : onLine.load services lineStorage = .ok found ↔ Decodes values found := by
    have holds : HoldsDocuments true lines values := onLines.holdsLines items
    rw [load_takesFiles takesLines (.cons holds .nil), List.flatten_singleton]
  have textsLoad (found : List TypeDeclaration)
      : apart.load services storage = .ok found ↔ Decodes values found := by
    have holds : List.Forall₂ (HoldsDocuments false) texts (values.map ([·])) :=
      List.forall₂_map_right_iff.mpr (items.imp fun _ value item => ⟨value, item.read, rfl⟩)
    rw [load_takesFiles takesTexts holds, ← List.flatMap_def, List.flatMap_singleton']
  by_cases decodes : ∃ declarations, Decodes values declarations
  · obtain ⟨declarations, decoded⟩ := decodes
    exact .inl ⟨declarations, decoded, (listLoads declarations).mpr decoded,
      (linesLoad declarations).mpr decoded, (textsLoad declarations).mpr decoded⟩
  · have fails {loaded : Loaded (List TypeDeclaration)}
        (loads : ∀ found, loaded = .ok found ↔ Decodes values found)
        : ∃ fault, loaded = .error fault := by
      cases same : loaded with
      | error fault => exact ⟨fault, rfl⟩
      | ok found => exact (decodes ⟨found, (loads found).mp same⟩).elim
    obtain ⟨listFault, listFails⟩ := fails listLoads
    obtain ⟨lineFault, linesFail⟩ := fails linesLoad
    obtain ⟨fault, textsFail⟩ := fails textsLoad
    exact .inr ⟨decodes, listFault, lineFault, fault, listFails, linesFail, textsFail⟩

def classA : String := "\x7b\"name\":\"A\"\x7d"

def classB : String := " \x7b\"name\":\"B\"\x7d\r"

/-- Two classes in a list, on lines with blank ones around, and in files of their own. -/
def twoClassStorage : Storage where
  root := .directory [
    ("list", .file (bracketed [classA, classB]).toUTF8),
    ("lines", .file (classA ++ "\r\n\t\n" ++ classB ++ "\n ").toUTF8),
    ("a", .file classA.toUTF8),
    ("b", .file classB.toUTF8)]
  base := []

def planOf (ndjson : Bool) (patterns : List String) : Invocation where
  task := .plan
  patterns := patterns
  ndjson := ndjson
  pointer := none
  filter := none
  options := {}
  compact := false
  out := none
  noOp := false

theorem twoClasses_load_packaging
    : ∃ declarations,
        Decodes [.object [("name", .string "A")], .object [("name", .string "B")]] declarations
        ∧ (planOf false ["list"]).load .builtIn twoClassStorage = .ok declarations
        ∧ (planOf true ["lines"]).load .builtIn twoClassStorage = .ok declarations
        ∧ (planOf false ["a", "b"]).load .builtIn twoClassStorage = .ok declarations := by
  have items : List.Forall₂ IsItem [classA, classB]
      [.object [("name", .string "A")], .object [("name", .string "B")]] :=
    .cons ⟨by decide, rfl, by simp, by decide⟩
      (.cons ⟨by decide, rfl, by simp, by decide⟩ .nil)
  have onLines : OnLines [classA, classB] (classA ++ "\r\n\t\n" ++ classB ++ "\n ").toList := by
    have last : OnLines [classB] (classB.toList ++ ['\n'] ++ [' ']) :=
      .text classB (.inl rfl) (.blankLast rfl (by decide))
    have between : OnLines [classB] (['\t'] ++ ['\n'] ++ (classB.toList ++ ['\n'] ++ [' '])) :=
      .blank rfl (by decide) (.inl rfl) last
    exact .text classA (.inr rfl) between
  have takesList : (planOf false ["list"]).TakesFiles .builtIn twoClassStorage false
      [bracketed [classA, classB]] :=
    ⟨rfl, rfl, rfl, .cons ⟨"list", .literal rfl, rfl⟩ .nil⟩
  have takesLines : (planOf true ["lines"]).TakesFiles .builtIn twoClassStorage true
      [classA ++ "\r\n\t\n" ++ classB ++ "\n "] :=
    ⟨rfl, rfl, rfl, .cons ⟨"lines", .literal rfl, rfl⟩ .nil⟩
  have takesTexts
      : (planOf false ["a", "b"]).TakesFiles .builtIn twoClassStorage false [classA, classB] :=
    ⟨rfl, rfl, rfl, .cons ⟨"a", .literal rfl, rfl⟩ (.cons ⟨"b", .literal rfl, rfl⟩ .nil)⟩
  have packaged := load_packaging (by simp) items onLines takesList takesLines takesTexts
  refine packaged.resolve_right ?_
  intro refused
  obtain ⟨_, _, _, _, fails, _⟩ := refused
  cases fails

end Invocation

end Command

end ClonePlanner
