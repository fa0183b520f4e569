import ClonePlanner.Explanation
import ClonePlanner.Proofs.Planning.CollectedMembers
import ClonePlanner.Proofs.Planning.PlanCoverage
import ClonePlanner.Proofs.Reports.Legibility
import Mathlib.Data.List.Nodup

/-! The plain explanation loses nothing. It is read from the left: a type is named on a line of
its own, an outcome stands on a line that is indented by two, and a member on one that is
indented by four; each line is legible up to its end. So reports of declarations whose names are
words are equal if their explanations are.
-/

namespace ClonePlanner

namespace Explanation

/-- The text of pieces without terminal codes. -/
def plainText (pieces : List Piece) : List Char :=
  pieces.flatMap Piece.text

-----------------------------------------------------------------------------------------
-- Words, numbers and fixed texts
-----------------------------------------------------------------------------------------

theorem legible_element : Legible (fun _ => True) Anything fun element =>
    (elementText element).toList :=
  legible_of_apart (by decide)

theorem legible_strategy : Legible (fun _ => True) Anything fun strategy =>
    (strategyText strategy).toList :=
  legible_of_apart (by decide)

theorem legible_reason : Legible (fun _ => True) Anything fun reason =>
    (reasonText reason).toList :=
  legible_of_apart (by decide)

/-- Different texts for all values of a fixed choice tell these values from each other. -/
theorem injective_of_nodup {α : Type} [Named α] {text : α → String}
    (distinct : ((Named.all : List α).map text).Nodup)
    : Function.Injective text :=
  fun _ _ same => List.inj_on_of_nodup_map distinct (Named.complete _) (Named.complete _) same

theorem dictionaryTitle_injective : Function.Injective DictionaryVariant.title :=
  injective_of_nodup (by decide)

theorem collectionTitle_injective : Function.Injective CollectionVariant.title :=
  injective_of_nodup (by decide)

theorem isWord_dictionaryTitle (variant : DictionaryVariant) : IsWord variant.title := by
  cases variant <;> decide

theorem isWord_collectionTitle (variant : CollectionVariant) : IsWord variant.title := by
  cases variant <;> decide

/-- The digits of a number are a word. -/
theorem isWord_toString (number : Nat) : IsWord (toString number) := by
  intro c mem
  have digit : c.isDigit = true :=
    Nat.isDigit_of_mem_toDigits (b := 10) (n := number) (by decide) (by decide)
      (by simpa [Nat.repr] using mem)
  simp [isWordChar, Char.isAlphanum, digit]

theorem legible_rank : Legible (fun _ => True) EndsWord fun rank : UInt32 =>
    (toString rank.toNat).toList := by
  refine legible_word.of_injective ?_ fun rank => isWord_toString rank.toNat
  intro rank other same
  have digits : Nat.toDigits 10 rank.toNat = Nat.toDigits 10 other.toNat := by
    simpa using congrArg String.toList same
  have value := congrArg (fun digits => Nat.ofDigitChars 10 digits 0) digits
  exact UInt32.toNat_inj.mp (by simpa using value)

-----------------------------------------------------------------------------------------
-- Actions
-----------------------------------------------------------------------------------------

/-- What rebuilding a container of a family says of the container's parts. -/
def rebuildText (title parts : String) (element : ElementAction) : String :=
  "rebuild " ++ title ++ ", " ++ parts ++ " " ++ elementText element

theorem rebuildText_append_inj {title parts title' parts' : String}
    {element element' : ElementAction}
    (titles : IsWord title ∧ IsWord title') (words : IsWord parts ∧ IsWord parts')
    {rest others : List Char}
    (same : (rebuildText title parts element).toList ++ rest
      = (rebuildText title' parts' element').toList ++ others)
    : title = title' ∧ parts = parts' ∧ element = element' ∧ rest = others := by
  simp only [rebuildText, String.toList_append, List.append_assoc] at same
  obtain ⟨rfl, behindTitle⟩ := legible_word titles.1 titles.2 (endsWord_append (by decide) _)
    (endsWord_append (by decide) _) (List.append_cancel_left same)
  obtain ⟨rfl, behindParts⟩ := legible_word words.1 words.2 (endsWord_append (by decide) _)
    (endsWord_append (by decide) _) (List.append_cancel_left behindTitle)
  obtain ⟨rfl, behind⟩ := legible_element trivial trivial trivial trivial
    (List.append_cancel_left behindParts)
  exact ⟨rfl, rfl, rfl, behind⟩

theorem actionText_cloneDictionary (variant : DictionaryVariant) (value : ElementAction)
    : actionText (.cloneDictionary variant value) = rebuildText variant.title "values" value := by
  simp [actionText, rebuildText, ← String.toList_inj]

theorem actionText_cloneCollection (variant : CollectionVariant) (element : ElementAction)
    : actionText (.cloneCollection variant element)
      = rebuildText variant.title "elements" element := by
  simp [actionText, rebuildText, ← String.toList_inj]

/-- Actions of two kinds begin differently, by cases on both. Only the two that rebuild do not;
they differ in what they call the parts of the container.
-/
theorem legible_action : Legible (fun _ => True) Anything fun action =>
    (actionText action).toList := by
  have values : IsWord "values" := by decide
  have elements : IsWord "elements" := by decide
  intro action other _ _ rest others _ _ same
  dsimp only at same
  cases action with
  | copyScalar =>
      cases other with
      | copyScalar => exact ⟨rfl, List.append_cancel_left same⟩
      | _ => simp [actionText] at same
  | copyReference =>
      cases other with
      | copyReference => exact ⟨rfl, List.append_cancel_left same⟩
      | _ => simp [actionText] at same
  | recurseCloneable =>
      cases other with
      | recurseCloneable => exact ⟨rfl, List.append_cancel_left same⟩
      | _ => simp [actionText] at same
  | cloneArray rank element =>
      cases other with
      | cloneArray otherRank otherElement =>
          simp only [actionText, String.toList_append, List.append_assoc] at same
          obtain ⟨rfl, behindRank⟩ := legible_rank trivial trivial
            (endsWord_append (by decide) _) (endsWord_append (by decide) _)
            (List.append_cancel_left same)
          obtain ⟨rfl, behind⟩ := legible_element trivial trivial trivial trivial
            (List.append_cancel_left behindRank)
          exact ⟨rfl, behind⟩
      | _ => simp [actionText] at same
  | cloneDictionary variant value =>
      cases other with
      | cloneDictionary otherVariant otherValue =>
          rw [actionText_cloneDictionary, actionText_cloneDictionary] at same
          obtain ⟨titles, _, rfl, behind⟩ := rebuildText_append_inj
            ⟨isWord_dictionaryTitle _, isWord_dictionaryTitle _⟩ ⟨values, values⟩ same
          exact ⟨by rw [dictionaryTitle_injective titles], behind⟩
      | cloneCollection otherVariant otherElement =>
          rw [actionText_cloneDictionary, actionText_cloneCollection] at same
          obtain ⟨_, parts, _⟩ := rebuildText_append_inj
            ⟨isWord_dictionaryTitle _, isWord_collectionTitle _⟩ ⟨values, elements⟩ same
          exact absurd parts (by decide)
      | _ => simp [actionText] at same
  | cloneCollection variant element =>
      cases other with
      | cloneDictionary otherVariant otherValue =>
          rw [actionText_cloneDictionary, actionText_cloneCollection] at same
          obtain ⟨_, parts, _⟩ := rebuildText_append_inj
            ⟨isWord_collectionTitle _, isWord_dictionaryTitle _⟩ ⟨elements, values⟩ same
          exact absurd parts (by decide)
      | cloneCollection otherVariant otherElement =>
          rw [actionText_cloneCollection, actionText_cloneCollection] at same
          obtain ⟨titles, _, rfl, behind⟩ := rebuildText_append_inj
            ⟨isWord_collectionTitle _, isWord_collectionTitle _⟩ ⟨elements, elements⟩ same
          exact ⟨by rw [collectionTitle_injective titles], behind⟩
      | _ => simp [actionText] at same

-----------------------------------------------------------------------------------------
-- Member lines
-----------------------------------------------------------------------------------------

/-- Remarks are told from each other by how they go on, and from none by their bracket. -/
theorem remarkText_append_inj {entry other : PlanEntry} {rest others : List Char}
    (none : LacksFront " [" rest) (otherNone : LacksFront " [" others)
    (same : (remarkText entry).toList ++ rest = (remarkText other).toList ++ others)
    : entry.nullGuarded = other.nullGuarded ∧ entry.initOnly = other.initOnly
      ∧ rest = others := by
  obtain ⟨_, guarded, initOnly, _⟩ := entry
  obtain ⟨_, otherGuarded, otherInitOnly, _⟩ := other
  have otherNone (more : List Char) : " [".toList ++ more ≠ others := (otherNone more).symm
  cases guarded <;> cases initOnly <;> cases otherGuarded <;> cases otherInitOnly <;>
    simp_all [remarkText, remarks, LacksFront]

/-- The origin of an entry ends with its line, and is left out only if it is the type. -/
theorem originText_append_inj {typeName : String} {entry other : PlanEntry}
    {rest others : List Char} (word : IsWord entry.declaredIn) (otherWord : IsWord other.declaredIn)
    (same : (originText typeName entry).toList ++ '\n' :: rest
      = (originText typeName other).toList ++ '\n' :: others)
    : entry.declaredIn = other.declaredIn ∧ rest = others := by
  by_cases own : entry.declaredIn = typeName <;>
    by_cases otherOwn : other.declaredIn = typeName <;>
    simp only [originText, own, otherOwn, if_true, if_false] at same
  · exact ⟨own.trans otherOwn.symm, List.tail_eq_of_cons_eq same⟩
  · simp at same
  · simp at same
  · simp only [String.toList_append, List.append_assoc] at same
    obtain ⟨declared, same⟩ := legible_word word otherWord (endsWord_cons _ rfl)
      (endsWord_cons _ rfl) (List.append_cancel_left same)
    exact ⟨declared, List.tail_eq_of_cons_eq same⟩

/-- An origin, or the end of the line, is not taken for a remark. -/
theorem originText_lacksBracket (typeName : String) (entry : PlanEntry) (rest : List Char)
    : LacksFront " [" ((originText typeName entry).toList ++ '\n' :: rest) := by
  intro more same
  by_cases own : entry.declaredIn = typeName <;> simp [originText, own] at same

/-- A member and the type that declares it are named by words. -/
def NamedByWords (member : String × PlanEntry) : Prop :=
  IsWord member.1 ∧ IsWord member.2.declaredIn

theorem plainText_memberLine (typeName name : String) (entry : PlanEntry)
    : plainText (memberLine typeName name entry)
      = "    ".toList ++ (name.toList ++ (": ".toList ++ ((actionText entry.action).toList
        ++ ((remarkText entry).toList ++ ((originText typeName entry).toList ++ ['\n']))))) := by
  simp [plainText, memberLine, Piece.plain, Piece.toned]

/-- A member line is read part by part, each of which ends where the next one begins. -/
theorem legible_member (typeName : String)
    : Legible NamedByWords Anything fun member =>
        plainText (memberLine typeName member.1 member.2) := by
  rintro ⟨name, entry⟩ ⟨otherName, other⟩ words otherWords rest others _ _ same
  simp only [plainText_memberLine, List.append_assoc, List.cons_append, List.nil_append] at same
  obtain ⟨rfl, behindName⟩ := legible_word words.1 otherWords.1
    (endsWord_append (by decide) _) (endsWord_append (by decide) _)
    (List.append_cancel_left same)
  obtain ⟨action, behindAction⟩ := legible_action trivial trivial trivial trivial
    (List.append_cancel_left behindName)
  obtain ⟨guarded, initOnly, behindRemarks⟩ := remarkText_append_inj
    (originText_lacksBracket _ _ _) (originText_lacksBracket _ _ _) behindAction
  obtain ⟨declaredIn, behind⟩ := originText_append_inj words.2 otherWords.2 behindRemarks
  refine ⟨?_, behind⟩
  cases entry
  cases other
  simp_all

-----------------------------------------------------------------------------------------
-- Outcomes
-----------------------------------------------------------------------------------------

/-- The line that stands for members where there are none. -/
def noMembers : List Char := "    no members\n".toList

def membersText (typeName : String) (members : List (String × PlanEntry)) : List Char :=
  if members = [] then noMembers
  else members.flatMap fun member => plainText (memberLine typeName member.1 member.2)

theorem plainText_memberLines (plan : ClonePlan)
    : plainText (memberLines plan) = membersText plan.typeName plan.members.entries := by
  obtain ⟨typeName, _, _, entries, _⟩ := plan
  cases entries with
  | nil => rfl
  | cons first rest =>
      simp only [memberLines, membersText, plainText, ClonePlan.isEmpty, OrderedMap.isEmpty,
        List.isEmpty_cons, Bool.false_eq_true, if_false, List.flatMap_assoc, reduceCtorEq]

/-- Members do not begin with the line that stands for none, whatever the first one is named. -/
theorem membersText_ne_noMembers {typeName : String} {first : String × PlanEntry}
    (words : NamedByWords first) (more : List (String × PlanEntry)) (rest others : List Char)
    : membersText typeName (first :: more) ++ rest ≠ noMembers ++ others := by
  intro same
  have parts : noMembers = "    ".toList ++ ("no".toList ++ " members\n".toList) := rfl
  rw [membersText, if_neg (List.cons_ne_nil _ _), List.flatMap_cons, plainText_memberLine,
    parts] at same
  simp only [List.append_assoc] at same
  obtain ⟨_, behind⟩ := legible_word words.1 (by decide) (endsWord_append (by decide) _)
    (endsWord_append (by decide) _) (List.append_cancel_left same)
  simp at behind

/-- The members of a plan are legible up to a line that is not indented as theirs are. -/
theorem legible_members (typeName : String)
    : Legible (fun members => ∀ member ∈ members, NamedByWords member) (LacksFront "    ")
        (membersText typeName) := by
  have lines : Legible (fun members => ∀ member ∈ members, NamedByWords member)
      (LacksFront "    ")
      (List.flatMap fun member => plainText (memberLine typeName member.1 member.2)) :=
    (legible_member typeName).flatMap (fun _ _ _ => trivial) (fun _ _ => trivial)
      fun member rest _ lacks => lacks _ (by rw [plainText_memberLine, List.append_assoc])
  intro members others words otherWords rest otherRest ends otherEnds same
  cases members with
  | nil =>
      cases others with
      | nil => exact ⟨rfl, List.append_cancel_left same⟩
      | cons first more =>
          have named := otherWords first (List.mem_cons_self ..)
          exact (membersText_ne_noMembers named more _ _ same.symm).elim
  | cons first more =>
      cases others with
      | nil =>
          have named := words first (List.mem_cons_self ..)
          exact (membersText_ne_noMembers named more _ _ same).elim
      | cons other others => exact lines words otherWords ends otherEnds same

end Explanation

/-- The plan is for a capability of a type, and all names in it are words. -/
structure ClonePlan.PlainFor (plan : ClonePlan) (typeName : String) (capability : Capability)
    : Prop where
  typeName : plan.typeName = typeName
  capability : plan.capability = capability
  members : ∀ member ∈ plan.members.entries, Explanation.NamedByWords member

/-- The outcome is no plan, or one for a capability of a type with words for names. -/
def PlanOutcome.PlainFor (typeName : String) (capability : Capability) : PlanOutcome → Prop
  | .planned plan => plan.PlainFor typeName capability
  | .skipped _ => True

/-- The outcomes are for the type and its two capabilities, and all names in them are words. -/
structure PlanSet.Plain (set : PlanSet) : Prop where
  name : IsWord set.name
  deep : set.deep.PlainFor set.name .deep
  shallow : set.shallow.PlainFor set.name .shallow

namespace Explanation

theorem plainText_planned (label : String) (plan : ClonePlan)
    : plainText (outcomeLines label (.planned plan))
      = "  ".toList ++ (label.toList ++ (" (".toList ++ ((strategyText plan.strategy).toList
        ++ (")\n".toList ++ membersText plan.typeName plan.members.entries)))) := by
  rw [← plainText_memberLines]
  simp [plainText, outcomeLines, Piece.plain, Piece.toned]

theorem plainText_skipped (label : String) (reason : SkipReason)
    : plainText (outcomeLines label (.skipped reason))
      = "  ".toList ++ (label.toList ++ (" skipped: ".toList ++ ((reasonText reason).toList
        ++ ['\n']))) := by
  simp [plainText, outcomeLines, Piece.plain, Piece.toned]

/-- An outcome is a plan or a reason by what stands behind its label. The type and the capability
of a plan are not read off it: they are those of the place where it stands.
-/
theorem legible_outcome (typeName label : String) (capability : Capability)
    : Legible (PlanOutcome.PlainFor typeName capability) (LacksFront "    ") fun outcome =>
        plainText (outcomeLines label outcome) := by
  intro outcome other plain otherPlain rest others ends otherEnds same
  dsimp only at same
  cases outcome with
  | planned plan =>
      cases other with
      | planned otherPlan =>
          simp only [plainText_planned, List.append_assoc] at same
          obtain ⟨strategy, behindStrategy⟩ := legible_strategy trivial trivial trivial trivial
            (List.append_cancel_left (List.append_cancel_left (List.append_cancel_left same)))
          rw [plain.typeName, otherPlain.typeName] at behindStrategy
          obtain ⟨members, behind⟩ := legible_members typeName plain.members otherPlain.members
            ends otherEnds (List.append_cancel_left behindStrategy)
          refine ⟨congrArg PlanOutcome.planned ?_, behind⟩
          have names := plain.typeName.trans otherPlain.typeName.symm
          have capabilities := plain.capability.trans otherPlain.capability.symm
          have maps := OrderedMap.ext members
          cases plan
          cases otherPlan
          simp_all
      | skipped reason =>
          simp only [plainText_planned, plainText_skipped, List.append_assoc] at same
          have kinds := List.append_cancel_left (List.append_cancel_left same)
          simp at kinds
  | skipped reason =>
      cases other with
      | planned otherPlan =>
          simp only [plainText_planned, plainText_skipped, List.append_assoc] at same
          have kinds := List.append_cancel_left (List.append_cancel_left same)
          simp at kinds
      | skipped otherReason =>
          simp only [plainText_skipped, List.append_assoc] at same
          obtain ⟨rfl, behind⟩ := legible_reason trivial trivial trivial trivial
            (List.append_cancel_left (List.append_cancel_left (List.append_cancel_left same)))
          exact ⟨rfl, List.append_cancel_left behind⟩

-----------------------------------------------------------------------------------------
-- Types and reports
-----------------------------------------------------------------------------------------

theorem plainText_typeLines (set : PlanSet)
    : plainText (typeLines set)
      = set.name.toList ++ ('\n' :: (plainText (outcomeLines "deep" set.deep)
        ++ plainText (outcomeLines "shallow" set.shallow))) := by
  simp [plainText, typeLines, Piece.plain, Piece.toned]

/-- The outcome for shallow clones is not taken for one more member of the deep plan. -/
theorem shallowLines_lackIndent (outcome : PlanOutcome) (rest : List Char)
    : LacksFront "    " (plainText (outcomeLines "shallow" outcome) ++ rest) := by
  intro more same
  cases outcome with
  | planned plan => simp [plainText_planned] at same
  | skipped reason => simp [plainText_skipped] at same

/-- A type is named first, and its two outcomes are read for the type of that name. -/
theorem legible_type : Legible PlanSet.Plain (LacksFront "    ") fun set =>
    plainText (typeLines set) := by
  intro set other plain otherPlain rest others ends otherEnds same
  simp only [plainText_typeLines, List.append_assoc, List.cons_append] at same
  obtain ⟨names, behindName⟩ := legible_word plain.name otherPlain.name (endsWord_cons _ rfl)
    (endsWord_cons _ rfl) same
  have otherDeep := names ▸ otherPlain.deep
  have otherShallow := names ▸ otherPlain.shallow
  obtain ⟨deep, behindDeep⟩ := legible_outcome set.name "deep" .deep plain.deep otherDeep
    (shallowLines_lackIndent _ _) (shallowLines_lackIndent _ _)
    (List.tail_eq_of_cons_eq behindName)
  obtain ⟨shallow, behind⟩ := legible_outcome set.name "shallow" .shallow plain.shallow
    otherShallow ends otherEnds behindDeep
  refine ⟨?_, behind⟩
  cases set
  cases other
  simp_all

/-- A type is not taken for one more member, since no word begins with a blank. -/
theorem typeLines_lackIndent (set : PlanSet) (plain : set.Plain) (rest : List Char)
    : LacksFront "    " (plainText (typeLines set) ++ rest) := by
  intro more same
  rw [plainText_typeLines] at same
  cases name : set.name.toList with
  | nil => simp [name] at same
  | cons c chars =>
      have wordChar := plain.name c (by simp [name])
      simp only [name, String.reduceToList, List.cons_append, List.cons.injEq] at same
      rw [same.1] at wordChar
      exact absurd wordChar (by decide)

/-- A report is read type by type up to its end. -/
theorem legible_types
    : Legible (fun types => ∀ set ∈ types, PlanSet.Plain set) (· = [])
        (List.flatMap fun set => plainText (typeLines set)) := by
  refine legible_type.flatMap (fun set rest plain => typeLines_lackIndent set plain rest) ?_ ?_
  · rintro _ rfl more same
    simp at same
  · intro set rest plain last
    simp [plainText_typeLines] at last

end Explanation

-----------------------------------------------------------------------------------------
-- Reports of declarations
-----------------------------------------------------------------------------------------

/-- The type, its ancestors and the members of all levels are named by words. -/
structure TypeDeclaration.NamedByWords (declaration : TypeDeclaration) : Prop where
  name : IsWord declaration.name
  members : ∀ member ∈ declaration.members, IsWord member.name
  ancestors
    : ∀ ancestor ∈ declaration.ancestors,
        IsWord ancestor.name ∧ ∀ member ∈ ancestor.members, IsWord member.name

namespace TypeDeclaration

variable {declaration : TypeDeclaration} (words : declaration.NamedByWords)
include words

theorem NamedByWords.walk {declared : DeclaredMember} (mem : declared ∈ declaration.walk)
    : IsWord declared.name ∧ IsWord declared.declaredIn := by
  rcases List.mem_append.mp mem with own | inherited
  · obtain ⟨member, listed, rfl⟩ := List.mem_map.mp own
    exact ⟨words.members member listed, words.name⟩
  · obtain ⟨ancestor, above, inLevel⟩ := List.mem_flatMap.mp inherited
    obtain ⟨member, listed, rfl⟩ := List.mem_map.mp inLevel
    have named := words.ancestors ancestor above
    exact ⟨named.2 member listed, named.1⟩

theorem NamedByWords.outcome (capability : Capability) (options : PlannerOptions)
    : (declaration.outcome capability options).PlainFor declaration.name capability := by
  unfold TypeDeclaration.outcome
  cases declaration.skipReason? capability options with
  | some reason => trivial
  | none =>
      refine ⟨rfl, rfl, fun member mem => ?_⟩
      rw [plan_members_entries, collected_entries_eq_map] at mem
      simp only [Entries.mapValues, List.map_map, List.mem_map, Function.comp_apply] at mem
      obtain ⟨declared, collected, rfl⟩ := mem
      exact words.walk (declaration.collectedMembers_sublist_walk.subset collected)

theorem NamedByWords.planSet (options : PlannerOptions) : (declaration.planSet options).Plain :=
  ⟨words.name, words.outcome .deep options, words.outcome .shallow options⟩

end TypeDeclaration

namespace PlanReport

theorem explain_plain (report : PlanReport)
    : report.explain false
      = String.ofList (report.types.flatMap fun set =>
          Explanation.plainText (Explanation.typeLines set)) := by
  simp [explain, explanation, Explanation.plainText, List.flatMap_assoc]

/-- The plain explanation loses nothing. If the types, their ancestors and their members are
named by words, reports with the same plain text are the same report: of the same types in the
same order, with the same outcomes, and with plans that have the same strategy and the same
entries for the same members in the same order.
-/
theorem ofDeclarations_eq_of_explain_eq {declarations others : List TypeDeclaration}
    {options otherOptions : PlannerOptions}
    (words : ∀ declaration ∈ declarations, declaration.NamedByWords)
    (otherWords : ∀ declaration ∈ others, declaration.NamedByWords)
    (same : (ofDeclarations declarations options).explain false
      = (ofDeclarations others otherOptions).explain false)
    : ofDeclarations declarations options = ofDeclarations others otherOptions := by
  have plain {declarations : List TypeDeclaration} (options : PlannerOptions)
      (words : ∀ declaration ∈ declarations, declaration.NamedByWords)
      : ∀ set ∈ (ofDeclarations declarations options).types, set.Plain := by
    intro set mem
    obtain ⟨declaration, listed, rfl⟩ := List.mem_map.mp mem
    exact (words declaration listed).planSet options
  rw [explain_plain, explain_plain, String.ofList_inj] at same
  obtain ⟨types, _⟩ := Explanation.legible_types (plain options words)
    (plain otherOptions otherWords) rfl rfl (congrArg (· ++ []) same)
  exact congrArg PlanReport.mk types

/-- The class with other types for its numbers. -/
def widenedClass : TypeDeclaration :=
  { inheritingClass with
    members := [
      .initOnly "id" (.scalar "long"),
      .writable "grid" (.array (.scalar "long") 2),
      (MemberDescriptor.writable "secret" .string).hidden] }

/-- The types of the numbers are not explained, so they make no difference to the report. -/
theorem widenedClass_ofDeclarations_eq
    : (∀ declaration ∈ [inheritingClass], declaration.NamedByWords)
      ∧ (∀ declaration ∈ [widenedClass], declaration.NamedByWords)
      ∧ (ofDeclarations [inheritingClass] {}).explain false
        = (ofDeclarations [widenedClass] {}).explain false
      ∧ ofDeclarations [inheritingClass] {} = ofDeclarations [widenedClass] {} := by
  have words : ∀ declaration ∈ [inheritingClass], declaration.NamedByWords :=
    List.forall_mem_singleton.mpr ⟨by decide, by decide, by decide⟩
  have otherWords : ∀ declaration ∈ [widenedClass], declaration.NamedByWords :=
    List.forall_mem_singleton.mpr ⟨by decide, by decide, by decide⟩
  have same : (ofDeclarations [inheritingClass] {}).explain false
      = (ofDeclarations [widenedClass] {}).explain false := rfl
  exact ⟨words, otherWords, same, ofDeclarations_eq_of_explain_eq words otherWords same⟩

end PlanReport

end ClonePlanner
