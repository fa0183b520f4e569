import ClonePlanner.Files.Storage

/-! A file that was written reads back. Writing it leaves every directory where it was, with all
of its names, so the steps that led to the place of the file still lead there.
-/

namespace ClonePlanner.Files

-----------------------------------------------------------------------------------------
-- Writing a node into a tree
-----------------------------------------------------------------------------------------

namespace Node

/-- A written entry is found by its name, and the others are found as before. -/
theorem child?_putEntry (name other : String) (node : Node) (below : List (String × Node))
    : child? other (putEntry name node below)
      = if other = name then some node else child? other below := by
  induction below with
  | nil =>
      by_cases same : other = name
      · simp [putEntry, child?, same]
      · simp [putEntry, child?, same, Ne.symm same]
  | cons entry rest ih =>
      obtain ⟨key, old⟩ := entry
      by_cases written : key = name
      · subst key
        by_cases same : other = name
        · simp [putEntry, child?, same]
        · simp [putEntry, child?, same, Ne.symm same]
      · by_cases same : other = name
        · subst other
          by_cases before : name < key <;> simp [putEntry, child?, written, before, ih]
        · by_cases before : name < key <;>
            simp [putEntry, child?, written, same, Ne.symm same, before, ih]

/-- What a step finds depends on whether it is the one that the written location begins with. -/
theorem find?_put_cons (tree : Node) (name step : String) (rest others : Location) (node : Node)
    : (tree.put (name :: rest) node).find? (step :: others)
      = if step = name then
          (((child? name tree.entries).getD emptyDirectory).put rest node).find? others
        else
          (child? step tree.entries).bind (find? others) := by
  rw [put, find?, entries, child?_putEntry]
  by_cases same : step = name <;> simp [same]

/-- A written node is found at its location, by induction over the location. -/
theorem find?_put (tree : Node) (location : Location) (node : Node)
    : (tree.put location node).find? location = some node := by
  induction location generalizing tree with
  | nil => rfl
  | cons name rest ih => rw [find?_put_cons, if_pos rfl, ih]

/-- A location is followed in two parts, one from the end of the other. -/
theorem find?_append (tree : Node) (first second : Location)
    : tree.find? (first ++ second) = (tree.find? first).bind (find? second) := by
  induction first generalizing tree with
  | nil => rfl
  | cons name rest ih =>
      rw [List.cons_append, find?, find?]
      cases child? name tree.entries with
      | none => rfl
      | some child => exact ih child

/-- Every name of the one directory is a name of the other. -/
def KeepsNames (before after : List (String × Node)) : Prop :=
  ∀ name, (child? name before).isSome → (child? name after).isSome

/-- A node that replaces no directory leaves all directories in place with their names, by
induction over its location.
-/
theorem find?_put_directory {tree : Node} {location other : Location}
    {below : List (String × Node)} (node : Node)
    (free : ∀ replaced, tree.find? location ≠ some (.directory replaced))
    (found : tree.find? other = some (.directory below))
    : ∃ kept, (tree.put location node).find? other = some (.directory kept)
        ∧ KeepsNames below kept := by
  induction location generalizing tree other with
  | nil =>
      cases tree with
      | directory replaced => exact absurd rfl (free replaced)
      | file contents => cases other <;> cases found
  | cons name rest ih =>
      cases other with
      | nil =>
          cases found
          refine ⟨_, rfl, ?_⟩
          intro key known
          rw [child?_putEntry]
          by_cases same : key = name
          · simp [same]
          · rwa [if_neg same]
      | cons first others =>
          rw [find?] at found
          rw [find?_put_cons]
          by_cases same : first = name
          · subst first
            cases present : child? name tree.entries with
            | none =>
                rw [present] at found
                cases found
            | some child =>
                rw [present, Option.bind_some] at found
                have inner (replaced : List (String × Node))
                    : child.find? rest ≠ some (.directory replaced) := by
                  have outer := free replaced
                  rwa [find?, present, Option.bind_some] at outer
                rw [if_pos rfl, Option.getD_some]
                exact ih inner found
          · rw [if_neg same]
            exact ⟨below, found, fun _ known => known⟩

end Node

-----------------------------------------------------------------------------------------
-- Following steps in a storage with more in it
-----------------------------------------------------------------------------------------

namespace Storage

/-- All directories of the one storage are in the other with their names. -/
structure KeepsDirectories (before after : Storage) : Prop where
  base : after.base = before.base
  directory : ∀ {location below}, before.node? location = some (.directory below) →
    ∃ kept, after.node? location = some (.directory kept) ∧ Node.KeepsNames below kept

section KeepsDirectories

variable {before after : Storage} (keeps : before.KeepsDirectories after)
include keeps

/-- A step that leads somewhere still leads there. -/
theorem KeepsDirectories.enter {location next : Location} {step : String}
    (entered : before.enter location step = .ok next)
    : after.enter location step = .ok next := by
  unfold Storage.enter at entered ⊢
  split at entered
  case h_1 => cases entered
  case h_2 => cases entered
  case h_3 below found =>
    obtain ⟨kept, stays, names⟩ := keeps.directory found
    rw [stays]
    dsimp only
    split at entered
    case isTrue here => rwa [if_pos here]
    case isFalse moves =>
      rw [if_neg moves]
      split at entered
      case isTrue up => rwa [if_pos up]
      case isFalse named =>
        rw [if_neg named]
        split at entered
        case isTrue => cases entered
        case isFalse short =>
          rw [if_neg short]
          split at entered
          case h_1 known =>
            obtain ⟨child, there⟩ := Option.isSome_iff_exists.mp (names step (by simp [known]))
            rw [there]
            exact entered
          case h_2 => cases entered

/-- Steps that lead somewhere still lead there, by induction over them. -/
theorem KeepsDirectories.follow {location next : Location} {steps : List String}
    (followed : before.follow location steps = .ok next)
    : after.follow location steps = .ok next := by
  induction steps generalizing location with
  | nil => exact followed
  | cons step rest ih =>
      unfold Storage.follow at followed ⊢
      cases entered : before.enter location step with
      | error refusal =>
          rw [entered] at followed
          cases followed
      | ok there =>
          rw [entered] at followed
          rw [keeps.enter entered]
          exact ih followed

end KeepsDirectories

theorem follow_append (storage : Storage) (location : Location) (steps more : List String)
    : storage.follow location (steps ++ more)
      = (storage.follow location steps).bind fun next => storage.follow next more := by
  induction steps generalizing location with
  | nil => rfl
  | cons step rest ih =>
      rw [List.cons_append, follow, follow]
      cases storage.enter location step with
      | error refusal => rfl
      | ok next => exact ih next

section Directory

variable {storage : Storage} {location : Location} {below : List (String × Node)}
  {step : String}

/-- In a directory a name leads to the entry with that name, if it is not too long to be one. -/
theorem enter_name (directory : storage.node? location = some (.directory below))
    (named : isName step = true)
    : storage.enter location step
      = if 255 < step.utf8ByteSize then .error .nameTooLong
        else if (Node.child? step below).isSome then .ok (location ++ [step])
        else .error .notFound := by
  have names : step ≠ "." ∧ step ≠ ".." := by simpa [isName] using named
  unfold enter
  rw [directory]
  simp only [names.1, names.2, if_false]
  cases Node.child? step below <;> rfl

end Directory

-----------------------------------------------------------------------------------------
-- Writing a file and reading it
-----------------------------------------------------------------------------------------

/-- The storage with a file at a location. -/
def withFile (storage : Storage) (location : Location) (contents : ByteArray) : Storage :=
  { storage with root := storage.root.put location (.file contents) }

theorem keepsDirectories_withFile {storage : Storage} {location : Location}
    (contents : ByteArray) (free : storage.isDirectoryAt location = false)
    : storage.KeepsDirectories (storage.withFile location contents) where
  base := rfl
  directory := by
    intro other below found
    refine Node.find?_put_directory (.file contents) ?_ found
    intro replaced present
    have there : storage.node? location = some (.directory replaced) := present
    simp [isDirectoryAt, there, Node.isDirectory] at free

/-- The last step of a path is taken from a directory that the steps before it lead to. -/
theorem locateLast_eq_ok {storage : Storage} {path : String} {location : Location}
    {step : String} (located : storage.locateLast path = .ok (location, step))
    : checkPath path = .ok ()
      ∧ storage.follow (storage.start path) (PathText.steps path).dropLast = .ok location
      ∧ storage.isDirectoryAt location = true
      ∧ step = (PathText.steps path).getLast?.getD "." := by
  unfold locateLast at located
  split at located
  case h_1 => cases located
  case h_2 fine =>
    dsimp only at located
    split at located
    case h_1 => cases located
    case h_2 there followed =>
      split at located
      case isTrue directory =>
        cases located
        exact ⟨fine, followed, directory, rfl⟩
      case isFalse => cases located

theorem directory_of_isDirectoryAt {storage : Storage} {location : Location}
    (directory : storage.isDirectoryAt location = true)
    : ∃ below, storage.node? location = some (.directory below) := by
  unfold isDirectoryAt at directory
  split at directory
  case h_1 node found =>
    cases node with
    | directory below => exact ⟨below, found⟩
    | file contents => cases directory
  case h_2 => cases directory

/-- What writing a file does where it succeeds: the path ends in a name, in a directory that is
there, and the file comes to stand under that name, where no directory stands.
-/
structure WritesAt (storage : Storage) (path : String) (contents : ByteArray)
    (location : Location) (step : String) (written : Storage) : Prop where
  located : storage.locateLast path = .ok (location, step)
  named : isName step = true
  plain : PathText.endsWithSlash path = false
  short : ¬ 255 < step.utf8ByteSize
  free : storage.isDirectoryAt (location ++ [step]) = false
  put : written = storage.withFile (location ++ [step]) contents

/-- Below a directory its entries are found by their names. -/
theorem node?_entry {storage : Storage} {location : Location} {below : List (String × Node)}
    (directory : storage.node? location = some (.directory below)) (step : String)
    : storage.node? (location ++ [step]) = Node.child? step below := by
  unfold node? at directory ⊢
  rw [Node.find?_append, directory, Option.bind_some, Node.find?, Node.entries]
  cases Node.child? step below <;> rfl

theorem writesAt_of_writeFile {storage written : Storage} {path : String}
    {contents : ByteArray} (wrote : storage.writeFile path contents = .ok written)
    : ∃ location step, storage.WritesAt path contents location step written := by
  unfold writeFile at wrote
  split at wrote
  case h_1 => cases wrote
  case h_2 location step located =>
    split at wrote
    case isTrue => cases wrote
    case isFalse fine =>
      simp only [Bool.not_eq_true, Bool.or_eq_false_iff, Bool.not_eq_false'] at fine
      obtain ⟨named, plain⟩ := fine
      obtain ⟨_, _, there, _⟩ := locateLast_eq_ok located
      obtain ⟨below, directory⟩ := directory_of_isDirectoryAt there
      have entry := node?_entry directory step
      rw [enter_name directory named] at wrote
      by_cases long : 255 < step.utf8ByteSize
      · rw [if_pos long] at wrote
        cases wrote
      · rw [if_neg long] at wrote
        cases present : Node.child? step below with
        | none =>
            rw [present] at wrote entry
            cases wrote
            have free : storage.isDirectoryAt (location ++ [step]) = false := by
              rw [isDirectoryAt, entry]
            exact ⟨location, step, located, named, plain, long, free, rfl⟩
        | some child =>
            rw [present, Option.isSome_some, if_pos rfl] at wrote
            dsimp only at wrote
            split at wrote
            case isTrue => cases wrote
            case isFalse free =>
              cases wrote
              exact ⟨location, step, located, named, plain, long, by simpa using free, rfl⟩

/-- A file that was written is read back by the path that it was written to. -/
theorem readBytes_of_writeFile {storage written : Storage} {path : String}
    {contents : ByteArray} (wrote : storage.writeFile path contents = .ok written)
    : written.readBytes path = .ok contents := by
  obtain ⟨location, step, located, named, plain, short, free, rfl⟩ :=
    writesAt_of_writeFile wrote
  obtain ⟨fine, followed, there, last⟩ := locateLast_eq_ok located
  have keeps := keepsDirectories_withFile contents free
  have found : (storage.withFile (location ++ [step]) contents).node? (location ++ [step])
      = some (.file contents) :=
    Node.find?_put storage.root (location ++ [step]) (.file contents)
  obtain ⟨below, directory⟩ := directory_of_isDirectoryAt there
  obtain ⟨kept, stays, _⟩ := keeps.directory directory
  have entered : (storage.withFile (location ++ [step]) contents).enter location step
      = .ok (location ++ [step]) := by
    have listed := (node?_entry stays step).symm.trans found
    rw [enter_name stays named, if_neg short, listed]
    rfl
  have steps : PathText.steps path = (PathText.steps path).dropLast ++ [step] := by
    cases ends : (PathText.steps path).getLast? with
    | none =>
        rw [last, ends] at named
        cases named
    | some final =>
        obtain ⟨before, whole⟩ := List.getLast?_eq_some_iff.mp ends
        rw [last, ends, whole, List.dropLast_concat, Option.getD_some]
  have path_followed
      : (storage.withFile (location ++ [step]) contents).follow
          ((storage.withFile (location ++ [step]) contents).start path) (PathText.steps path)
        = .ok (location ++ [step]) := by
    have start : (storage.withFile (location ++ [step]) contents).start path
        = storage.start path :=
      rfl
    rw [start, steps, follow_append, keeps.follow followed, Except.bind, follow, entered]
    rfl
  simp only [readBytes, locate, fine, path_followed, plain, Bool.false_and, Bool.false_eq_true,
    if_false, found]

/-- A text that was written is read back by the path that it was written to. -/
theorem readText_of_writeFile {storage written : Storage} {path text : String}
    (wrote : storage.writeFile path text.toUTF8 = .ok written)
    : written.readText path = .ok text := by
  have valid : text.toUTF8.IsValidUTF8 := text.isValidUTF8
  have decoded : String.fromUTF8? text.toUTF8 = some text := dif_pos valid
  simp only [readText, readBytes_of_writeFile wrote, decoded]

end Storage

end ClonePlanner.Files
