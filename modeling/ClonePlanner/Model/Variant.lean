import ClonePlanner.Model.Named

/-!
The container families that a type can belong to, and how a container of each family is
rebuilt from its enumeration.
-/

namespace ClonePlanner

/-- A family of sequences and sets. -/
inductive CollectionVariant where
  | list
  | stack
  | queue
  | hashSet
  | sortedSet
  | observableCollection
  | readOnlyCollection
  | immutableList
  | immutableArray
  | immutableHashSet
  | immutableQueue
  | immutableStack
  /-- Any other sequence; it is rebuilt as a list. -/
  | other
deriving DecidableEq, Inhabited, Repr

namespace CollectionVariant

def name : CollectionVariant → String
  | .list => "list"
  | .stack => "stack"
  | .queue => "queue"
  | .hashSet => "hash_set"
  | .sortedSet => "sorted_set"
  | .observableCollection => "observable_collection"
  | .readOnlyCollection => "read_only_collection"
  | .immutableList => "immutable_list"
  | .immutableArray => "immutable_array"
  | .immutableHashSet => "immutable_hash_set"
  | .immutableQueue => "immutable_queue"
  | .immutableStack => "immutable_stack"
  | .other => "other"

def title : CollectionVariant → String
  | .list => "List"
  | .stack => "Stack"
  | .queue => "Queue"
  | .hashSet => "HashSet"
  | .sortedSet => "SortedSet"
  | .observableCollection => "ObservableCollection"
  | .readOnlyCollection => "ReadOnlyCollection"
  | .immutableList => "ImmutableList"
  | .immutableArray => "ImmutableArray"
  | .immutableHashSet => "ImmutableHashSet"
  | .immutableQueue => "ImmutableQueue"
  | .immutableStack => "ImmutableStack"
  | .other => "Other"

instance : Named CollectionVariant where
  all := [.list, .stack, .queue, .hashSet, .sortedSet, .observableCollection,
    .readOnlyCollection, .immutableList, .immutableArray, .immutableHashSet, .immutableQueue,
    .immutableStack, .other]
  name := name
  complete := by intro value; cases value <;> decide
  name_injective := by intro left right; cases left <;> cases right <;> decide

/-- Containers whose last element comes first enumerate against their order of insertion. -/
def enumeratesInReverse : CollectionVariant → Bool
  | .stack | .immutableStack => true
  | _ => false

/-- The order in which a rebuilt container receives the elements that were enumerated, so that
it enumerates them alike.
-/
def insertionOrder {α : Type} (variant : CollectionVariant) (enumerated : List α) : List α :=
  if variant.enumeratesInReverse then enumerated.reverse else enumerated

/-- The family that a container of this family is rebuilt in. -/
def rebuilt : CollectionVariant → CollectionVariant
  | .other => .list
  | variant => variant

end CollectionVariant

/-- A family of keyed containers. -/
inductive DictionaryVariant where
  | dictionary
  | immutableDictionary
  | readOnlyDictionary
  /-- Any other keyed container; it is rebuilt as a plain dictionary. -/
  | other
deriving DecidableEq, Inhabited, Repr

namespace DictionaryVariant

def name : DictionaryVariant → String
  | .dictionary => "dictionary"
  | .immutableDictionary => "immutable_dictionary"
  | .readOnlyDictionary => "read_only_dictionary"
  | .other => "other"

def title : DictionaryVariant → String
  | .dictionary => "Dictionary"
  | .immutableDictionary => "ImmutableDictionary"
  | .readOnlyDictionary => "ReadOnlyDictionary"
  | .other => "Other"

instance : Named DictionaryVariant where
  all := [.dictionary, .immutableDictionary, .readOnlyDictionary, .other]
  name := name
  complete := by intro value; cases value <;> decide
  name_injective := by intro left right; cases left <;> cases right <;> decide

/-- The family that a container of this family is rebuilt in. -/
def rebuilt : DictionaryVariant → DictionaryVariant
  | .other => .dictionary
  | variant => variant

end DictionaryVariant

end ClonePlanner
