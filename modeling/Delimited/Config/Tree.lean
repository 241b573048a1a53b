import Delimited.Assoc
import Delimited.Config.Path
import Delimited.Text.LowerCase
import Delimited.Value

/-!
# Trees of settings

Settings from several places merge into one tree. Each value remembers the file that it comes from, if
it comes from one. Setting a table merges it key by key into the table that is there; setting any
other value replaces what is there. A path that leads through something else than a table or array
replaces that by an empty one first. Keys do not distinguish the case of letters: values are put and
looked up under their lower case.
-/

namespace Delimited.Config

/-- Settings. -/
inductive Tree where
  /-- A value that holds no others. -/
  | leaf (value : Value) (origin : Option String)
  /-- Settings in order. -/
  | array (items : List Tree) (origin : Option String)
  /-- Settings under keys. -/
  | table (entries : List (String × Tree)) (origin : Option String)
  deriving Inhabited

namespace Tree

/-- No value. -/
def missing : Tree :=
  .leaf .null none

/-- The file that a value comes from. -/
def origin : Tree → Option String
  | leaf _ origin => origin
  | array _ origin => origin
  | table _ origin => origin

/-- A value as messages speak of it, without what it holds. -/
def shape : Tree → Value
  | leaf value _ => value
  | array _ _ => .array []
  | table _ _ => .table []

/-- The entries of a table, and none of anything else. -/
def entries : Tree → List (String × Tree)
  | table entries _ => entries
  | _ => []

/-- The items of an array, and none of anything else. -/
def items : Tree → List Tree
  | array items _ => items
  | _ => []

/-- The file that a table comes from; one that takes the place of another value comes from none. -/
def tableOrigin : Tree → Option String
  | table _ origin => origin
  | _ => none

/-- The file that an array comes from; one that takes the place of another value comes from none. -/
def arrayOrigin : Tree → Option String
  | array _ origin => origin
  | _ => none

mutual

/-- The settings of a value that comes from a file or from none. -/
def ofValue (origin : Option String) : Value → Tree
  | .array items => .array (ofItems origin items) origin
  | .table entries => .table (ofEntries origin entries) origin
  | value => .leaf value origin

/-- The settings of the items of an array. -/
def ofItems (origin : Option String) : List Value → List Tree
  | [] => []
  | item :: items => ofValue origin item :: ofItems origin items

/-- The settings of the entries of a table. -/
def ofEntries (origin : Option String) : List (String × Value) → List (String × Tree)
  | [] => []
  | (key, value) :: entries => (key, ofValue origin value) :: ofEntries origin entries

end

/-- The value under a key. -/
def get? (tree : Tree) (key : String) : Option Tree :=
  Assoc.get? key tree.entries

/-- The value under a name in the table of a section. -/
def at? (tree : Tree) (table name : String) : Option Tree :=
  (tree.get? table).bind (·.get? name)

/-- Put a value under a key of a tree, which becomes a table if it is none. -/
def setChild (tree : Tree) (key : String) (value : Tree) : Tree :=
  .table (Assoc.set key value tree.entries) tree.tableOrigin

mutual

/-- Set the value under a key: a table is merged, anything else replaces what is there. -/
def put (key : String) : (value : Tree) → (tree : Tree) → Tree
  | .table entries _, tree =>
      let key := Text.lowerCase key
      tree.setChild key (putAll entries ((tree.get? key).getD (.table [] none)))
  | value, tree => tree.setChild (Text.lowerCase key) value

/-- Set values under their keys, one after the other. -/
def putAll : List (String × Tree) → (tree : Tree) → Tree
  | [], tree => tree
  | (key, value) :: entries, tree => putAll entries (put key value tree)

end

/-- The position that an index means in an array of some length. -/
def position (index : Int) (length : Nat) : Nat :=
  if 0 ≤ index then index.toNat else length - index.natAbs

/-- Edit the item at an index of a tree, which becomes an array if it is none, and is filled up with
missing values to the position. -/
def editItem (tree : Tree) (index : Int) (edit : Tree → Tree) : Tree :=
  let position := position index tree.items.length
  let items := tree.items ++ List.replicate (position + 1 - tree.items.length) missing
  .array (items.modify position edit) tree.arrayOrigin

/-- Set the value at the end of steps down from a tree. -/
def setSteps (value : Tree) : List Step → Tree → Tree
  | [], _ => value
  | [.name name], tree => put name value tree
  | .name name :: steps, tree =>
      let key := Text.lowerCase name
      tree.setChild key (setSteps value steps ((tree.get? key).getD missing))
  | .index index :: steps, tree => editItem tree index (setSteps value steps)

/-- Set the value at the end of a path. -/
def setPath (tree : Tree) (path : Path) (value : Tree) : Tree :=
  setSteps value (.name path.first :: path.steps) tree

/-- Set a value under a key of a whole tree, which is a path if it has the form of one. -/
def setKey (tree : Tree) (key : String) (value : Tree) : Tree :=
  match Path.parse key with
  | .ok path => tree.setPath path value
  | .error _ => put key value tree

/-- Set values under keys of a whole tree, one after the other. -/
def setKeys (tree : Tree) (entries : List (String × Tree)) : Tree :=
  entries.foldl (fun tree (key, value) ↦ tree.setKey key value) tree

end Tree

end Delimited.Config
