import Delimited.Number.Binary64

/-!
# Values of documents

The values that documents and configurations are made of.
-/

namespace Delimited

/-- A value of a document. -/
inductive Value where
  /-- No value. -/
  | null
  /-- A truth value. -/
  | bool (value : Bool)
  /-- A whole number. -/
  | integer (value : Int)
  /-- A floating point number. -/
  | float (value : Binary64)
  /-- A text. -/
  | string (value : String)
  /-- Values in order. -/
  | array (items : List Value)
  /-- Values under keys. -/
  | table (entries : List (String × Value))
  deriving Inhabited

/-- Entries of a table. -/
abbrev Entries := List (String × Value)

/-- The entries of a table, and nothing of anything else. -/
def Value.table? : Value → Option Entries
  | .table entries => some entries
  | _ => none

end Delimited
