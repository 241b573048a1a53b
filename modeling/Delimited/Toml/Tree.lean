import Delimited.Assoc
import Delimited.Value

/-!
# Tables under construction

A document sets keys one after the other, and its headers and dotted keys name tables that may not be
there yet. A table that is only named on the way to another one may still be defined by a header; a
table made by dotted keys may be extended by dotted keys only; everything else is defined once. A
header in double brackets adds a table to an array of tables, and a path that leads through such an
array goes on in its last table. Keys keep the order in which they come, where a table that is
defined by a header comes with that header.
-/

namespace Delimited.Toml

/-- How a table came to be. -/
inductive Making where
  /-- By a header of its own, or as the table of the document. -/
  | header
  /-- On the way to a table that has a header. -/
  | passing
  /-- By dotted keys. -/
  | dotted
  deriving DecidableEq, Repr

/-- A part of a document under construction. -/
inductive Node where
  /-- A value that is complete. -/
  | value (value : Value)
  /-- A table. -/
  | table (making : Making) (entries : List (String × Node))
  /-- Tables that were added one after the other. -/
  | tables (items : List (List (String × Node)))
  deriving Inhabited

/-- The entries of a table under construction. -/
abbrev Nodes := List (String × Node)

/-- Edit the table at the end of a path, making the tables on the way if they are missing. -/
def editAt (missing : Making) (edit : Making → Nodes → Option Nodes) :
    List String → Making → Nodes → Option Nodes
  | [], making, nodes => edit making nodes
  | key :: path, _, nodes =>
      match Assoc.get? key nodes with
      | none =>
          (editAt missing edit path missing []).map fun child ↦
            Assoc.set key (.table missing child) nodes
      | some (.value _) => none
      | some (.table making child) =>
          if missing = .dotted && making = .header then none
          else
            (editAt missing edit path making child).map fun child ↦
              Assoc.set key (.table making child) nodes
      | some (.tables items) =>
          match items.getLast? with
          | none => none
          | some last =>
              (editAt missing edit path .header last).map fun last ↦
                Assoc.set key (.tables (items.dropLast ++ [last])) nodes

/-- Set a key of a table to a value. A dotted key must end in a table made by dotted keys, and no key
is set twice. -/
def setKey (key : List String) (value : Value) (nodes : Nodes) : Option Nodes :=
  match key.getLast? with
  | none => none
  | some last =>
      let path := key.dropLast
      editAt .dotted (fun making nodes ↦
        if decide (making = .dotted) == path.isEmpty then none
        else if (Assoc.get? last nodes).isSome then none
        else some (Assoc.set last (.value value) nodes)) path .header nodes

/-- Define the table of a header. -/
def openTable (key : List String) (nodes : Nodes) : Option Nodes :=
  match key.getLast? with
  | none => none
  | some last =>
      editAt .passing (fun _ nodes ↦
        match Assoc.get? last nodes with
        | none => some (Assoc.set last (.table .header []) nodes)
        | some (.table .passing child) =>
            some (Assoc.set last (.table .header child) (Assoc.erase last nodes))
        | some _ => none) key.dropLast .header nodes

/-- Add a table to the array of tables of a header in double brackets. -/
def addTable (key : List String) (nodes : Nodes) : Option Nodes :=
  match key.getLast? with
  | none => none
  | some last =>
      editAt .passing (fun _ nodes ↦
        match Assoc.get? last nodes with
        | none => some (Assoc.set last (.tables [[]]) nodes)
        | some (.tables items) => some (Assoc.set last (.tables (items ++ [[]])) nodes)
        | some _ => none) key.dropLast .header nodes

/-- Set a key of the table that the last header has opened. -/
def setKeyIn (header key : List String) (value : Value) (nodes : Nodes) : Option Nodes :=
  editAt .passing (fun _ nodes ↦ setKey key value nodes) header .header nodes

mutual

/-- A finished part of a document. -/
def Node.toValue : Node → Value
  | .value value => value
  | .table _ entries => .table (entriesToValues entries)
  | .tables items => .array (tablesToValues items)

/-- The finished entries of a table. -/
def entriesToValues : List (String × Node) → List (String × Value)
  | [] => []
  | (key, node) :: rest => (key, node.toValue) :: entriesToValues rest

/-- The finished tables of an array. -/
def tablesToValues : List (List (String × Node)) → List Value
  | [] => []
  | entries :: rest => .table (entriesToValues entries) :: tablesToValues rest

end

end Delimited.Toml
