import Delimited.Text.Whitespace

/-!
# Fields and records

A field as it is met in a line remembers whether it opened with a quote, because white space is
only stripped off fields that did not. A record holds the texts of the fields of one logical line
and the number of the physical line on which it ends.
-/

namespace Delimited

/-- A field of a logical line. -/
@[ext]
structure Field where
  text : String := ""
  /-- The field opened with a quote. -/
  quoted : Bool := false
  deriving DecidableEq, Repr

namespace Field

/-- Add a character at the end of a field. -/
def push (field : Field) (char : Char) : Field :=
  { field with text := field.text.push char }

/-- The text of a field, stripped of white space if that is asked for and the field did not open with
a quote. -/
def token (field : Field) (trim : Bool) : String :=
  if trim && !field.quoted then Text.trim field.text else field.text

end Field

/-- One logical line. -/
structure Record where
  /-- The physical line on which the logical line ends, counted from one. -/
  line : Nat
  fields : List String
  deriving DecidableEq, Repr

namespace Record

/-- The number of fields. -/
def len (record : Record) : Nat :=
  record.fields.length

/-- The line had no fields. -/
def isEmpty (record : Record) : Bool :=
  record.fields.isEmpty

/-- The text of a field, if the record reaches that far. -/
def get? (record : Record) (index : Nat) : Option String :=
  record.fields[index]?

/-- A record is empty exactly if it has no field. -/
theorem isEmpty_iff_len {record : Record} : record.isEmpty = true ↔ record.len = 0 := by
  simp [isEmpty, len]

/-- A field is found exactly up to the number of fields. -/
theorem isSome_get?_iff {record : Record} {index : Nat} :
    (record.get? index).isSome = true ↔ index < record.len := by
  simp [get?, len]

end Record

end Delimited
