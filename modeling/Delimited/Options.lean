import Delimited.Text.Escaped

/-!
# Reader options

How lines are split into fields. Three characters have a fixed role: the quote, the newline and the
carriage return. The delimiter and the comment character must not be one of them and must differ
from each other; `Options.fault?` names the first rule that is broken.
-/

namespace Delimited

/-- The character that encloses a field. -/
def quote : Char := '"'

/-- The options of a reader. -/
structure Options where
  /-- Starts a comment, either a whole line or the rest of one. -/
  comment : Char := '#'
  /-- Stands between fields. -/
  delimiter : Char := ','
  /-- Pass over empty lines when records are read. -/
  skipEmpty : Bool := true
  /-- Strip white space around unquoted fields when records are read. -/
  trim : Bool := false
  deriving DecidableEq, Repr

/-- Why an option is refused. -/
inductive OptionFault where
  /-- The delimiter has a fixed role. -/
  | reservedDelimiter (char : Char)
  /-- The comment character has a fixed role. -/
  | reservedComment (char : Char)
  /-- The delimiter and the comment character are the same. -/
  | sameCharacter (char : Char)
  /-- No output format has this name. -/
  | unknownFormat (name : String)
  /-- Any other reason. -/
  | other (reason : String)
  deriving DecidableEq, Repr

/-- The text that reports a refused option. -/
def OptionFault.message : OptionFault → String
  | .reservedDelimiter char => "delimiter " ++ Text.shownChar char ++ " is reserved"
  | .reservedComment char => "comment character " ++ Text.shownChar char ++ " is reserved"
  | .sameCharacter char =>
      "comment character and delimiter are both " ++ Text.shownChar char
  | .unknownFormat name => "unknown output format '" ++ name ++ "'"
  | .other reason => reason

/-- The character has a fixed role. -/
def isReserved (char : Char) : Bool :=
  char == quote || char == '\n' || char == '\r'

/-- A character without a fixed role is none of the three that have one. -/
theorem isReserved_eq_false_iff {char : Char} :
    isReserved char = false ↔ char ≠ quote ∧ char ≠ '\n' ∧ char ≠ '\r' := by
  simp [isReserved, and_assoc]

namespace Options

/-- The first rule that the options break. -/
def fault? (options : Options) : Option OptionFault :=
  if isReserved options.delimiter then some (.reservedDelimiter options.delimiter)
  else if isReserved options.comment then some (.reservedComment options.comment)
  else if options.comment = options.delimiter then some (.sameCharacter options.delimiter)
  else none

/-- No rule is broken. -/
def Valid (options : Options) : Prop :=
  options.fault? = none

/-- Validity is found out by looking for a broken rule. -/
instance (options : Options) : Decidable options.Valid :=
  inferInstanceAs (Decidable (options.fault? = none))

/-- Options are valid when neither character has a fixed role and the two differ. -/
theorem valid_iff {options : Options} :
    options.Valid ↔
      isReserved options.delimiter = false ∧ isReserved options.comment = false ∧
        options.comment ≠ options.delimiter := by
  unfold Valid fault?
  split
  · simp_all
  · split
    · simp_all
    · split <;> simp_all

end Options

end Delimited
