import Delimited.Source.Basic

/-!
# Text in memory as a source

The unread characters of a text together with the number of bytes that the characters already taken
have in UTF-8, which is the position of the next character in the text.
-/

namespace Delimited

/-- A text that is read from memory. -/
structure TextSource where
  /-- The characters not yet taken. -/
  chars : List Char
  /-- The byte offset of the first of them in the whole text. -/
  position : Nat := 0

namespace TextSource

/-- Start at the beginning of a text. -/
def ofText (text : String) : TextSource :=
  { chars := text.toList }

/-- The text not yet taken. -/
def remaining (source : TextSource) : String :=
  String.ofList source.chars

/-- Take the first unread character. -/
def next (source : TextSource) : Pull TextSource :=
  match source.chars with
  | [] => { char := none, source }
  | char :: rest =>
      { char := some char, source := { chars := rest, position := source.position + char.utf8Size } }

/-- See the first unread character. -/
def peek (source : TextSource) : Pull TextSource :=
  { char := source.chars.head?, source }

/-- A text in memory is a source of its characters. -/
instance : CharSource TextSource where
  next := next
  peek := peek
  unread := chars
  char_next source := by cases h : source.chars <;> simp [next, h]
  unread_next source := by cases h : source.chars <;> simp [next, h]
  char_peek _ := rfl
  unread_peek _ := rfl

end TextSource

end Delimited
