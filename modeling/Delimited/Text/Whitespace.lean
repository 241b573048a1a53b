/-!
# White space

The characters with the Unicode property `White_Space`, and trimming by them. The class is wider
than the blanks of `Char.isWhitespace`: it also holds the vertical tab, the form feed, the next
line character, the no-break space and the spaces and separators of the general punctuation.
-/

namespace Delimited.Text

/-- The character has the Unicode property `White_Space`. -/
def isWhitespace (char : Char) : Bool :=
  let code := char.toNat
  (0x9 ≤ code && code ≤ 0xD) || code == 0x20 || code == 0x85 || code == 0xA0 ||
    code == 0x1680 || (0x2000 ≤ code && code ≤ 0x200A) || code == 0x2028 || code == 0x2029 ||
    code == 0x202F || code == 0x205F || code == 0x3000

/-- Drop the white space at both ends of a list of characters. -/
def trimChars (chars : List Char) : List Char :=
  ((chars.dropWhile isWhitespace).reverse.dropWhile isWhitespace).reverse

/-- Drop the white space at both ends of a text. -/
def trim (text : String) : String :=
  String.ofList (trimChars text.toList)

/-- Every blank of the core library is white space. -/
theorem isWhitespace_of_core {char : Char} (h : char.isWhitespace = true) :
    isWhitespace char = true := by
  simp only [Char.isWhitespace, Bool.or_eq_true, decide_eq_true_eq] at h
  rcases h with ((rfl | rfl) | rfl) | rfl <;> decide

/-- The characters of a trimmed text are the trimmed characters. -/
@[simp] theorem toList_trim (text : String) : (trim text).toList = trimChars text.toList := by
  simp [trim]

end Delimited.Text
