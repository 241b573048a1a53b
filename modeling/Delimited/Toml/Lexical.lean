import Delimited.Json.Parser

/-!
# Words of TOML

White space, comments, line ends, strings and keys. Every reading function gets the characters that
are left and gives what it found with the characters behind it, or nothing where the text breaks
the rules.
-/

namespace Delimited.Toml

/-- The white space within a line. -/
def isBlank (char : Char) : Bool :=
  char == ' ' || char == '\t'

/-- The character may stand in a comment or between quotes: everything but the controls, the tab
excepted. -/
def isText (char : Char) : Bool :=
  char == '\t' || (0x20 ≤ char.toNat && char.toNat != 0x7F)

/-- Drop the white space within a line. -/
def skipBlank (chars : List Char) : List Char :=
  chars.dropWhile isBlank

/-- The text behind the line end that comes first. -/
def newline? : List Char → Option (List Char)
  | '\n' :: rest => some rest
  | '\r' :: '\n' :: rest => some rest
  | _ => none

/-- Drop a comment up to the end of its line. -/
def skipComment : List Char → List Char
  | '#' :: rest => rest.dropWhile isText
  | chars => chars

/-- The text behind the end of a line on which nothing is left but white space and a comment. -/
def lineEnd? (chars : List Char) : Option (List Char) :=
  match skipComment (skipBlank chars) with
  | [] => some []
  | rest => newline? rest

/-- Drop white space, line ends and comments; the flag tells whether a comment has been opened. -/
def skipGap : (inComment : Bool) → List Char → List Char
  | _, [] => []
  | _, '\n' :: rest => skipGap false rest
  | _, '\r' :: '\n' :: rest => skipGap false rest
  | true, char :: rest => if isText char then skipGap true rest else char :: rest
  | false, char :: rest =>
      if isBlank char then skipGap false rest
      else if char = '#' then skipGap true rest
      else char :: rest

/-! ## Strings -/

/-- The number that a run of hexadecimal digits stands for. -/
def hexRun? (digits : List Char) : Option Nat :=
  digits.foldl (fun value char ↦ do
    let value ← value
    let digit ← Json.hexValue? char
    return value * 16 + digit) (some 0)

/-- The character that an escape stands for, behind its backslash. -/
def escape? : List Char → Option (Char × List Char)
  | 'b' :: rest => some ('\x08', rest)
  | 't' :: rest => some ('\t', rest)
  | 'n' :: rest => some ('\n', rest)
  | 'f' :: rest => some ('\x0c', rest)
  | 'r' :: rest => some ('\r', rest)
  | '"' :: rest => some ('"', rest)
  | '\\' :: rest => some ('\\', rest)
  | 'u' :: rest => numbered 4 rest
  | 'U' :: rest => numbered 8 rest
  | _ => none
where
  /-- A character given by its number in a fixed number of hexadecimal digits. -/
  numbered (count : Nat) (chars : List Char) : Option (Char × List Char) :=
    let digits := chars.take count
    if digits.length = count then
      match (hexRun? digits).bind Json.charOf? with
      | some char => some (char, chars.drop count)
      | none => none
    else none

/-- Read a string between quotes behind the opening one; `read` holds the characters so far in reverse
order. The first argument bounds the number of steps; the length of the text is enough. -/
def basicString : Nat → (read : List Char) → List Char → Option (String × List Char)
  | 0, _, _ => none
  | fuel + 1, read, chars =>
      match chars with
      | [] => none
      | '"' :: rest => some (String.ofList read.reverse, rest)
      | '\\' :: rest =>
          match escape? rest with
          | some (char, rest) => basicString fuel (char :: read) rest
          | none => none
      | char :: rest => if isText char then basicString fuel (char :: read) rest else none

/-- Read a string between apostrophes behind the opening one. -/
def literalString (chars : List Char) : Option (String × List Char) :=
  let content := chars.takeWhile fun char ↦ isText char && char != '\''
  match chars.drop content.length with
  | '\'' :: rest => some (String.ofList content, rest)
  | _ => none

/-- The end of a string of several lines: three marks, with one or two more that belong to the text in
front of them. The result is the number of these. -/
def closing? (mark : Char) (chars : List Char) : Option (Nat × List Char) :=
  let marks := (chars.takeWhile (· == mark)).length
  if marks < 3 then none
  else
    let inside := min (marks - 3) 2
    some (inside, chars.drop (inside + 3))

/-- The text behind an escaped line end: white space up to the end of the line, and all white space
and line ends that follow. -/
def escapedLineEnd? (chars : List Char) : Option (List Char) :=
  (newline? (skipBlank chars)).map skipSpace
where
  /-- Drop white space and line ends. -/
  skipSpace : List Char → List Char
    | '\r' :: '\n' :: rest => skipSpace rest
    | char :: rest => if isBlank char || char == '\n' then skipSpace rest else char :: rest
    | [] => []

/-- Read a string of several lines behind its opening marks. A line end in it is a newline. Escapes are
only known between quotes. -/
def longString (mark : Char) : Nat → (read : List Char) → List Char → Option (String × List Char)
  | 0, _, _ => none
  | fuel + 1, read, chars =>
      match closing? mark chars with
      | some (inside, rest) =>
          some (String.ofList (read.reverse ++ List.replicate inside mark), rest)
      | none =>
          match newline? chars with
          | some rest => longString mark fuel ('\n' :: read) rest
          | none =>
              match chars with
              | [] => none
              | char :: rest =>
                  if char = '\\' && mark == '"' then
                    match escapedLineEnd? rest with
                    | some rest => longString mark fuel read rest
                    | none =>
                        match escape? rest with
                        | some (char, rest) => longString mark fuel (char :: read) rest
                        | none => none
                  else if isText char then longString mark fuel (char :: read) rest
                  else none

/-- Read a string of any kind. -/
def string? (chars : List Char) : Option (String × List Char) :=
  let fuel := chars.length + 1
  match chars with
  | '"' :: '"' :: '"' :: rest => longString '"' fuel [] ((newline? rest).getD rest)
  | '\'' :: '\'' :: '\'' :: rest => longString '\'' fuel [] ((newline? rest).getD rest)
  | '"' :: rest => basicString fuel [] rest
  | '\'' :: rest => literalString rest
  | _ => none

/-! ## Keys -/

/-- The character may stand in a key without quotes. -/
def isBare (char : Char) : Bool :=
  char.isAlphanum || char == '_' || char == '-'

/-- Read one part of a key. -/
def keyPart? (chars : List Char) : Option (String × List Char) :=
  match chars with
  | '"' :: rest => basicString (chars.length + 1) [] rest
  | '\'' :: rest => literalString rest
  | chars =>
      let bare := chars.takeWhile isBare
      if bare.isEmpty then none else some (String.ofList bare, chars.drop bare.length)

/-- The number of levels to which arrays and inline tables are nested, and of the parts of a key, at
most. -/
def maxDepth : Nat := 79

/-- Read a key: parts with dots between them and white space around those. The first argument bounds
the number of parts. -/
def key? : Nat → List Char → Option (List String × List Char)
  | 0, _ => none
  | count + 1, chars =>
      match keyPart? (skipBlank chars) with
      | none => none
      | some (part, rest) =>
          match skipBlank rest with
          | '.' :: rest => (key? count rest).map fun (parts, rest) ↦ (part :: parts, rest)
          | rest => some ([part], rest)

end Delimited.Toml
