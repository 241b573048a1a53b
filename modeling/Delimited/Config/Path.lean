import Delimited.Config.Error
import Delimited.Json.Parser

/-!
# Paths of keys

Where in a configuration a value is put: a name, followed by further names behind dots and by
positions in brackets. Names consist of letters, digits, spaces, underscores and hyphens. A path keeps
the case of their letters, so paths that lead to the same place may differ.
-/

namespace Delimited.Config

/-- One step down into a configuration. -/
inductive Step where
  /-- To the value under a name. -/
  | name (name : String)
  /-- To the value at a position; a negative one counts from the end. -/
  | index (index : Int)
  deriving DecidableEq, Repr

/-- A path from the root of a configuration. -/
structure Path where
  /-- The name under which the path starts. -/
  first : String
  /-- The steps from there. -/
  steps : List Step := []
  deriving DecidableEq, Repr

namespace Path

/-- The character may stand in a name. -/
def isNameChar (char : Char) : Bool :=
  char.isAlphanum || char == ' ' || char == '_' || char == '-'

/-- The character may stand around a position. -/
def isBlank (char : Char) : Bool :=
  char == ' ' || char == '\t'

/-- Read a name. -/
def parseName (chars : List Char) : Option (String × List Char) :=
  let name := chars.takeWhile isNameChar
  if name.isEmpty then none
  else some (String.ofList name, chars.drop name.length)

/-- The least number that no position reaches; its negative is one. -/
def indexBound : Nat := 0x8000000000000000

/-- Read a position behind its opening bracket. -/
def parseIndex (chars : List Char) : Except PathFault (Int × List Char) :=
  let chars := chars.dropWhile isBlank
  let (negative, chars) :=
    match chars with
    | '-' :: rest => (true, rest)
    | chars => (false, chars)
  let digits := chars.takeWhile Char.isDigit
  if digits.isEmpty then .error .noIndex
  else
    let value := Json.digitsValue digits
    if (if negative then indexBound < value else indexBound ≤ value) then .error .indexRange
    else
      match (chars.drop digits.length).dropWhile isBlank with
      | ']' :: rest => .ok (if negative then -(value : Int) else value, rest)
      | _ => .error .strayCharacter

/-- Read steps up to the end of the text. The first argument bounds their number; the length of the
text is enough. -/
def parseSteps : Nat → List Char → Except PathFault (List Step)
  | 0, _ => .ok []
  | fuel + 1, chars =>
      match chars with
      | [] => .ok []
      | '.' :: rest =>
          match parseName rest with
          | none => .error .strayCharacter
          | some (name, rest) => do
              let following ← parseSteps fuel rest
              return .name name :: following
      | '[' :: rest => do
          let (index, rest) ← parseIndex rest
          let following ← parseSteps fuel rest
          return .index index :: following
      | _ => .error .strayCharacter

/-- Read a path. -/
def parse (text : String) : Except PathFault Path :=
  match parseName text.toList with
  | none => .error .noName
  | some (first, rest) => do
      let steps ← parseSteps (rest.length + 1) rest
      return { first, steps }

end Path

end Delimited.Config
