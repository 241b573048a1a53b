import Delimited.Toml.Lexical
import Delimited.Toml.Moment
import Delimited.Toml.Number
import Delimited.Toml.Tree

/-!
# TOML documents

A document is a sequence of lines, each empty, a header or a key with its value. Once all lines are
read, every table that starts with `momentKey` is a moment and gives way to its text; what else it
holds does not count.
-/

namespace Delimited.Toml

/-- Read the items of an array behind its opening bracket, given how one value is read. The first
argument bounds the number of items. -/
def items? (value? : List Char → Option (Value × List Char)) :
    Nat → List Char → Option (List Value × List Char)
  | 0, _ => none
  | fuel + 1, chars =>
      match skipGap false chars with
      | ']' :: rest => some ([], rest)
      | chars =>
          match value? chars with
          | none => none
          | some (item, rest) =>
              match skipGap false rest with
              | ',' :: rest =>
                  (items? value? fuel rest).map fun (items, rest) ↦ (item :: items, rest)
              | ']' :: rest => some ([item], rest)
              | _ => none

/-- Read a key and the value behind its equals sign, given how a value is read. -/
def pair? (value? : List Char → Option (Value × List Char)) (chars : List Char) :
    Option ((List String × Value) × List Char) :=
  match key? maxDepth chars with
  | some (key, '=' :: rest) =>
      (value? (skipBlank rest)).map fun (value, rest) ↦ ((key, value), rest)
  | _ => none

/-- Read the entries of an inline table, given how one value is read. The first argument bounds the
number of entries. -/
def inlineEntries? (value? : List Char → Option (Value × List Char)) :
    Nat → Nodes → List Char → Option (Nodes × List Char)
  | 0, _, _ => none
  | fuel + 1, nodes, chars =>
      match pair? value? chars with
      | none => none
      | some ((key, value), rest) =>
          match setKey key value nodes with
          | none => none
          | some nodes =>
              match skipBlank rest with
              | ',' :: rest => inlineEntries? value? fuel nodes rest
              | '\x7d' :: rest => some (nodes, rest)
              | _ => none

/-- Read a value that holds no others. -/
def scalar? (chars : List Char) : Option (Value × List Char) :=
  match chars with
  | 't' :: 'r' :: 'u' :: 'e' :: rest => some (.bool true, rest)
  | 'f' :: 'a' :: 'l' :: 's' :: 'e' :: rest => some (.bool false, rest)
  | chars =>
      if chars.head? = some '"' || chars.head? = some '\'' then
        (string? chars).map fun (text, rest) ↦ (.string text, rest)
      else
        match moment? chars with
        | some (moment, rest) => some (.table [(momentKey, .string moment)], rest)
        | none => number? chars

/-- Read a value. The first argument bounds the nesting of arrays and inline tables. -/
def value? : Nat → List Char → Option (Value × List Char)
  | 0, chars =>
      if chars.head? = some '[' || chars.head? = some '\x7b' then none else scalar? chars
  | depth + 1, chars =>
      match chars with
      | '[' :: rest =>
          (items? (value? depth) (rest.length + 1) rest).map fun (items, rest) ↦
            (.array items, rest)
      | '\x7b' :: rest =>
          match skipBlank rest with
          | '\x7d' :: rest => some (.table [], rest)
          | rest =>
              (inlineEntries? (value? depth) (rest.length + 1) [] rest).map fun (nodes, rest) ↦
                (.table (entriesToValues nodes), rest)
      | chars => scalar? chars

/-- Read a header behind its opening brackets: the key, the closing brackets and the end of the
line. -/
def header? (closing : List Char) (chars : List Char) : Option (List String × List Char) :=
  match key? maxDepth chars with
  | none => none
  | some (key, rest) =>
      if closing.isPrefixOf rest then
        (lineEnd? (rest.drop closing.length)).map fun rest ↦ (key, rest)
      else none

/-- Read the lines of a document, given the last header and what has been defined. The first argument
bounds the number of lines. -/
def lines? : Nat → (header : List String) → Nodes → List Char → Option Nodes
  | 0, _, _, _ => none
  | fuel + 1, header, nodes, chars =>
      match lineEnd? chars with
      | some [] => some nodes
      | some rest => lines? fuel header nodes rest
      | none =>
          match skipBlank chars with
          | '[' :: '[' :: rest =>
              match header? [']', ']'] rest with
              | none => none
              | some (key, rest) =>
                  match addTable key nodes with
                  | none => none
                  | some nodes => lines? fuel key nodes rest
          | '[' :: rest =>
              match header? [']'] rest with
              | none => none
              | some (key, rest) =>
                  match openTable key nodes with
                  | none => none
                  | some nodes => lines? fuel key nodes rest
          | rest =>
              match pair? (value? maxDepth) rest with
              | none => none
              | some ((key, value), rest) =>
                  match setKeyIn header key value nodes with
                  | none => none
                  | some nodes =>
                      match lineEnd? rest with
                      | none => none
                      | some rest => lines? fuel header nodes rest

/-- The table starts with the key of a moment. -/
def startsMoment : Entries → Bool
  | [] => false
  | (key, _) :: _ => key == momentKey

/-- The text of the moment that a table stands for; it must be the text of one. -/
def moment : Entries → Option Value
  | (_, .string text) :: _ => (momentOfText? text).map .string
  | _ => none

mutual

/-- Put the texts of moments in place of their tables. -/
def withMoments? : Value → Option Value
  | .array items => (itemsWithMoments? items).map .array
  | .table entries =>
      if startsMoment entries then moment entries
      else (entriesWithMoments? entries).map .table
  | value => some value

/-- Put the texts of moments in place of their tables in items. -/
def itemsWithMoments? : List Value → Option (List Value)
  | [] => some []
  | item :: rest => do
      let item ← withMoments? item
      let rest ← itemsWithMoments? rest
      return item :: rest

/-- Put the texts of moments in place of their tables in entries. -/
def entriesWithMoments? : List (String × Value) → Option (List (String × Value))
  | [] => some []
  | (key, value) :: rest => do
      let value ← withMoments? value
      let rest ← entriesWithMoments? rest
      return (key, value) :: rest

end

/-- The value of a document that is given by its characters. A byte order mark in front is passed
over. -/
def parseChars? (chars : List Char) : Option Value :=
  let chars :=
    match chars with
    | '\ufeff' :: rest => rest
    | chars => chars
  match lines? (chars.length + 1) [] [] chars with
  | none => none
  | some nodes => withMoments? (.table (entriesToValues nodes))

/-- The value of a document, or nothing if the text is no document: a table, unless the document as a
whole is a moment. -/
def parse? (text : String) : Option Value :=
  parseChars? text.toList

end Delimited.Toml
