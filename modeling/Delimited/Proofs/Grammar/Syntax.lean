import Delimited.Proofs.PhysicalLines

/-!
# The grammar of a document

What a text is made of, said without a scanner.

    document     = (comment | line break | logical line)*
    comment      = comment character, anything but a newline, then a newline or the end of the text
    line break   = newline | carriage return, newline
    logical line = field (delimiter field)* ending
    field        = plain | quote body quote plain | quote body (end of the text)
    body         = (anything but a quote | quote quote)*
    ending       = line break | comment | (end of the text)

Each rule is a type of trees. `chars` writes a tree out, and `Allowed` says which trees may stand in
front of which text: the rules look ahead, so a tree alone does not tell whether it is allowed.
`Document.lines` is what reading a document gives.
-/

namespace Delimited.Grammar

/-- The newline, alone or after a carriage return. -/
inductive LineBreak where
  | newline
  | returnNewline
  deriving DecidableEq, Repr

/-- A comment, from the comment character to the end of the physical line. -/
structure Remark where
  text : List Char
  /-- A newline ends the comment, not the end of the text. -/
  terminated : Bool
  deriving DecidableEq, Repr

/-- A part of what stands between quotes. -/
inductive BodyPart where
  /-- A character other than the quote. -/
  | single (char : Char)
  /-- Two quotes. -/
  | pair
  deriving DecidableEq, Repr

/-- A field as it is written. -/
inductive WrittenField where
  /-- Text that does not start with a quote. -/
  | plain (text : List Char)
  /-- Text between quotes, and plain text behind the closing quote. -/
  | quoted (body : List BodyPart) (tail : List Char)
  /-- A quote that the text ends before closing. -/
  | unclosed (body : List BodyPart)
  deriving DecidableEq, Repr

/-- What ends a logical line. -/
inductive Ending where
  | newline (lineBreak : LineBreak)
  | comment (remark : Remark)
  | endOfText
  deriving DecidableEq, Repr

/-- A logical line: fields, a delimiter between each two of them, and an ending. -/
inductive Line where
  | last (field : WrittenField) (ending : Ending)
  | more (field : WrittenField) (line : Line)
  deriving DecidableEq, Repr

/-- A part of a document. -/
inductive Item where
  | comment (remark : Remark)
  | empty (lineBreak : LineBreak)
  | logical (line : Line)
  deriving DecidableEq, Repr

/-- A document. -/
abbrev Document := List Item

/-- The characters of a line break. -/
def LineBreak.chars : LineBreak → List Char
  | .newline => ['\n']
  | .returnNewline => ['\r', '\n']

/-- The characters of a comment. -/
def Remark.chars (dialect : Dialect) (remark : Remark) : List Char :=
  dialect.comment :: (remark.text ++ if remark.terminated then ['\n'] else [])

/-- The characters of a part of a body. -/
def BodyPart.chars : BodyPart → List Char
  | .single char => [char]
  | .pair => [quote, quote]

/-- The characters of a field. -/
def WrittenField.chars : WrittenField → List Char
  | .plain text => text
  | .quoted body tail => quote :: (body.flatMap BodyPart.chars ++ quote :: tail)
  | .unclosed body => quote :: body.flatMap BodyPart.chars

/-- The characters of an ending. -/
def Ending.chars (dialect : Dialect) : Ending → List Char
  | .newline lineBreak => lineBreak.chars
  | .comment remark => remark.chars dialect
  | .endOfText => []

/-- The characters of a logical line. -/
def Line.chars (dialect : Dialect) : Line → List Char
  | .last field ending => field.chars ++ ending.chars dialect
  | .more field line => field.chars ++ dialect.delimiter :: line.chars dialect

/-- The characters of a part of a document. -/
def Item.chars (dialect : Dialect) : Item → List Char
  | .comment remark => remark.chars dialect
  | .empty lineBreak => lineBreak.chars
  | .logical line => line.chars dialect

/-- The characters of a document. -/
def Document.chars (dialect : Dialect) (document : Document) : List Char :=
  document.flatMap (Item.chars dialect)

@[simp] theorem Document.chars_nil (dialect : Dialect) :
    Document.chars dialect [] = [] := rfl

@[simp] theorem Document.chars_cons (dialect : Dialect) (item : Item) (items : Document) :
    Document.chars dialect (item :: items) = item.chars dialect ++ Document.chars dialect items :=
  rfl

/-- A comment runs over no newline, and only the end of the text ends it otherwise. -/
structure Remark.Allowed (remark : Remark) (rest : List Char) : Prop where
  text : '\n' ∉ remark.text
  unterminated : remark.terminated = false → rest = []

/-- Plain text in front of `rest`: neither delimiters, comment characters and newlines, nor a
carriage return with a newline directly behind it. -/
def PlainText (dialect : Dialect) : List Char → List Char → Prop
  | [], _ => True
  | char :: text, rest =>
      char ≠ dialect.delimiter ∧ char ≠ dialect.comment ∧ char ≠ '\n' ∧
        ¬ (char = '\r' ∧ (text ++ rest).head? = some '\n') ∧ PlainText dialect text rest

/-- A field may stand in front of `rest`. -/
def WrittenField.Allowed (dialect : Dialect) (rest : List Char) : WrittenField → Prop
  | .plain text => text.head? ≠ some quote ∧ PlainText dialect text rest
  | .quoted body tail =>
      BodyPart.single quote ∉ body ∧ (tail ++ rest).head? ≠ some quote ∧ PlainText dialect tail rest
  | .unclosed body => BodyPart.single quote ∉ body ∧ rest = []

/-- An ending may stand in front of `rest`. -/
def Ending.Allowed (rest : List Char) : Ending → Prop
  | .newline _ => True
  | .comment remark => remark.Allowed rest
  | .endOfText => rest = []

/-- A logical line may stand in front of `rest`, if it may stand behind what precedes it. -/
def Line.Allowed (dialect : Dialect) (rest : List Char) : Line → Prop
  | .last field ending =>
      field.Allowed dialect (ending.chars dialect ++ rest) ∧ ending.Allowed rest
  | .more field line =>
      field.Allowed dialect (dialect.delimiter :: (line.chars dialect ++ rest)) ∧
        line.Allowed dialect rest

/-- A text may start with a logical line: something is left, and it starts neither with a comment
nor with a line break. -/
structure StartsLogical (dialect : Dialect) (text : List Char) : Prop where
  nonempty : text ≠ []
  comment : text.head? ≠ some dialect.comment
  lineBreak : ∀ lineBreak : LineBreak, ¬ lineBreak.chars <+: text

/-- A part of a document may stand in front of `rest`. -/
def Item.Allowed (dialect : Dialect) (rest : List Char) : Item → Prop
  | .comment remark => remark.Allowed rest
  | .empty _ => True
  | .logical line =>
      line.Allowed dialect rest ∧ StartsLogical dialect (line.chars dialect ++ rest)

/-- Every part of a document may stand in front of those behind it. -/
def Document.Allowed (dialect : Dialect) : Document → Prop
  | [] => True
  | item :: items =>
      item.Allowed dialect (Document.chars dialect items) ∧ Document.Allowed dialect items

/-- The document is a derivation of the text. -/
structure Document.Derives (dialect : Dialect) (document : Document) (text : List Char) : Prop where
  chars : document.chars dialect = text
  allowed : document.Allowed dialect

/-- Whether a comment may stand in front of a text is found out by looking at both. -/
instance (remark : Remark) (rest : List Char) : Decidable (remark.Allowed rest) :=
  decidable_of_iff ('\n' ∉ remark.text ∧ (remark.terminated = false → rest = []))
    ⟨fun h ↦ ⟨h.1, h.2⟩, fun h ↦ ⟨h.1, h.2⟩⟩

/-- Whether plain text may stand in front of a text is found out character by character. -/
instance PlainText.decide (dialect : Dialect) :
    (text rest : List Char) → Decidable (PlainText dialect text rest)
  | [], _ => isTrue trivial
  | char :: text, rest =>
      have := PlainText.decide dialect text rest
      inferInstanceAs (Decidable (char ≠ dialect.delimiter ∧ char ≠ dialect.comment ∧
        char ≠ '\n' ∧ ¬ (char = '\r' ∧ (text ++ rest).head? = some '\n') ∧
        PlainText dialect text rest))

/-- Whether a field may stand in front of a text is found out by looking at both. -/
instance (dialect : Dialect) (rest : List Char) :
    (field : WrittenField) → Decidable (field.Allowed dialect rest)
  | .plain text =>
      inferInstanceAs (Decidable (text.head? ≠ some quote ∧ PlainText dialect text rest))
  | .quoted body tail =>
      inferInstanceAs (Decidable (BodyPart.single quote ∉ body ∧
        (tail ++ rest).head? ≠ some quote ∧ PlainText dialect tail rest))
  | .unclosed body => inferInstanceAs (Decidable (BodyPart.single quote ∉ body ∧ rest = []))

/-- Whether an ending may stand in front of a text is found out by looking at both. -/
instance (rest : List Char) : (ending : Ending) → Decidable (ending.Allowed rest)
  | .newline _ => isTrue trivial
  | .comment remark => inferInstanceAs (Decidable (remark.Allowed rest))
  | .endOfText => inferInstanceAs (Decidable (rest = []))

/-- Whether a logical line may stand in front of a text is found out field by field. -/
instance Line.Allowed.decide (dialect : Dialect) (rest : List Char) :
    (line : Line) → Decidable (line.Allowed dialect rest)
  | .last field ending =>
      inferInstanceAs (Decidable (field.Allowed dialect (ending.chars dialect ++ rest) ∧
        ending.Allowed rest))
  | .more field line =>
      have := Line.Allowed.decide dialect rest line
      inferInstanceAs (Decidable
        (field.Allowed dialect (dialect.delimiter :: (line.chars dialect ++ rest)) ∧
          line.Allowed dialect rest))

/-- Whether a text may start with a logical line is found out at its first two characters. -/
instance (dialect : Dialect) (text : List Char) : Decidable (StartsLogical dialect text) :=
  decidable_of_iff (text ≠ [] ∧ text.head? ≠ some dialect.comment ∧
      ¬ LineBreak.newline.chars <+: text ∧ ¬ LineBreak.returnNewline.chars <+: text)
    ⟨fun h ↦ ⟨h.1, h.2.1, fun
        | .newline => h.2.2.1
        | .returnNewline => h.2.2.2⟩,
      fun h ↦ ⟨h.nonempty, h.comment, h.lineBreak _, h.lineBreak _⟩⟩

/-- Whether a part of a document may stand in front of a text is found out by looking at both. -/
instance (dialect : Dialect) (rest : List Char) :
    (item : Item) → Decidable (item.Allowed dialect rest)
  | .comment remark => inferInstanceAs (Decidable (remark.Allowed rest))
  | .empty _ => isTrue trivial
  | .logical line =>
      inferInstanceAs (Decidable
        (line.Allowed dialect rest ∧ StartsLogical dialect (line.chars dialect ++ rest)))

/-- Whether the parts of a document may stand in this order is found out one after the other. -/
instance Document.Allowed.decide (dialect : Dialect) :
    (document : Document) → Decidable (document.Allowed dialect)
  | [] => isTrue trivial
  | item :: items =>
      have := Document.Allowed.decide dialect items
      inferInstanceAs (Decidable
        (item.Allowed dialect (Document.chars dialect items) ∧ Document.Allowed dialect items))

/-- Whether a document is a derivation of a text is found out by writing it out. -/
instance (dialect : Dialect) (document : Document) (text : List Char) :
    Decidable (document.Derives dialect text) :=
  decidable_of_iff (document.chars dialect = text ∧ document.Allowed dialect)
    ⟨fun h ↦ ⟨h.1, h.2⟩, fun h ↦ ⟨h.1, h.2⟩⟩

/-- The character that a part of a body stands for. -/
def BodyPart.decoded : BodyPart → Char
  | .single char => char
  | .pair => quote

/-- The field that a written field stands for. -/
def WrittenField.field : WrittenField → Field
  | .plain text => { text := String.ofList text, quoted := false }
  | .quoted body tail =>
      { text := String.ofList (body.map BodyPart.decoded ++ tail), quoted := true }
  | .unclosed body => { text := String.ofList (body.map BodyPart.decoded), quoted := true }

/-- The fields of a logical line. -/
def Line.fields : Line → List Field
  | .last field _ => [field.field]
  | .more field line => field.field :: line.fields

/-- What reading a part of a document reports: the fields of a logical line, or no fields for an
empty line unless those are passed over. -/
def Item.fields? (skipEmpty : Bool) : Item → Option (List Field)
  | .comment _ => none
  | .empty _ => if skipEmpty then none else some []
  | .logical line => some line.fields

/-- A line as reading reports it. -/
structure FoundLine where
  fields : List Field
  /-- The physical line on which it ends. -/
  line : Nat
  deriving DecidableEq, Repr

/-- The lines that reading a document gives, when it stands behind the text `before`. -/
def Document.lines (dialect : Dialect) (skipEmpty : Bool) (before : List Char) :
    Document → List FoundLine
  | [] => []
  | item :: items =>
      let upTo := before ++ item.chars dialect
      let found := (item.fields? skipEmpty).map fun fields ↦
        { fields, line := physicalLines upTo }
      found.toList ++ Document.lines dialect skipEmpty upTo items

end Delimited.Grammar
