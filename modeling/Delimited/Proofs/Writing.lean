import Delimited.Proofs.Grammar.Answers

/-!
# Reading undoes every way of writing

Records can be written in many ways: each field between quotes or raw, a comment behind the last one,
either line break, and comment lines and blank lines around them. Reading gives the records back,
whatever way was chosen: `records_eq_written`. What is written is a document of the grammar, whose
lines are the records.
-/

namespace Delimited.Written

open Grammar
open CharSource (unread)

/-- A field of a record and the way it is written. -/
inductive Cell where
  /-- Between quotes, with every quote doubled. -/
  | quoted (text : String)
  /-- As it stands. -/
  | raw (text : String)
  deriving DecidableEq, Repr

/-- A record and the way it is written. -/
structure Row where
  first : Cell
  others : List Cell
  /-- The text of a comment behind the last field. -/
  comment? : Option String
  /-- The line break, unless it is left out. -/
  lineBreak? : Option LineBreak
  deriving DecidableEq, Repr

/-- What a written document is made of. -/
inductive Part where
  /-- A comment line, with or without the newline. -/
  | comment (text : String) (terminated : Bool)
  | blank (lineBreak : LineBreak)
  | data (row : Row)
  deriving DecidableEq, Repr

/-- The characters that a field is written with. -/
def Cell.chars : Cell → List Char
  | .quoted text =>
      quote :: (text.toList.flatMap fun char ↦ if char = quote then [quote, quote] else [char]) ++
        [quote]
  | .raw text => text.toList

/-- The characters that a record is written with. -/
def Row.chars (dialect : Dialect) (row : Row) : List Char :=
  row.first.chars ++ (row.others.flatMap fun cell ↦ dialect.delimiter :: cell.chars) ++
    (row.comment?.elim [] fun text ↦ dialect.comment :: text.toList) ++
    row.lineBreak?.elim [] LineBreak.chars

/-- The characters of a part of a written document. -/
def Part.chars (dialect : Dialect) : Part → List Char
  | .comment text terminated =>
      dialect.comment :: text.toList ++ if terminated then ['\n'] else []
  | .blank lineBreak => lineBreak.chars
  | .data row => row.chars dialect

/-- A field can be written in this way: raw text has neither delimiters, comment characters and
newlines, nor a quote at its start. -/
def Cell.Allowed (dialect : Dialect) : Cell → Prop
  | .quoted _ => True
  | .raw text =>
      text.toList.head? ≠ some quote ∧
        ∀ char ∈ text.toList, char ≠ dialect.delimiter ∧ char ≠ dialect.comment ∧ char ≠ '\n'

/-- The field is raw and ends in a carriage return. -/
def Cell.endsInReturn : Cell → Bool
  | .quoted _ => false
  | .raw text => text.toList.getLast? = some '\r'

/-- The last field of a record. -/
def Row.last (row : Row) : Cell :=
  (row.first :: row.others).getLast (List.cons_ne_nil _ _)

/-- A record can be written in this way. -/
structure Row.Allowed (dialect : Dialect) (row : Row) : Prop where
  cells : ∀ cell ∈ row.first :: row.others, cell.Allowed dialect
  comment : ∀ text ∈ row.comment?, '\n' ∉ text.toList
  /-- One raw field without text would make a blank line or a comment line. -/
  nonempty : ¬ (row.first = .raw "" ∧ row.others = [])
  /-- A newline behind the carriage return would make a line break with it. -/
  lastReturn : row.last.endsInReturn = true → row.comment? = none → row.lineBreak? ≠ some .newline

/-- A part of a document can be written in this way. -/
def Part.Allowed (dialect : Dialect) : Part → Prop
  | .comment text _ => '\n' ∉ text.toList
  | .blank _ => True
  | .data row => row.Allowed dialect

/-- The part ends with a line break. -/
def Part.terminated : Part → Bool
  | .comment _ terminated => terminated
  | .blank _ => true
  | .data row => row.lineBreak?.isSome

/-- The characters of a written document. -/
def chars (dialect : Dialect) (parts : List Part) : List Char :=
  parts.flatMap (Part.chars dialect)

/-- A document can be written in this way: only its last part may lack its line break. -/
def Allowed (dialect : Dialect) : List Part → Prop
  | [] => True
  | part :: parts =>
      part.Allowed dialect ∧ (part.terminated = false → parts = []) ∧ Allowed dialect parts

/-- Whether a field can be written in this way is found out character by character. -/
instance (dialect : Dialect) : (cell : Cell) → Decidable (cell.Allowed dialect)
  | .quoted _ => isTrue trivial
  | .raw text =>
      have := List.decidableBAll
        (fun char ↦ char ≠ dialect.delimiter ∧ char ≠ dialect.comment ∧ char ≠ '\n') text.toList
      inferInstanceAs (Decidable (text.toList.head? ≠ some quote ∧ ∀ char ∈ text.toList,
        char ≠ dialect.delimiter ∧ char ≠ dialect.comment ∧ char ≠ '\n'))

/-- Whether a record can be written in this way is found out field by field. -/
instance (dialect : Dialect) (row : Row) : Decidable (row.Allowed dialect) :=
  decidable_of_iff ((∀ cell ∈ row.first :: row.others, cell.Allowed dialect) ∧
      (∀ text ∈ row.comment?, '\n' ∉ text.toList) ∧
      ¬ (row.first = .raw "" ∧ row.others = []) ∧
      (row.last.endsInReturn = true → row.comment? = none → row.lineBreak? ≠ some .newline))
    ⟨fun h ↦ ⟨h.1, h.2.1, h.2.2.1, h.2.2.2⟩, fun h ↦ ⟨h.1, h.2, h.3, h.4⟩⟩

/-- Whether a part of a document can be written in this way is found out by looking at it. -/
instance (dialect : Dialect) : (part : Part) → Decidable (part.Allowed dialect)
  | .comment text _ => inferInstanceAs (Decidable ('\n' ∉ text.toList))
  | .blank _ => isTrue trivial
  | .data row => inferInstanceAs (Decidable (row.Allowed dialect))

/-- Whether a document can be written in this way is found out part by part. -/
instance Allowed.decide (dialect : Dialect) :
    (parts : List Part) → Decidable (Allowed dialect parts)
  | [] => isTrue trivial
  | part :: parts =>
      have := Allowed.decide dialect parts
      inferInstanceAs (Decidable (part.Allowed dialect ∧ (part.terminated = false → parts = []) ∧
        Allowed dialect parts))

/-- The text that is read where a field is written: raw text is stripped of white space if that is
asked for. -/
def Cell.read (trim : Bool) : Cell → String
  | .quoted text => text
  | .raw text => if trim then Text.trim text else text

/-- The fields that are read where a part of a document is written. -/
def Part.read? (options : Options) : Part → Option (List String)
  | .comment _ _ => none
  | .blank _ => if options.skipEmpty then none else some []
  | .data row => some ((row.first :: row.others).map (Cell.read options.trim))

/-- The records that are read where a document is written behind the text `before`. -/
def records (options : Options) (before : List Char) : List Part → List Record
  | [] => []
  | part :: parts =>
      let upTo := before ++ part.chars options.dialect
      let record := (part.read? options).map fun fields ↦ { line := physicalLines upTo, fields }
      record.toList ++ records options upTo parts

/-! ## What is written as a document of the grammar -/

/-- A part of a body for a character. -/
def bodyPart (char : Char) : BodyPart :=
  if char = quote then .pair else .single char

/-- A field as a tree. -/
def Cell.tree : Cell → WrittenField
  | .quoted text => .quoted (text.toList.map bodyPart) []
  | .raw text => .plain text.toList

/-- What stands behind the last field of a record as a tree. -/
def ending : Option String → Option LineBreak → Ending
  | none, none => .endOfText
  | none, some lineBreak => .newline lineBreak
  | some text, none => .comment { text := text.toList, terminated := false }
  | some text, some .newline => .comment { text := text.toList, terminated := true }
  | some text, some .returnNewline =>
      -- the comment runs up to the newline, so the carriage return is part of it
      .comment { text := text.toList ++ ['\r'], terminated := true }

/-- Fields with an ending behind them as a tree. -/
def lineOf (ending : Ending) (first : Cell) : List Cell → Line
  | [] => .last first.tree ending
  | second :: others => .more first.tree (lineOf ending second others)

/-- A record as a tree. -/
def Row.tree (row : Row) : Line :=
  lineOf (ending row.comment? row.lineBreak?) row.first row.others

/-- A part of a written document as a tree. -/
def Part.tree : Part → Item
  | .comment text terminated => .comment { text := text.toList, terminated }
  | .blank lineBreak => .empty lineBreak
  | .data row => .logical row.tree

variable {dialect : Dialect} {rest : List Char}

/-- A character is written with the characters of its tree. -/
theorem bodyPart_chars (char : Char) :
    (bodyPart char).chars = if char = quote then [quote, quote] else [char] := by
  unfold bodyPart
  split <;> rfl

/-- A tree stands for the character that it is made of. -/
theorem bodyPart_decoded (char : Char) : (bodyPart char).decoded = char := by
  unfold bodyPart
  split
  · rename_i hquote
    exact hquote.symm
  · rfl

/-- No tree of a character is a single quote. -/
theorem bodyPart_ne_single_quote (char : Char) : bodyPart char ≠ .single quote := by
  unfold bodyPart
  split
  · simp
  · simpa using by assumption

/-- A field is written with the characters of its tree. -/
theorem Cell.tree_chars (cell : Cell) : cell.tree.chars = cell.chars := by
  cases cell with
  | quoted text =>
      simp only [tree, WrittenField.chars, chars, List.flatMap_map, bodyPart_chars,
        List.cons_append]
  | raw text => rfl

/-- What is read where a field is written is what its tree stands for. -/
theorem Cell.tree_token (cell : Cell) (trim : Bool) :
    cell.tree.field.token trim = cell.read trim := by
  cases cell with
  | quoted text =>
      simp [tree, WrittenField.field, Field.token, read, Function.comp_def, bodyPart_decoded]
  | raw text => simp [tree, WrittenField.field, Field.token, read]

/-- The characters behind the last field of a record. -/
theorem ending_chars (dialect : Dialect) (comment? : Option String)
    (lineBreak? : Option LineBreak) :
    (ending comment? lineBreak?).chars dialect =
      (comment?.elim [] fun text ↦ dialect.comment :: text.toList) ++
        lineBreak?.elim [] LineBreak.chars := by
  cases comment? with
  | none => cases lineBreak? <;> rfl
  | some text =>
      cases lineBreak? with
      | none => simp [ending, Ending.chars, Remark.chars]
      | some lineBreak =>
          cases lineBreak <;> simp [ending, Ending.chars, Remark.chars, LineBreak.chars]

/-- Fields are written with the characters of their tree. -/
theorem lineOf_chars (dialect : Dialect) (ending : Ending) (first : Cell) (others : List Cell) :
    (lineOf ending first others).chars dialect =
      first.chars ++ ((others.flatMap fun cell ↦ dialect.delimiter :: cell.chars) ++
        ending.chars dialect) := by
  induction others generalizing first with
  | nil => simp [lineOf, Line.chars, Cell.tree_chars]
  | cons second others ih => simp [lineOf, Line.chars, Cell.tree_chars, ih]

/-- A part of a document is written with the characters of its tree. -/
theorem Part.tree_chars (dialect : Dialect) (part : Part) :
    part.tree.chars dialect = part.chars dialect := by
  cases part with
  | comment text terminated => rfl
  | blank lineBreak => rfl
  | data row =>
      simp [tree, Item.chars, Row.tree, lineOf_chars, ending_chars, chars, Row.chars]

/-- What is read where fields are written is what their tree stands for. -/
theorem lineOf_tokens (ending : Ending) (first : Cell) (others : List Cell) (trim : Bool) :
    (lineOf ending first others).fields.map (Field.token · trim) =
      (first :: others).map (Cell.read trim) := by
  induction others generalizing first with
  | nil => simp [lineOf, Line.fields, Cell.tree_token]
  | cons second others ih => simp [lineOf, Line.fields, Cell.tree_token, ih]

/-- What is read where a part of a document is written is what its tree stands for. -/
theorem Part.tree_read? (options : Options) (part : Part) :
    (part.tree.fields? options.skipEmpty).map (·.map (Field.token · options.trim)) =
      part.read? options := by
  cases part with
  | comment text terminated => rfl
  | blank lineBreak => cases hskip : options.skipEmpty <;> simp [tree, Item.fields?, read?, hskip]
  | data row => exact congrArg some (lineOf_tokens _ row.first row.others options.trim)

/-- Raw text is plain text, unless it ends in a carriage return that a newline follows. -/
theorem plainText_of_raw {text : List Char}
    (hraw : ∀ char ∈ text, char ≠ dialect.delimiter ∧ char ≠ dialect.comment ∧ char ≠ '\n')
    (hlast : text.getLast? = some '\r' → rest.head? ≠ some '\n') : PlainText dialect text rest := by
  induction text with
  | nil => trivial
  | cons char text ih =>
      obtain ⟨hdelimiter, hcomment, hnewline⟩ := hraw char (by simp)
      have htail : ∀ other ∈ text, _ := fun other hother ↦
        hraw other (List.mem_cons_of_mem _ hother)
      cases text with
      | nil =>
          refine ⟨hdelimiter, hcomment, hnewline, ?_, trivial⟩
          rintro ⟨rfl, hhead⟩
          exact hlast rfl hhead
      | cons second text =>
          rw [List.getLast?_cons_cons] at hlast
          refine ⟨hdelimiter, hcomment, hnewline, ?_, ih htail hlast⟩
          rintro ⟨-, hhead⟩
          exact (htail second (by simp)).2.2 (Option.some.inj hhead)

/-- The tree of a field may stand where the field may be written. -/
theorem Cell.Allowed.tree (hvalid : dialect.Valid) {cell : Cell} (h : cell.Allowed dialect)
    (hstops : StopsPlain dialect rest)
    (hlast : cell.endsInReturn = true → rest.head? ≠ some '\n') :
    cell.tree.Allowed dialect rest := by
  cases cell with
  | quoted text =>
      -- every quote of the text is doubled, and none follows the closing one
      refine ⟨?_, hstops.head?_ne_quote hvalid, trivial⟩
      intro hmem
      obtain ⟨char, _, hchar⟩ := List.mem_map.mp hmem
      exact bodyPart_ne_single_quote char hchar
  | raw text => exact ⟨h.1, plainText_of_raw h.2 fun hreturn ↦
      hlast (by simpa [endsInReturn] using hreturn)⟩

/-- What stands behind the last field is an ending, if only the end of the text may take the place of
a line break. -/
theorem ending_allowed {comment? : Option String} {lineBreak? : Option LineBreak}
    (hcomment : ∀ text ∈ comment?, '\n' ∉ text.toList) (hrest : lineBreak? = none → rest = []) :
    (ending comment? lineBreak?).Allowed rest := by
  cases comment? with
  | none =>
      cases lineBreak? with
      | none => exact hrest rfl
      | some lineBreak => trivial
  | some text =>
      have htext := hcomment text rfl
      cases lineBreak? with
      | none => exact ⟨htext, fun _ ↦ hrest rfl⟩
      | some lineBreak =>
          cases lineBreak with
          | newline => exact ⟨htext, by simp⟩
          | returnNewline => exact ⟨by simpa using htext, by simp⟩

/-- What stands behind the last field starts with a newline only if that is the line break. -/
theorem ending_head?_ne_newline (hvalid : dialect.Valid) {comment? : Option String}
    {lineBreak? : Option LineBreak} (hrest : lineBreak? = none → rest = [])
    (hnewline : comment? = none → lineBreak? ≠ some .newline) :
    ((ending comment? lineBreak?).chars dialect ++ rest).head? ≠ some '\n' := by
  rw [ending_chars]
  cases comment? with
  | none =>
      cases lineBreak? with
      | none => simp [hrest rfl]
      | some lineBreak =>
          cases lineBreak with
          | newline => exact absurd rfl (hnewline rfl)
          | returnNewline => simp [LineBreak.chars]
  | some text => simpa using hvalid.comment_newline

/-- The tree of fields may stand where the fields may be written. -/
theorem lineOf_allowed (hvalid : dialect.Valid) {ending : Ending} {first : Cell}
    {others : List Cell} (hcells : ∀ cell ∈ first :: others, cell.Allowed dialect)
    (hending : ending.Allowed rest)
    (hlast : ((first :: others).getLast (List.cons_ne_nil _ _)).endsInReturn = true →
      (ending.chars dialect ++ rest).head? ≠ some '\n') :
    (lineOf ending first others).Allowed dialect rest := by
  induction others generalizing first with
  | nil => exact ⟨(hcells first (by simp)).tree hvalid hending.stopsPlain hlast, hending⟩
  | cons second others ih =>
      have hfirst : first.tree.Allowed dialect
          (dialect.delimiter :: ((lineOf ending second others).chars dialect ++ rest)) :=
        (hcells first (by simp)).tree hvalid (Or.inr (Or.inl rfl))
          (fun _ ↦ by simpa using hvalid.delimiter_newline)
      refine ⟨hfirst, ih (fun cell hcell ↦ hcells cell (List.mem_cons_of_mem _ hcell)) ?_⟩
      simpa using hlast

/-- A logical line starts where plain text goes on. -/
theorem startsLogical_of_not_stopsPlain {text : List Char} (h : ¬ StopsPlain dialect text) :
    StartsLogical dialect text := by
  simp only [StopsPlain, not_or, not_exists] at h
  exact ⟨h.1, h.2.2.1, h.2.2.2⟩

/-- A logical line may start with a delimiter. -/
theorem startsLogical_delimiter (hvalid : dialect.Valid) (more : List Char) :
    StartsLogical dialect (dialect.delimiter :: more) where
  nonempty := by simp
  comment := by simpa using hvalid.differ.symm
  lineBreak := by
    rintro lineBreak ⟨behind, hbehind⟩
    cases lineBreak with
    | newline => exact hvalid.delimiter_newline (List.cons.inj hbehind).1.symm
    | returnNewline => exact hvalid.delimiter_return (List.cons.inj hbehind).1.symm

/-- A logical line starts with any field that has characters. -/
theorem startsLogical_field (hvalid : dialect.Valid) {field : WrittenField}
    (h : field.Allowed dialect rest) (hfield : field ≠ .plain []) :
    StartsLogical dialect (field.chars ++ rest) := by
  apply startsLogical_of_not_stopsPlain
  cases field with
  | plain text =>
      cases text with
      | nil => exact absurd rfl hfield
      | cons char text => exact h.2.not_stops
  | quoted | unclosed =>
      intro hstops
      exact hstops.head?_ne_quote hvalid rfl

/-- A logical line starts with the fields of a record, unless that is one raw field without text. -/
theorem lineOf_startsLogical (hvalid : dialect.Valid) {ending : Ending} {first : Cell}
    {others : List Cell} (h : (lineOf ending first others).Allowed dialect rest)
    (hnonempty : ¬ (first = .raw "" ∧ others = [])) :
    StartsLogical dialect ((lineOf ending first others).chars dialect ++ rest) := by
  have hplain : first.tree = .plain [] → first = .raw "" := by
    intro htree
    cases first with
    | quoted text => simp [Cell.tree] at htree
    | raw text => simpa [Cell.tree] using htree
  cases others with
  | nil =>
      rw [lineOf, Line.chars, List.append_assoc]
      exact startsLogical_field hvalid h.1 (fun htree ↦ hnonempty ⟨hplain htree, rfl⟩)
  | cons second others =>
      rw [lineOf, Line.chars, List.append_assoc]
      by_cases htree : first.tree = .plain []
      -- nothing stands in front of the first delimiter
      · rw [htree]
        exact startsLogical_delimiter hvalid _
      · exact startsLogical_field hvalid h.1 htree

/-- The tree of a part of a document may stand where the part may be written. -/
theorem Part.Allowed.tree (hvalid : dialect.Valid) {part : Part} (h : part.Allowed dialect)
    (hrest : part.terminated = false → rest = []) : part.tree.Allowed dialect rest := by
  cases part with
  | comment text terminated => exact ⟨h, hrest⟩
  | blank lineBreak => trivial
  | data row =>
      have hbreak : row.lineBreak? = none → rest = [] := fun hnone ↦
        hrest (by simp [terminated, hnone])
      have hline : row.tree.Allowed dialect rest := by
        apply lineOf_allowed hvalid h.cells (ending_allowed h.comment hbreak)
        intro hreturn
        exact ending_head?_ne_newline hvalid hbreak (h.lastReturn hreturn)
      exact ⟨hline, lineOf_startsLogical hvalid hline h.nonempty⟩

/-- A document is written with the characters of its tree. -/
theorem tree_chars (dialect : Dialect) (parts : List Part) :
    Document.chars dialect (parts.map Part.tree) = chars dialect parts := by
  simp [Document.chars, chars, List.flatMap_map, Part.tree_chars]

/-- The tree of a document that can be written is a derivation of what is written. -/
theorem Allowed.derives (hvalid : dialect.Valid) {parts : List Part} (h : Allowed dialect parts) :
    Document.Derives dialect (parts.map Part.tree) (chars dialect parts) := by
  refine ⟨tree_chars dialect parts, ?_⟩
  induction parts with
  | nil => trivial
  | cons part parts ih =>
      obtain ⟨hpart, hterminated, hparts⟩ := h
      refine ⟨hpart.tree hvalid fun hopen ↦ ?_, ih hparts⟩
      rw [hterminated hopen]
      rfl

/-- The lines of the tree of a document make the records that are written. -/
theorem lines_tree (options : Options) (before : List Char) (parts : List Part) :
    ((Document.lines options.dialect options.skipEmpty before (parts.map Part.tree)).map
        (·.record options.trim)) = records options before parts := by
  induction parts generalizing before with
  | nil => rfl
  | cons part parts ih =>
      rw [List.map_cons, Document.lines, List.map_append, Part.tree_chars, ih, records,
        ← Part.tree_read?]
      cases part.tree.fields? options.skipEmpty <;> simp [FoundLine.record]

/-- Records are read back in order, whatever way each of them and each of its fields is written: the
fields as they were, raw ones stripped of white space if that is asked for, each record with the
physical line on which it ends, and a record without fields for each blank line unless those are
passed over. Nothing is left unread. -/
theorem records_eq_written {σ : Type} [CharSource σ] {source : σ} {options : Options}
    {reader : Reader σ} (hbind : Reader.ofOptions source options = .ok reader) {parts : List Part}
    (hallowed : Allowed options.dialect parts)
    (hsource : unread source = chars options.dialect parts) :
    let result := RecordSource.takeAll ({ reader } : RecordReader σ)
    result.1.toList = records options [] parts ∧ unread result.2.reader.source = [] ∧
      result.2.reader.line = physicalLines (chars options.dialect parts) := by
  obtain ⟨rfl, hvalid⟩ := Reader.ofOptions_eq_ok_iff.mp hbind
  have hderives := hallowed.derives hvalid.dialect
  rw [← hsource] at hderives ⊢
  have hresult := (Reader.StandsAt.fresh hderives).takeAll hvalid rfl #[] #[]
  rwa [lines_tree] at hresult

/-- Everything that has a role in a quoted field, a carriage return that ends a field, and no line
break at the end. -/
theorem records_eq_written_mixed_styles :
    let source := TextSource.ofText "#note\n\"a,\"\"#\n\", b\r# end\r\n\n\r,"
    let options : Options := { skipEmpty := false, trim := true }
    let parts : List Part :=
      [.comment "note" true,
        .data {
          first := .quoted "a,\"#\n"
          others := [.raw " b\r"]
          comment? := some " end"
          lineBreak? := some .returnNewline },
        .blank .newline,
        .data { first := .raw "\r", others := [.raw ""], comment? := none, lineBreak? := none }]
    Reader.ofOptions source options = .ok { source, options } ∧
      Allowed options.dialect parts ∧ unread source = chars options.dialect parts ∧
      (RecordSource.takeAll ({ reader := { source, options } } : RecordReader _)).1.toList =
        [{ line := 3, fields := ["a,\"#\n", "b"] }, { line := 4, fields := [] },
          { line := 5, fields := ["", ""] }] := by
  intro source options parts
  have hbind : Reader.ofOptions source options = .ok { source, options } := rfl
  have hallowed : Allowed options.dialect parts := by decide
  have hsource : unread source = chars options.dialect parts := by decide
  refine ⟨hbind, hallowed, hsource, (records_eq_written hbind hallowed hsource).1.trans ?_⟩
  decide +kernel

end Delimited.Written
