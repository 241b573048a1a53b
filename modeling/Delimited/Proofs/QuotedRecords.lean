import Delimited.Proofs.Renaming
import Delimited.Proofs.Writing

/-!
# Quoted records under any comment character

A record with every field between quotes starts with a quote, and behind each closing quote stands a
delimiter or a line break, which a scan recognizes before it looks for a comment. So no comment
character other than the quote has a say in how the record is read: `Row.readText_eq`. It may be
changed before every read, also to the delimiter and to the characters of a line break.

Read `answers_of_quoted_records` first.
-/

namespace Delimited.Quoted

open CharSource (unread)
open Grammar (LineBreak BodyPart)

/-- A record that is written with every field between quotes. -/
structure Row where
  first : String
  others : List String
  /-- The line break, unless it is left out. -/
  lineBreak? : Option LineBreak
  deriving DecidableEq, Repr

namespace Row

/-- The fields of a record. -/
def fields (row : Row) : List String :=
  row.first :: row.others

/-- The characters of fields, each of them behind a delimiter. -/
def othersChars (delimiter : Char) (others : List String) : List Char :=
  others.flatMap fun text ↦ delimiter :: (Written.Cell.quoted text).chars

/-- The characters of a record. -/
def chars (delimiter : Char) (row : Row) : List Char :=
  (Written.Cell.quoted row.first).chars ++ othersChars delimiter row.others ++
    row.lineBreak?.elim [] LineBreak.chars

end Row

/-- The characters of records, one behind the other. -/
def chars (delimiter : Char) (rows : List Row) : List Char :=
  rows.flatMap (Row.chars delimiter)

@[simp] theorem chars_cons (delimiter : Char) (row : Row) (rows : List Row) :
    chars delimiter (row :: rows) = row.chars delimiter ++ chars delimiter rows := rfl

/-- A read, and the comment characters that are set before it. -/
structure Step where
  comments : List Char
  skipEmpty : Bool
  trim : Bool
  deriving DecidableEq, Repr

/-- What a read and the changes before it ask of a reader. -/
def Step.requests (step : Step) : List ReaderRequest :=
  step.comments.map .setComment ++ [.line step.skipEmpty step.trim]

/-- The answer is that of a read. -/
def isRead : Answer → Bool
  | .line .. => true
  | _ => false

/-- The answers of the reads of a session. -/
def readAnswers {σ : Type} [CharSource σ] (reader : Reader σ) (requests : List ReaderRequest) :
    List Answer :=
  ((replies Reader.serve reader requests).map Reply.answer).filter isRead

/-- The answer to the read with this index behind the text `before`: the record with that index and
the number of the physical lines up to its end, or else the end of the text. -/
def answerAt (delimiter : Char) (before : List Char) (rows : List Row) (index : Nat) : Answer :=
  let line := physicalLines (before ++ chars delimiter (rows.take (index + 1)))
  match rows[index]? with
  | some row => .line .line row.fields line
  | none => .line .endOfStream [] line

/-- Behind the last record nothing is read but the end of the text. -/
theorem answerAt_nil (delimiter : Char) (before : List Char) (index : Nat) :
    answerAt delimiter before [] index = .line .endOfStream [] (physicalLines before) := by
  simp [answerAt, chars]

/-- The first answer is the first record. -/
theorem answerAt_zero (delimiter : Char) (before : List Char) (row : Row) (rows : List Row) :
    answerAt delimiter before (row :: rows) 0 =
      .line .line row.fields (physicalLines (before ++ row.chars delimiter)) := by
  simp [answerAt, chars]

/-- Behind the first record the answers are those that were to come after its own. -/
theorem answerAt_succ (delimiter : Char) (before : List Char) (rows : List Row) (index : Nat) :
    answerAt delimiter before rows (index + 1) =
      answerAt delimiter (before ++ chars delimiter (rows.take 1)) rows.tail index := by
  cases rows with
  | nil => simp [answerAt_nil, chars]
  | cons row rows => simp [answerAt, chars]

/-- A field that opened with a quote. -/
def quotedField (text : String) : Field :=
  { text, quoted := true }

/-- No white space is stripped off a field that opened with a quote. -/
@[simp] theorem token_quotedField (text : String) (trim : Bool) :
    (quotedField text).token trim = text := by
  simp [quotedField, Field.token]

section Scan

variable {dialect : Dialect} {scan : LineScan} {rest : List Char}

/-- A scan that comes to a field between quotes, with something other than a quote behind it, leaves
it with the field. -/
theorem scanText_cell (hdelimiter : dialect.delimiter ≠ quote) (hcomment : dialect.comment ≠ quote)
    (hplace : scan.place = .fieldStart) (hfield : scan.field = {}) (text : String)
    (hrest : rest.head? ≠ some quote) :
    ∃ next : LineScan, next.fields = scan.fields ∧ next.field = quotedField text ∧
      next.place ≠ .quoted ∧
      scanText dialect scan ((Written.Cell.quoted text).chars ++ rest) =
        scanText dialect next rest := by
  have hbody : BodyPart.single quote ∉ text.toList.map Written.bodyPart := by
    simpa using fun char _ ↦ Written.bodyPart_ne_single_quote char
  have hdecoded : (text.toList.map Written.bodyPart).map BodyPart.decoded = text.toList := by
    simp [Function.comp_def, Written.bodyPart_decoded]
  obtain ⟨inside, hadds, hinside, hscan⟩ :=
    @Grammar.scanText_body dialect _ hbody scan.openQuote rfl (quote :: rest)
  rw [hdecoded] at hadds
  refine ⟨inside.closeQuote, hadds.fields, ?_, by simp [LineScan.closeQuote], ?_⟩
  · have htext := hadds.text
    simp only [LineScan.openQuote, hfield] at htext
    exact Field.ext (htext.trans (by simp [quotedField])) hadds.quoted
  · rw [← Written.Cell.tree_chars]
    simp only [Written.Cell.tree, Grammar.WrittenField.chars, List.cons_append, List.append_assoc,
      List.nil_append]
    rw [Grammar.scanText_open hdelimiter hcomment hplace, hscan, scanText_close dialect hinside hrest]

/-- A scan that comes to fields between quotes, with delimiters between them, leaves them with the
fields. -/
theorem scanText_cells (hdelimiter : dialect.delimiter ≠ quote) (hcomment : dialect.comment ≠ quote)
    (hplace : scan.place = .fieldStart) (hfield : scan.field = {}) (first : String)
    (others : List String) (hrest : rest.head? ≠ some quote) :
    ∃ next : LineScan,
      next.allFields = scan.fields.toList ++ (first :: others).map quotedField ∧
      next.place ≠ .quoted ∧
      scanText dialect scan ((Written.Cell.quoted first).chars ++
          (Row.othersChars dialect.delimiter others ++ rest)) = scanText dialect next rest := by
  induction others generalizing scan first with
  | nil =>
      obtain ⟨next, hfields, hnext, hplain, hscan⟩ :=
        scanText_cell hdelimiter hcomment hplace hfield first hrest
      exact ⟨next, by simp [LineScan.allFields, hfields, hnext], hplain, hscan⟩
  | cons second others ih =>
      have hahead : (dialect.delimiter :: ((Written.Cell.quoted second).chars ++
          (Row.othersChars dialect.delimiter others ++ rest))).head? ≠ some quote := by
        simpa using hdelimiter
      obtain ⟨next, hfields, hnext, hplain, hscan⟩ :=
        scanText_cell hdelimiter hcomment hplace hfield first hahead
      obtain ⟨last, hall, hlast, hothers⟩ := @ih next.nextField rfl rfl second
      refine ⟨last, ?_, hlast, ?_⟩
      · rw [hall]
        simp [LineScan.nextField, hfields, hnext]
      · rw [← hothers, ← scanText_delimiter hplain rfl, ← hscan]
        simp [Row.othersChars]

/-- A line break ends the line, whatever the comment character is. -/
theorem scanText_lineBreak (hdelimiter : isReserved dialect.delimiter = false)
    (hplace : scan.place ≠ .quoted) (lineBreak : LineBreak) (rest : List Char) :
    scanText dialect scan (lineBreak.chars ++ rest) = scan.stop rest := by
  obtain ⟨-, hnewline, hreturn⟩ := isReserved_eq_false_iff.mp hdelimiter
  cases lineBreak with
  | newline => exact scanText_of_endsAt hplace hnewline.symm (.inl rfl)
  | returnNewline => exact scanText_of_endsAt hplace hreturn.symm (.inr (.inl ⟨rfl, rfl⟩))

end Scan

namespace Row

variable {dialect : Dialect} {row : Row} {rest : List Char}

/-- Behind the last field of a record stands no quote. -/
theorem head?_ending_ne_quote (row : Row) (hopen : row.lineBreak? = none → rest = []) :
    (row.lineBreak?.elim [] LineBreak.chars ++ rest).head? ≠ some quote := by
  obtain ⟨first, others, _ | _ | _⟩ := row
  · simp [hopen rfl]
  · simp [LineBreak.chars, quote]
  · simp [LineBreak.chars, quote]

/-- Scanning a record finds its fields, and stops behind it. -/
theorem scanText_eq (hdelimiter : isReserved dialect.delimiter = false)
    (hcomment : dialect.comment ≠ quote) (hopen : row.lineBreak? = none → rest = []) :
    (scanText dialect {} (row.chars dialect.delimiter ++ rest)).fields =
        row.fields.map quotedField ∧
      (scanText dialect {} (row.chars dialect.delimiter ++ rest)).rest = rest := by
  have hquote := (isReserved_eq_false_iff.mp hdelimiter).1
  obtain ⟨next, hall, hplain, hscan⟩ := @scanText_cells dialect {} _ hquote hcomment rfl rfl
    row.first row.others (row.head?_ending_ne_quote hopen)
  have hstop : scanText dialect next (row.lineBreak?.elim [] LineBreak.chars ++ rest) =
      next.stop rest := by
    cases hbreak : row.lineBreak? with
    | none => simp [hopen hbreak, scanText]
    | some lineBreak => exact scanText_lineBreak hdelimiter hplain lineBreak rest
  rw [chars, List.append_assoc, List.append_assoc, hscan, hstop]
  exact ⟨hall, rfl⟩

/-- A read that comes to a record finds its fields, and takes its characters, which are whole
physical lines. -/
theorem readText_eq (hdelimiter : isReserved dialect.delimiter = false)
    (hcomment : dialect.comment ≠ quote) (hopen : row.lineBreak? = none → rest = [])
    (skipEmpty : Bool) (line : Nat) :
    TakesLines (row.chars dialect.delimiter ++ rest) (row.chars dialect.delimiter) rest ∧
      readText dialect skipEmpty line (row.chars dialect.delimiter ++ rest) =
        { fields? := some (row.fields.map quotedField)
          line := line + physicalLines (row.chars dialect.delimiter)
          rest } := by
  obtain ⟨hfields, hrest⟩ := scanText_eq hdelimiter hcomment hopen
  obtain ⟨behind, hquote⟩ : ∃ behind, row.chars dialect.delimiter ++ rest = quote :: behind :=
    ⟨_, rfl⟩
  have hhead : (row.chars dialect.delimiter ++ rest).head? ≠ some dialect.comment := by
    simpa [hquote] using hcomment.symm
  have hempty : afterEmptyLine? (row.chars dialect.delimiter ++ rest) = none := by
    simp [hquote, quote, afterEmptyLine?]
  have hread := readText_logical skipEmpty line hhead hempty (by simp [hquote])
  -- what a read takes is made of whole lines, and here it is the characters of the record
  have hnewline := (isReserved_eq_false_iff.mp hdelimiter).2.1
  obtain ⟨taken, htakes, hcount⟩ := readText_takesLines hnewline skipEmpty line
    (row.chars dialect.delimiter ++ rest)
  rw [hread, hrest] at htakes
  obtain rfl : taken = row.chars dialect.delimiter := htakes.taken_eq
  refine ⟨htakes, ?_⟩
  simp only [hread] at hcount
  simp [hread, hrest, hcount, hfields]

end Row

variable {σ : Type} [CharSource σ]

/-- The reader stands in front of these records of a document, behind the text `before`, and its
comment character is not the quote. -/
structure StandsAt (delimiter : Char) (text before : List Char) (rows : List Row)
    (reader : Reader σ) : Prop where
  delimiter_eq : reader.options.delimiter = delimiter
  comment : reader.options.comment ≠ quote
  unread_eq : unread reader.source = chars delimiter rows
  takes : TakesLines text before (chars delimiter rows)
  line : reader.line = physicalLines before

namespace StandsAt

variable {delimiter : Char} {text before : List Char} {rows : List Row} {reader : Reader σ}

/-- The comment character may be changed, but not to the quote. -/
theorem setComment (h : StandsAt delimiter text before rows reader) {comment : Char}
    (hcomment : comment ≠ quote) :
    StandsAt delimiter text before rows (reader.setComment comment).1 :=
  ⟨h.delimiter_eq, hcomment, h.unread_eq, h.takes, h.line⟩

/-- A read that finds the first record, or the end of the text, is answered with it, and leaves the
reader in front of the others. -/
theorem serve_line_of_view {skipEmpty : Bool} (trim : Bool) (fields? : Option (List String))
    {taken : List Char} {others : List Row}
    (h : StandsAt delimiter text before rows reader)
    (htakes : TakesLines text taken (chars delimiter others))
    (hview : (reader.readFields skipEmpty).view =
      { fields? := fields?.map (List.map quotedField)
        line := physicalLines taken
        rest := chars delimiter others }) :
    let reply := reader.serve (.line skipEmpty trim)
    reply.answer =
        .line (if fields?.isSome then .line else .endOfStream) (fields?.getD [])
          (physicalLines taken) ∧
      StandsAt delimiter text taken others reply.reader := by
  have hfields := congrArg TextReading.fields? hview
  have hline := congrArg TextReading.line hview
  have hunread := congrArg TextReading.rest hview
  have hoptions := reader.options_readFields skipEmpty #[]
  simp only [Reading.view] at hfields hline hunread
  constructor
  · cases fields? <;>
      simp [Reader.serve, Reading.status, Reading.tokens, hfields, hline, Function.comp_def]
  · exact ⟨(congrArg Options.delimiter hoptions).trans h.delimiter_eq,
      fun hquote ↦ h.comment ((congrArg Options.comment hoptions).symm.trans hquote), hunread,
      htakes, hline⟩

/-- A read is answered with the first record, or with the end of the text, and leaves the reader in
front of the others. -/
theorem serve_line (h : StandsAt delimiter text before rows reader)
    (hdelimiter : isReserved delimiter = false)
    (hbreaks : ∀ row ∈ rows.dropLast, row.lineBreak? ≠ none) (skipEmpty trim : Bool) :
    let reply := reader.serve (.line skipEmpty trim)
    reply.answer = answerAt delimiter before rows 0 ∧
      StandsAt delimiter text (before ++ chars delimiter (rows.take 1)) rows.tail reply.reader := by
  have hview := reader.readFields_view skipEmpty #[]
  rw [h.unread_eq, h.line] at hview
  cases rows with
  | nil =>
      have hend : (reader.readFields skipEmpty).view = _ := hview.trans (readText_nil _ _ _)
      rw [answerAt_nil, List.take_nil, chars, List.flatMap_nil, List.append_nil]
      exact h.serve_line_of_view trim none h.takes hend
  | cons row rows =>
      have hopen : row.lineBreak? = none → chars delimiter rows = [] := by
        intro hnone
        cases rows with
        | nil => rfl
        | cons second others => exact absurd hnone (hbreaks row (by simp))
      obtain rfl := h.delimiter_eq
      obtain ⟨htakes, hread⟩ := @Row.readText_eq reader.options.dialect row _ hdelimiter h.comment
        hopen skipEmpty (physicalLines before)
      rw [← h.takes.physicalLines_trans htakes] at hread
      rw [answerAt_zero, List.take_succ_cons, List.take_zero, chars_cons, chars, List.flatMap_nil,
        List.append_nil]
      exact h.serve_line_of_view trim (some row.fields) (h.takes.trans htakes) (hview.trans hread)

/-- A read and the changes before it take the first record, or the end of the text. -/
theorem readAnswers_step (h : StandsAt delimiter text before rows reader)
    (hdelimiter : isReserved delimiter = false)
    (hbreaks : ∀ row ∈ rows.dropLast, row.lineBreak? ≠ none) {step : Step}
    (hcomments : quote ∉ step.comments) (requests : List ReaderRequest) :
    ∃ next : Reader σ,
      StandsAt delimiter text (before ++ chars delimiter (rows.take 1)) rows.tail next ∧
        readAnswers reader (step.requests ++ requests) =
          answerAt delimiter before rows 0 :: readAnswers next requests := by
  obtain ⟨comments, skipEmpty, trim⟩ := step
  induction comments generalizing reader with
  | nil =>
      obtain ⟨hanswer, hnext⟩ := h.serve_line hdelimiter hbreaks skipEmpty trim
      refine ⟨_, hnext, ?_⟩
      rw [← hanswer]
      rfl
  | cons comment comments ih =>
      have hfirst : comment ≠ quote := fun hquote ↦ hcomments (hquote ▸ List.mem_cons_self)
      obtain ⟨next, hnext, hanswers⟩ :=
        ih (h.setComment hfirst) (fun hquote ↦ hcomments (List.mem_cons_of_mem _ hquote))
      exact ⟨next, hnext, hanswers⟩

/-- Reads and changes take the records one by one, and then the end of the text. -/
theorem readAnswers_eq (h : StandsAt delimiter text before rows reader)
    (hdelimiter : isReserved delimiter = false)
    (hbreaks : ∀ row ∈ rows.dropLast, row.lineBreak? ≠ none) {schedule : List Step}
    (hcomments : ∀ step ∈ schedule, quote ∉ step.comments) :
    readAnswers reader (schedule.flatMap Step.requests) =
      (List.range schedule.length).map (answerAt delimiter before rows) := by
  induction schedule generalizing reader before rows with
  | nil => rfl
  | cons step schedule ih =>
      obtain ⟨next, hnext, hanswers⟩ := h.readAnswers_step hdelimiter hbreaks
        (hcomments step List.mem_cons_self) (schedule.flatMap Step.requests)
      have htail : ∀ row ∈ rows.tail.dropLast, row.lineBreak? ≠ none := by
        intro row hrow
        rw [← List.tail_dropLast] at hrow
        exact hbreaks row (List.mem_of_mem_tail hrow)
      have hothers := ih hnext htail fun step hstep ↦ hcomments step (List.mem_cons_of_mem _ hstep)
      rw [List.flatMap_cons, hanswers, hothers, List.length_cons, List.range_succ_eq_map,
        List.map_cons, List.map_map]
      congr 1
      refine List.map_congr_left fun index _ ↦ ?_
      exact (answerAt_succ delimiter before rows index).symm

end StandsAt

/-- Records that are written with every field between quotes are read back one by one, and then the
end of the text, whatever is done to the comment character before each read, as long as it is not
set to the quote, and whether or not a read passes over empty lines and strips white space. Each
record is answered with all physical lines up to its end counted. Only the last record may lack its
line break. -/
theorem answers_of_quoted_records {source : σ} {options : Options} {reader : Reader σ}
    (hbind : Reader.ofOptions source options = .ok reader) {rows : List Row}
    (hbreaks : ∀ row ∈ rows.dropLast, row.lineBreak? ≠ none)
    (hsource : unread source = chars options.delimiter rows) {schedule : List Step}
    (hcomments : ∀ step ∈ schedule, quote ∉ step.comments) :
    readAnswers reader (schedule.flatMap Step.requests) =
      (List.range schedule.length).map (answerAt options.delimiter [] rows) := by
  obtain ⟨rfl, hvalid⟩ := Reader.ofOptions_eq_ok_iff.mp hbind
  obtain ⟨hdelimiter, hcomment, -⟩ := Options.valid_iff.mp hvalid
  have hstart : StandsAt options.delimiter (chars options.delimiter rows) [] rows
      ({ source, options } : Reader σ) :=
    ⟨rfl, (isReserved_eq_false_iff.mp hcomment).1, hsource, .refl _, rfl⟩
  exact hstart.readAnswers_eq hdelimiter hbreaks hcomments

/-- Three records read with the delimiter, a line feed and a carriage return as comment
characters. -/
theorem answers_of_quoted_records_as_comments :
    let source := TextSource.ofText "\"#a\",\"\"\n\",\n\"\r\n\" \"\"\r\""
    let rows : List Row :=
      [{ first := "#a", others := [""], lineBreak? := some .newline },
        { first := ",\n", others := [], lineBreak? := some .returnNewline },
        { first := " \"\r", others := [], lineBreak? := none }]
    let schedule : List Step :=
      [{ comments := [','], skipEmpty := false, trim := true },
        { comments := ['x', '\n'], skipEmpty := true, trim := false },
        { comments := ['\r'], skipEmpty := false, trim := true },
        { comments := [], skipEmpty := true, trim := true }]
    Reader.ofOptions source {} = .ok { source } ∧
      (∀ row ∈ rows.dropLast, row.lineBreak? ≠ none) ∧ unread source = chars ',' rows ∧
      (∀ step ∈ schedule, quote ∉ step.comments) ∧
      readAnswers ({ source } : Reader TextSource) (schedule.flatMap Step.requests) =
        [.line .line ["#a", ""] 1, .line .line [",\n"] 3, .line .line [" \"\r"] 4,
          .line .endOfStream [] 4] := by
  intro source rows schedule
  have hbind : Reader.ofOptions source {} = .ok { source } := rfl
  have hbreaks : ∀ row ∈ rows.dropLast, row.lineBreak? ≠ none := by decide
  have hsource : unread source = chars ',' rows := by decide
  have hcomments : ∀ step ∈ schedule, quote ∉ step.comments := by decide
  refine ⟨hbind, hbreaks, hsource, hcomments, ?_⟩
  exact (answers_of_quoted_records hbind hbreaks hsource hcomments).trans (by decide)

end Delimited.Quoted
