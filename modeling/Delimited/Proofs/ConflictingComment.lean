import Delimited.Source.TextSource
import Delimited.Proofs.Renaming

/-!
# Comment characters that have another role

`Reader.setComment` takes any character, also one that the options refuse: the delimiter, the quote,
or a character of a line break. What such a character does to the next line is fixed by the order in
which the reader and the scan look at a character. At the start of a line the comment comes first,
whatever its other role. Inside a line the delimiter and the newline come before the comment, so
they keep their roles; the carriage return and the quote come after it, so they end the line.

`fresh` is a character that does not occur in the text. With it there are no comments, so it tells
what a line is when the comment character plays no part. Read `readFields_conflicting_comment`
first.
-/

namespace Delimited

open CharSource (unread)

/-- The first line of a text, without the newline or the carriage return and newline that end it. -/
def lineText : List Char → List Char
  | [] => []
  | char :: rest =>
      if char = '\n' ∨ char = '\r' ∧ rest.head? = some '\n' then [] else char :: lineText rest

/-- Fields that did not open with a quote. -/
def plainFields (pieces : List (List Char)) : List Field :=
  pieces.map fun piece ↦ { text := String.ofList piece }

/-- The tokens of fields that did not open with a quote are their texts. -/
@[simp] theorem tokens_plainFields (pieces : List (List Char)) :
    (plainFields pieces).map (Field.token · false) = pieces.map String.ofList := by
  simp [plainFields, Field.token]

namespace LineScan

/-- All fields of a line that goes on with these pieces, the first of which belongs to the field that
was begun. -/
def fieldsWith (scan : LineScan) : List (List Char) → List Field
  | [] => scan.allFields
  | piece :: pieces =>
      scan.fields.toList ++
        { scan.field with text := scan.field.text ++ String.ofList piece } :: plainFields pieces

/-- Nothing more belongs to the field that was begun. -/
theorem fieldsWith_nil_cons (scan : LineScan) : scan.fieldsWith [[]] = scan.allFields := by
  simp [fieldsWith, allFields, plainFields]

/-- A line of which nothing was scanned has these pieces as its fields. -/
theorem fieldsWith_empty {pieces : List (List Char)} (hne : pieces ≠ []) :
    ({} : LineScan).fieldsWith pieces = plainFields pieces := by
  obtain ⟨piece, others, rfl⟩ := List.exists_cons_of_ne_nil hne
  simp [fieldsWith, plainFields]

/-- A delimiter ends the piece that belongs to the field that was begun. -/
theorem fieldsWith_nextField (scan : LineScan) {pieces : List (List Char)} (hne : pieces ≠ []) :
    scan.nextField.fieldsWith pieces = scan.fieldsWith ([] :: pieces) := by
  obtain ⟨piece, others, rfl⟩ := List.exists_cons_of_ne_nil hne
  simp [fieldsWith, nextField, plainFields]

/-- A character of text belongs to the field that was begun. -/
theorem fieldsWith_push (scan : LineScan) (char : Char) {pieces : List (List Char)}
    (hne : pieces ≠ []) :
    (scan.push char .plain).fieldsWith pieces =
      scan.fieldsWith (pieces.modifyHead (List.cons char)) := by
  obtain ⟨piece, others, rfl⟩ := List.exists_cons_of_ne_nil hne
  simp [fieldsWith, push, Field.push, ← String.toList_inj]

end LineScan

/-- A line that ends at once has no text. -/
theorem lineText_of_ends {char : Char} {rest : List Char}
    (h : char = '\n' ∨ char = '\r' ∧ rest.head? = some '\n') : lineText (char :: rest) = [] := by
  rw [lineText, if_pos h]

/-- A line that goes on has its first character and the text of the others. -/
theorem lineText_of_not_ends {char : Char} {rest : List Char}
    (h : ¬ (char = '\n' ∨ char = '\r' ∧ rest.head? = some '\n')) :
    lineText (char :: rest) = char :: lineText rest := by
  rw [lineText, if_neg h]

/-- The text of the first line up to the first quote. -/
def textBeforeQuote (text : List Char) : List Char :=
  (lineText text).takeWhile (· ≠ quote)

/-- Where the quote starts comments, the line ends in front of a quote too. -/
theorem textBeforeQuote_of_endsAt {dialect : Dialect} (hcomment : dialect.comment = quote)
    {char : Char} {rest : List Char} (hends : dialect.EndsAt char rest) :
    textBeforeQuote (char :: rest) = [] := by
  rw [Dialect.EndsAt, ← or_assoc, hcomment] at hends
  by_cases hline : char = '\n' ∨ char = '\r' ∧ rest.head? = some '\n'
  · rw [textBeforeQuote, lineText_of_ends hline, List.takeWhile_nil]
  · rw [textBeforeQuote, lineText_of_not_ends hline, hends.resolve_left hline]
    exact List.takeWhile_cons_of_neg (by simp)

/-- Where the line goes on, its next character is one of those in front of the first quote. -/
theorem textBeforeQuote_of_not_endsAt {dialect : Dialect} (hcomment : dialect.comment = quote)
    {char : Char} {rest : List Char} (hends : ¬ dialect.EndsAt char rest) :
    textBeforeQuote (char :: rest) = char :: textBeforeQuote rest := by
  rw [Dialect.EndsAt, ← or_assoc, hcomment, not_or] at hends
  rw [textBeforeQuote, lineText_of_not_ends hends.1]
  exact List.takeWhile_cons_of_pos (by simpa using hends.2)

/-- A line that goes on is left behind its first character as before it. -/
theorem afterLine_of_not_endsAt {dialect : Dialect} {char : Char} {rest : List Char}
    (hends : ¬ dialect.EndsAt char rest) : afterLine (char :: rest) = afterLine rest := by
  rw [Dialect.EndsAt, not_or] at hends
  rw [afterLine, if_neg hends.1]

/-- Where the quote starts comments, a line is split up to its first quote, and ends with its
physical line. -/
theorem scanText_quote_comment {dialect : Dialect} (hcomment : dialect.comment = quote)
    (hdelimiter : isReserved dialect.delimiter = false) {scan : LineScan}
    (hplace : scan.place ≠ .quoted) (text : List Char) :
    scanText dialect scan text =
      { fields := scan.fieldsWith ((textBeforeQuote text).splitOn dialect.delimiter)
        continuations := scan.continuations
        rest := afterLine text } := by
  induction text generalizing scan with
  | nil =>
      rw [scanText, textBeforeQuote, lineText, List.takeWhile_nil, List.splitOn_nil,
        LineScan.fieldsWith_nil_cons]
      rfl
  | cons char rest ih =>
      have hpieces := List.splitOn_ne_nil dialect.delimiter (textBeforeQuote rest)
      by_cases hsplit : char = dialect.delimiter
      · have hends : ¬ dialect.EndsAt char rest := by
          rw [isReserved_eq_false_iff] at hdelimiter
          simp [Dialect.EndsAt, hsplit, hcomment, hdelimiter]
        rw [scanText_delimiter hplace hsplit, ih (by simp [LineScan.nextField]),
          LineScan.fieldsWith_nextField scan hpieces, textBeforeQuote_of_not_endsAt hcomment hends,
          afterLine_of_not_endsAt hends, hsplit, List.splitOn_cons_eq_if_modifyHead,
          if_pos (beq_self_eq_true _)]
        rfl
      · by_cases hends : dialect.EndsAt char rest
        · rw [scanText_of_endsAt hplace hsplit hends, textBeforeQuote_of_endsAt hcomment hends,
            List.splitOn_nil, LineScan.fieldsWith_nil_cons]
          rfl
        · have hquote : char ≠ quote := fun h ↦ hends (.inr (.inr (h.trans hcomment.symm)))
          rw [scanText_of_not_endsAt hplace hsplit hends, if_neg (fun h ↦ hquote h.1),
            ih (by simp [LineScan.push]), LineScan.fieldsWith_push scan char hpieces,
            textBeforeQuote_of_not_endsAt hcomment hends, afterLine_of_not_endsAt hends,
            List.splitOn_cons_eq_if_modifyHead, if_neg (by simpa using hsplit)]
          rfl

/-- Where the quote starts comments, a line that is not empty has the pieces in front of its first
quote as its fields. -/
theorem readText_quote_comment {dialect : Dialect} (hcomment : dialect.comment = quote)
    (hdelimiter : isReserved dialect.delimiter = false) {text : List Char}
    (hfirst : text.head? ≠ some dialect.comment) (hempty : afterEmptyLine? text = none)
    (htext : text ≠ []) (line : Nat) :
    readText dialect false line text =
      { fields? := some (plainFields ((textBeforeQuote text).splitOn dialect.delimiter))
        line := line + 1
        rest := afterLine text } := by
  have hscan := @scanText_quote_comment dialect hcomment hdelimiter {} (by simp) text
  rw [readText_logical false line hfirst hempty htext, hscan,
    LineScan.fieldsWith_empty (List.splitOn_ne_nil _ _)]
  rfl

/-- A character that does not occur does not end a line. -/
theorem renames_of_free {delimiter comment fresh : Char} {text : List Char} (hfresh : fresh ∉ text)
    (hfree : comment = delimiter ∨ comment = '\n') :
    Renames id { delimiter, comment } { delimiter, comment := fresh } text where
  delimiter _ _ := Iff.rfl
  quote _ _ := Iff.rfl
  newline _ _ := Iff.rfl
  ends char rest hsuffix hdelimiter := by
    have hother : char ≠ fresh := by
      rintro rfl
      exact hfresh (hsuffix.mem List.mem_cons_self)
    obtain rfl | rfl := hfree
    · simp [Dialect.EndsAt, hother, show char ≠ comment from hdelimiter]
    · simp only [Dialect.EndsAt, List.map_id, id_eq, hother, or_false]
      grind

/-- Where the delimiter or the newline starts comments, a line that does not start with it is read as
with a comment character that does not occur. -/
theorem readText_free_comment {delimiter comment fresh : Char} {text : List Char}
    (hfresh : fresh ∉ text) (hfree : comment = delimiter ∨ comment = '\n')
    (hfirst : text.head? ≠ some comment) (line : Nat) :
    readText { delimiter, comment } false line text =
      readText { delimiter, comment := fresh } false line text := by
  have hplain : text.head? ≠ some fresh := fun h ↦ hfresh (List.mem_of_head? h)
  have hmap := readText_map (renames_of_free hfresh hfree) hfirst (by rwa [List.map_id]) (by simp)
    line
  rw [List.map_id, TextReading.map_id] at hmap
  exact hmap.symm

/-- Another character in place of the carriage return. -/
def hideReturn (fresh char : Char) : Char :=
  if char = '\r' then fresh else char

/-- The carriage return in place of the character that stands for it. -/
def restoreReturn (fresh char : Char) : Char :=
  if char = fresh then '\r' else char

/-- A text in which the other character does not occur is restored. -/
theorem map_restoreReturn {fresh : Char} {text : List Char} (hfresh : fresh ∉ text) :
    (text.map (hideReturn fresh)).map (restoreReturn fresh) = text := by
  rw [List.map_map]
  refine (List.map_congr_left fun char hchar ↦ ?_).trans (List.map_id text)
  have hother : char ≠ fresh := fun h ↦ hfresh (h ▸ hchar)
  by_cases hreturn : char = '\r'
  · simp [hideReturn, restoreReturn, hreturn]
  · simp [hideReturn, restoreReturn, hreturn, hother]

/-- No carriage return is left in its place. -/
theorem return_notMem_hideReturn {fresh : Char} (hfresh : fresh ≠ '\r') (text : List Char) :
    '\r' ∉ text.map (hideReturn fresh) := by
  intro hmem
  obtain ⟨char, _, hchar⟩ := List.mem_map.mp hmem
  unfold hideReturn at hchar
  split at hchar
  · exact hfresh hchar
  · contradiction

/-- A text that starts with no carriage return starts as before. -/
theorem head?_hideReturn {fresh : Char} {text : List Char} (hfirst : text.head? ≠ some '\r') :
    (text.map (hideReturn fresh)).head? = text.head? := by
  cases text with
  | nil => rfl
  | cons first rest =>
      have hfirst : first ≠ '\r' := by simpa using hfirst
      rw [List.map_cons, hideReturn, if_neg hfirst]
      rfl

/-- Where the carriage return starts comments, it does what the character in its place does where
that one starts comments. -/
theorem renames_restoreReturn {delimiter fresh : Char} {text : List Char}
    (hdelimiter : isReserved delimiter = false) (hrole : isReserved fresh = false)
    (hother : fresh ≠ delimiter) (hreturn : '\r' ∉ text) :
    Renames (restoreReturn fresh) { delimiter, comment := fresh } { delimiter, comment := '\r' }
      text := by
  rw [isReserved_eq_false_iff] at hdelimiter hrole
  refine ⟨fun char _ ↦ ?_, fun char _ ↦ ?_, fun char _ ↦ ?_, fun char rest hsuffix _ ↦ ?_⟩
  · grind [restoreReturn]
  · grind [restoreReturn, quote]
  · grind [restoreReturn]
  · have hchar : char ≠ '\r' := fun h ↦ hreturn (h ▸ hsuffix.mem List.mem_cons_self)
    grind [restoreReturn, Dialect.EndsAt]

/-- A line that starts with no carriage return is empty with another character in its place if it is
empty. -/
theorem afterEmptyLine?_restoreReturn {fresh : Char} {text : List Char} (hfresh : fresh ∉ text)
    (hfirst : text.head? ≠ some '\r') :
    afterEmptyLine? text =
      (afterEmptyLine? (text.map (hideReturn fresh))).map (List.map (restoreReturn fresh)) := by
  cases text with
  | nil => rfl
  | cons first rest =>
      have hfirst : first ≠ '\r' := by simpa using hfirst
      have hrest : fresh ∉ rest := fun h ↦ hfresh (List.mem_cons_of_mem _ h)
      have hhidden : hideReturn fresh first = first := by rw [hideReturn, if_neg hfirst]
      simp only [List.map_cons, hhidden, afterEmptyLine?_cons, hfirst, false_and, if_false]
      split
      · rw [Option.map_some, map_restoreReturn hrest]
      · rfl

/-- Where the carriage return starts comments, a line that does not start with it is read as with
another comment character in all its places. -/
theorem readText_return_comment {delimiter fresh : Char} {text : List Char}
    (hdelimiter : isReserved delimiter = false) (hrole : isReserved fresh = false)
    (hother : fresh ≠ delimiter) (hfresh : fresh ∉ text) (hfirst : text.head? ≠ some '\r')
    (line : Nat) :
    readText { delimiter, comment := '\r' } false line text =
      (readText { delimiter, comment := fresh } false line (text.map (hideReturn fresh))).map
        (restoreReturn fresh) := by
  have hrestored := map_restoreReturn hfresh
  have hhidden := return_notMem_hideReturn (isReserved_eq_false_iff.mp hrole).2.2 text
  have hplain : (text.map (hideReturn fresh)).head? ≠ some fresh := by
    rw [head?_hideReturn hfirst]
    exact fun h ↦ hfresh (List.mem_of_head? h)
  have hmap := readText_map (renames_restoreReturn hdelimiter hrole hother hhidden) hplain
    (by rwa [hrestored]) (by rw [hrestored]; exact afterEmptyLine?_restoreReturn hfresh hfirst) line
  rwa [hrestored] at hmap

/-- A line that is neither a comment nor empty is read alike whether or not empty lines are passed
over. -/
theorem readText_skipEmpty {dialect : Dialect} {text : List Char}
    (hfirst : text.head? ≠ some dialect.comment) (hempty : afterEmptyLine? text = none)
    (line : Nat) : readText dialect true line text = readText dialect false line text := by
  by_cases htext : text = []
  · rw [htext, readText_nil, readText_nil]
  · rw [readText_logical true line hfirst hempty htext,
      readText_logical false line hfirst hempty htext]

variable {σ : Type} [CharSource σ]

namespace Reader

/-- A reader with the same options in front of a text, when this many lines come before it. -/
def onText (reader : Reader σ) (line : Nat) (text : List Char) : Reader TextSource :=
  { source := { chars := text }, options := reader.options, line }

omit [CharSource σ] in
/-- What a reader reads in front of a text. -/
theorem view_onText (reader : Reader σ) (line : Nat) (text : List Char) (skipEmpty : Bool) :
    ((reader.onText line text).readFields skipEmpty).view =
      readText reader.options.dialect skipEmpty line text :=
  readFields_view _ skipEmpty #[]

/-- What a reader reads once its comment character is set. -/
theorem view_setComment (reader : Reader σ) (comment : Char) (skipEmpty : Bool) :
    ((reader.setComment comment).1.readFields skipEmpty).view =
      readText { delimiter := reader.options.delimiter, comment } skipEmpty reader.line
        (unread reader.source) :=
  readFields_view _ skipEmpty #[]

end Reader

/-- What a comment character does to the next line when it has another role. Whatever the role, a
physical line that starts with the comment character is dropped and counted, and the read goes on
behind it. Any other empty line is reported or passed over as asked, and any other line that is not
empty is read alike by both ways of reading:

* the delimiter and the newline keep their roles, so the line is read as with a comment character
  that does not occur in the text;
* the quote opens no field, so the line ends with its physical line and is split at the delimiters in
  front of its first quote;
* the carriage return ends the line as a comment unless it stands between quotes, so the line is read
  as with another comment character in all its places. -/
theorem readFields_conflicting_comment (reader : Reader σ)
    (hdelimiter : isReserved reader.options.delimiter = false) (comment : Char) {fresh : Char}
    (hrole : isReserved fresh = false) (hother : fresh ≠ reader.options.delimiter)
    (hfresh : fresh ∉ unread reader.source) :
    let text := unread reader.source
    let delimiter := reader.options.delimiter
    let following := reader.line + 1
    let conflicting := (reader.setComment comment).1
    let plain := (reader.setComment fresh).1
    (text.head? = some comment → ∀ skipEmpty,
      (conflicting.readFields skipEmpty).view =
        ((conflicting.onText following (afterLine text)).readFields skipEmpty).view) ∧
    (text.head? ≠ some comment →
      (∀ rest, afterEmptyLine? text = some rest →
        (conflicting.readFields false).view = { fields? := some [], line := following, rest } ∧
        (conflicting.readFields true).view =
          ((conflicting.onText following rest).readFields true).view) ∧
      (afterEmptyLine? text = none →
        (conflicting.readFields true).view = (conflicting.readFields false).view) ∧
      (comment = delimiter ∨ comment = '\n' →
        (conflicting.readFields false).view = (plain.readFields false).view) ∧
      (comment = quote → text ≠ [] → afterEmptyLine? text = none →
        (conflicting.readFields false).view =
          { fields? := some (plainFields ((textBeforeQuote text).splitOn delimiter))
            line := following
            rest := afterLine text }) ∧
      (comment = '\r' →
        (conflicting.readFields false).view =
          ((plain.onText reader.line (text.map (hideReturn fresh))).readFields false).view.map
            (restoreReturn fresh))) := by
  intro text delimiter following conflicting plain
  have hconflicting := fun skipEmpty ↦ reader.view_setComment comment skipEmpty
  have hplain := reader.view_setComment fresh false
  refine ⟨fun hcomment skipEmpty ↦ ?_, fun hcomment ↦ ⟨fun rest hrest ↦ ?_, fun hempty ↦ ?_,
    fun hfree ↦ ?_, fun hquote htext hempty ↦ ?_, fun hreturn ↦ ?_⟩⟩
  · -- the line starts with the comment character
    obtain ⟨rest, hrest⟩ := List.head?_eq_some_iff.mp hcomment
    rw [hconflicting, Reader.view_onText]
    change readText _ _ _ text = _
    rw [hrest]
    exact readText_comment { delimiter, comment } skipEmpty reader.line rest
  · -- an empty line
    rw [hconflicting, hconflicting, Reader.view_onText]
    exact ⟨readText_empty false reader.line hcomment hrest,
      readText_empty true reader.line hcomment hrest⟩
  · -- the flag makes no difference
    rw [hconflicting, hconflicting]
    exact readText_skipEmpty hcomment hempty reader.line
  · -- the delimiter or the newline
    rw [hconflicting, hplain]
    exact readText_free_comment hfresh hfree hcomment reader.line
  · -- the quote
    rw [hconflicting]
    exact readText_quote_comment hquote hdelimiter hcomment hempty htext reader.line
  · -- the carriage return
    subst hreturn
    rw [hconflicting, Reader.view_onText]
    exact readText_return_comment hdelimiter hrole hother hfresh hcomment reader.line

/-- One line read with the carriage return, the quote and the delimiter as comment character. -/
theorem readFields_conflicting_comment_of_three_roles :
    let reader : Reader TextSource := { source := .ofText "a,\"b\rc\",d\"\re\nf" }
    let read (comment : Char) := ((reader.setComment comment).1.readFields false).view
    isReserved reader.options.delimiter = false ∧ isReserved '%' = false ∧
      '%' ≠ reader.options.delimiter ∧ '%' ∉ unread reader.source ∧
      read '\r' =
        { fields? := some [{ text := "a" }, { text := "b\rc", quoted := true }, { text := "d\"" }]
          line := 1
          rest := ['f'] } ∧
      read quote = { fields? := some [{ text := "a" }, {}], line := 1, rest := ['f'] } ∧
      read ',' =
        { fields? := some
            [{ text := "a" }, { text := "b\rc", quoted := true }, { text := "d\"\re" }]
          line := 1
          rest := ['f'] } := by
  intro reader read
  have hfresh : '%' ∉ unread reader.source := by decide +kernel
  have hread (comment : Char) :=
    readFields_conflicting_comment reader (by decide) comment (by decide : isReserved '%' = false)
      (by decide) hfresh
  have hfirst (comment : Char) (hcomment : comment ≠ 'a') :
      (unread reader.source).head? ≠ some comment := fun h ↦ hcomment (Option.some.inj h).symm
  refine ⟨by decide, by decide, by decide, hfresh, ?_, ?_, ?_⟩
  · obtain ⟨-, -, -, -, hreturn⟩ := (hread '\r').2 (hfirst _ (by decide))
    exact (hreturn rfl).trans (by decide +kernel)
  · obtain ⟨-, -, -, hquote, -⟩ := (hread quote).2 (hfirst _ (by decide))
    exact (hquote rfl (by decide +kernel) (by decide +kernel)).trans (by decide +kernel)
  · obtain ⟨-, -, hfree, -, -⟩ := (hread ',').2 (hfirst _ (by decide))
    exact (hfree (.inl rfl)).trans (by decide +kernel)

end Delimited
