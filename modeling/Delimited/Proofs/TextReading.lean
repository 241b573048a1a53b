import Delimited.Reader

/-!
# Reading as a function of the unread text

What a read gives, and what it leaves unread, depends on a source only through the characters it
has yet to hand out. `scanText` and `readText` say how: they scan and read a list of characters.
`scanLine_view` and `readFields_view` equate them with scanning and reading over any source.
-/

namespace Delimited

/-- The text behind the first newline; nothing if there is no newline. -/
def afterLine : List Char → List Char
  | [] => []
  | char :: rest => if char = '\n' then rest else afterLine rest

/-- The text behind an empty line that starts a text, if one does. -/
def afterEmptyLine? : List Char → Option (List Char)
  | '\n' :: rest => some rest
  | '\r' :: '\n' :: rest => some rest
  | _ => none

/-- A logical line scanned from a text. -/
structure ScannedText where
  fields : List Field
  /-- How many further physical lines quoted newlines have opened. -/
  continuations : Nat
  /-- The text behind the line. -/
  rest : List Char
  deriving DecidableEq, Repr

/-- The outcome of one read from a text. -/
structure TextReading where
  /-- The fields of the logical line; no line is left if there is none. -/
  fields? : Option (List Field)
  /-- The line counter. -/
  line : Nat
  /-- The text behind the line. -/
  rest : List Char
  deriving DecidableEq, Repr

/-- The line that ends in front of a text. -/
def LineScan.stop (scan : LineScan) (rest : List Char) : ScannedText :=
  { fields := scan.allFields, continuations := scan.continuations, rest }

/-- Scan on in a text. -/
def scanText (dialect : Dialect) (scan : LineScan) : List Char → ScannedText
  | [] => scan.stop []
  | char :: rest =>
      if scan.place = .quoted then
        if char = quote then
          match rest with
          | '"' :: rest => scanText dialect (scan.push quote .quoted) rest
          | rest => scanText dialect scan.closeQuote rest
        else if char = '\n' then
          let opened := if rest.isEmpty then 0 else 1
          scanText dialect
            { scan.push char .quoted with continuations := scan.continuations + opened } rest
        else scanText dialect (scan.push char .quoted) rest
      else if char = dialect.delimiter then scanText dialect scan.nextField rest
      else if char = '\n' then scan.stop rest
      else if char = '\r' ∧ rest.head? = some '\n' then scan.stop rest.tail
      else if char = dialect.comment then scan.stop (afterLine rest)
      else if char = quote ∧ scan.place = .fieldStart then scanText dialect scan.openQuote rest
      else scanText dialect (scan.push char .plain) rest

/-- Between quotes, two quotes stand for one. -/
theorem scanText_pair (dialect : Dialect) {scan : LineScan} (hplace : scan.place = .quoted)
    (rest : List Char) :
    scanText dialect scan (quote :: quote :: rest) =
      scanText dialect (scan.push quote .quoted) rest := by
  rw [scanText.eq_def]
  simp [hplace, quote]

/-- A quote that no other quote follows closes quoted text. -/
theorem scanText_close (dialect : Dialect) {scan : LineScan} (hplace : scan.place = .quoted)
    {rest : List Char} (hrest : rest.head? ≠ some quote) :
    scanText dialect scan (quote :: rest) = scanText dialect scan.closeQuote rest := by
  rw [scanText.eq_def]
  simp only [hplace, if_true]
  split
  · exact absurd rfl hrest
  · rfl

/-- Between quotes everything but the quote is text. -/
theorem scanText_quoted (dialect : Dialect) {scan : LineScan} (hplace : scan.place = .quoted)
    {char : Char} (hquote : char ≠ quote) (rest : List Char) :
    scanText dialect scan (char :: rest) =
      if char = '\n' then
        scanText dialect
          { scan.push char .quoted with
            continuations := scan.continuations + if rest.isEmpty then 0 else 1 } rest
      else scanText dialect (scan.push char .quoted) rest := by
  rw [scanText.eq_def]
  simp only [hplace, if_true, if_neg hquote]

/-- What a scan outside quotes makes of a character. -/
theorem scanText_plain (dialect : Dialect) {scan : LineScan} (hplace : scan.place ≠ .quoted)
    (char : Char) (rest : List Char) :
    scanText dialect scan (char :: rest) =
      if char = dialect.delimiter then scanText dialect scan.nextField rest
      else if char = '\n' then scan.stop rest
      else if char = '\r' ∧ rest.head? = some '\n' then scan.stop rest.tail
      else if char = dialect.comment then scan.stop (afterLine rest)
      else if char = quote ∧ scan.place = .fieldStart then scanText dialect scan.openQuote rest
      else scanText dialect (scan.push char .plain) rest := by
  rw [scanText.eq_def]
  simp only [if_neg hplace]

/-- A scan gives at least one field. -/
theorem fields_scanText_ne_nil (dialect : Dialect) (scan : LineScan) (text : List Char) :
    (scanText dialect scan text).fields ≠ [] := by
  fun_induction scanText dialect scan text with
  | case1 | case7 | case8 | case9 => simp [LineScan.stop, LineScan.allFields]
  | _ => assumption

/-- The text behind a line is an end of the text. -/
theorem afterLine_suffix (text : List Char) : afterLine text <:+ text := by
  induction text with
  | nil => exact List.suffix_rfl
  | cons char rest ih =>
      rw [afterLine]
      split
      · exact List.suffix_cons char rest
      · exact ih.trans (List.suffix_cons char rest)

/-- Dropping a line never lengthens a text. -/
theorem length_afterLine_le (text : List Char) : (afterLine text).length ≤ text.length :=
  (afterLine_suffix text).length_le

/-- Dropping a line shortens a text that is not empty. -/
theorem length_afterLine_cons_lt (first : Char) (rest : List Char) :
    (afterLine (first :: rest)).length < (first :: rest).length := by
  have hle := length_afterLine_le rest
  simp only [afterLine]
  split
  · simp
  · simp only [List.length_cons]
    omega

/-- What the first character says about an empty line. -/
theorem afterEmptyLine?_cons (first : Char) (rest : List Char) :
    afterEmptyLine? (first :: rest) =
      if first = '\n' then some rest
      else if first = '\r' ∧ rest.head? = some '\n' then some rest.tail
      else none := by
  by_cases hnewline : first = '\n'
  · simp [hnewline, afterEmptyLine?]
  by_cases hbreak : first = '\r' ∧ rest.head? = some '\n'
  · obtain ⟨rfl, hhead⟩ := hbreak
    obtain ⟨behind, rfl⟩ := List.head?_eq_some_iff.mp hhead
    rfl
  · rw [if_neg hnewline, if_neg hbreak]
    unfold afterEmptyLine?
    split <;> simp_all

/-- Dropping an empty line shortens a text. -/
theorem length_afterEmptyLine?_lt {text behind : List Char}
    (h : afterEmptyLine? text = some behind) : behind.length < text.length := by
  unfold afterEmptyLine? at h
  split at h <;> grind

/-- Read the next logical line of a text, when this many lines come before it. -/
def readText (dialect : Dialect) (skipEmpty : Bool) (line : Nat) (text : List Char) :
    TextReading :=
  match text with
  | [] => { fields? := none, line, rest := [] }
  | first :: rest =>
      if first = dialect.comment then
        readText dialect skipEmpty (line + 1) (afterLine (first :: rest))
      else
        match _h : afterEmptyLine? (first :: rest) with
        | some behind =>
            if skipEmpty then readText dialect skipEmpty (line + 1) behind
            else { fields? := some [], line := line + 1, rest := behind }
        | none =>
            let scanned := scanText dialect {} (first :: rest)
            { fields? := some scanned.fields
              line := line + 1 + scanned.continuations
              rest := scanned.rest }
termination_by text.length
decreasing_by
  · exact length_afterLine_cons_lt first rest
  · exact length_afterEmptyLine?_lt _h

/-- At the end of a text no line is left. -/
@[simp] theorem readText_nil (dialect : Dialect) (skipEmpty : Bool) (line : Nat) :
    readText dialect skipEmpty line [] = { fields? := none, line, rest := [] } := by
  rw [readText]

/-- A comment line is passed over. -/
theorem readText_comment (dialect : Dialect) (skipEmpty : Bool) (line : Nat) (rest : List Char) :
    readText dialect skipEmpty line (dialect.comment :: rest) =
      readText dialect skipEmpty (line + 1) (afterLine (dialect.comment :: rest)) := by
  rw [readText, if_pos rfl]

/-- An empty line is passed over or reported. -/
theorem readText_empty {dialect : Dialect} (skipEmpty : Bool) (line : Nat) {text behind : List Char}
    (hcomment : text.head? ≠ some dialect.comment) (hempty : afterEmptyLine? text = some behind) :
    readText dialect skipEmpty line text =
      if skipEmpty then readText dialect skipEmpty (line + 1) behind
      else { fields? := some [], line := line + 1, rest := behind } := by
  cases text with
  | nil => simp [afterEmptyLine?] at hempty
  | cons first rest =>
      rw [readText, if_neg (by simpa using hcomment)]
      split <;> simp_all

/-- Any other line is scanned. -/
theorem readText_logical {dialect : Dialect} (skipEmpty : Bool) (line : Nat) {text : List Char}
    (hcomment : text.head? ≠ some dialect.comment) (hempty : afterEmptyLine? text = none)
    (htext : text ≠ []) :
    readText dialect skipEmpty line text =
      { fields? := some (scanText dialect {} text).fields
        line := line + 1 + (scanText dialect {} text).continuations
        rest := (scanText dialect {} text).rest } := by
  cases text with
  | nil => exact absurd rfl htext
  | cons first rest =>
      rw [readText, if_neg (by simpa using hcomment)]
      split <;> simp_all

/-- Lines that were counted before change nothing but the counter. -/
theorem readText_add (dialect : Dialect) (skipEmpty : Bool) (line before : Nat) (text : List Char) :
    readText dialect skipEmpty (line + before) text =
      { readText dialect skipEmpty line text with
        line := (readText dialect skipEmpty line text).line + before } := by
  fun_induction readText dialect skipEmpty line text with
  | case1 line => rw [readText_nil]
  | case2 line rest ih =>
      rw [readText_comment, Nat.add_right_comm, ih]
  | case3 line first rest hcomment behind hempty hskip ih =>
      rw [readText_empty skipEmpty _ (by simpa using hcomment) hempty, if_pos hskip,
        Nat.add_right_comm, ih]
  | case4 line first rest hcomment behind hempty hkeep =>
      rw [readText_empty skipEmpty _ (by simpa using hcomment) hempty, if_neg hkeep,
        Nat.add_right_comm]
  | case5 line first rest hcomment hempty scanned =>
      rw [readText_logical skipEmpty _ (by simpa using hcomment) hempty (by simp)]
      simp only [scanned, TextReading.mk.injEq, true_and, and_true]
      omega

variable {σ : Type} [CharSource σ]

open CharSource (unread)

/-- A character that a source hands out comes off the front of its unread text. -/
theorem CharSource.unread_eq_cons {source : σ} {char : Char}
    (h : (CharSource.next source).char = some char) :
    unread source = char :: unread (CharSource.next source).source := by
  rw [char_next] at h
  obtain ⟨rest, hrest⟩ := List.head?_eq_some_iff.mp h
  rw [unread_next, hrest, List.tail_cons]

/-- A source that hands out no character has none left. -/
theorem CharSource.unread_eq_nil {source : σ} (h : (CharSource.next source).char = none) :
    unread source = [] := by
  rwa [char_next, List.head?_eq_none_iff] at h

/-- A scanned line, with the text its source leaves unread. -/
def ScannedLine.view (scanned : ScannedLine σ) : ScannedText :=
  { fields := scanned.fields
    continuations := scanned.continuations
    rest := unread scanned.source }

/-- A reading, with the text its source leaves unread. -/
def Reading.view (reading : Reading σ) : TextReading :=
  { fields? := reading.fields?
    line := reading.reader.line
    rest := unread reading.reader.source }

/-- Taking characters up to the next newline leaves the text behind the line. -/
theorem unread_skipLine (source : σ) (events : Array Event) :
    unread (skipLine source events).source = afterLine (unread source) := by
  fun_induction skipLine source events with
  | case1 source events pull events' hend =>
      have hnil := CharSource.unread_eq_nil hend
      simp [pull, hnil, afterLine]
  | case2 source events pull events' hnext =>
      rw [CharSource.unread_eq_cons hnext, afterLine, if_pos rfl]
  | case3 source events pull events' char hnext hne ih =>
      rw [ih, CharSource.unread_eq_cons hnext, afterLine, if_neg hne]

/-- How a line goes on after a character, when its source is a text. -/
def Reaction.resume (dialect : Dialect) (reaction : Reaction σ) : ScannedText :=
  if reaction.finished then reaction.scan.stop (unread reaction.source)
  else scanText dialect reaction.scan (unread reaction.source)

namespace LineScan

/-- Scanning on between quotes starts with the reaction to the next character. -/
theorem resume_reactQuoted (dialect : Dialect) {scan : LineScan} (hplace : scan.place = .quoted)
    (char : Char) (source : σ) :
    (scan.reactQuoted char source).resume dialect =
      scanText dialect scan (char :: unread source) := by
  unfold reactQuoted
  by_cases hquote : char = quote
  · subst hquote
    rw [if_pos rfl]
    by_cases hahead : (unread source).head? = some quote
    · obtain ⟨rest, hrest⟩ := List.head?_eq_some_iff.mp hahead
      rw [hrest, scanText_pair dialect hplace]
      simp [hrest, Reaction.resume]
    · rw [scanText_close dialect hplace hahead]
      simp [hahead, Reaction.resume]
  · rw [if_neg hquote, scanText_quoted dialect hplace hquote]
    by_cases hnewline : char = '\n'
    · rw [if_pos hnewline, if_pos hnewline]
      cases hunread : unread source <;> simp [Reaction.resume, hunread]
    · rw [if_neg hnewline, if_neg hnewline]
      rfl

/-- Scanning on with text starts with the reaction to it. -/
theorem resume_reactText (dialect : Dialect) (scan : LineScan) (char : Char) (source : σ) :
    (scan.reactText dialect char source).resume dialect =
      if char = dialect.comment then scan.stop (afterLine (unread source))
      else if char = quote ∧ scan.place = .fieldStart then
        scanText dialect scan.openQuote (unread source)
      else scanText dialect (scan.push char .plain) (unread source) := by
  unfold reactText
  split
  · simp [Reaction.resume, unread_skipLine]
  · split <;> rfl

/-- Scanning on outside quotes starts with the reaction to the next character. -/
theorem resume_reactPlain (dialect : Dialect) {scan : LineScan} (hplace : scan.place ≠ .quoted)
    (char : Char) (source : σ) :
    (scan.reactPlain dialect char source).resume dialect =
      scanText dialect scan (char :: unread source) := by
  unfold reactPlain
  rw [scanText_plain dialect hplace]
  by_cases hdelimiter : char = dialect.delimiter
  · rw [if_pos hdelimiter, if_pos hdelimiter]
    rfl
  rw [if_neg hdelimiter, if_neg hdelimiter]
  by_cases hnewline : char = '\n'
  · rw [if_pos hnewline, if_pos hnewline]
    rfl
  rw [if_neg hnewline, if_neg hnewline]
  by_cases hreturn : char = '\r'
  · rw [if_pos hreturn]
    by_cases hahead : (unread source).head? = some '\n'
    · simp [hahead, hreturn, Reaction.resume]
    · have htext := resume_reactText dialect scan char (CharSource.peek source).source
      rw [CharSource.unread_peek] at htext
      simp only [CharSource.char_peek, hahead, if_false, and_false]
      exact htext
  · rw [if_neg hreturn, if_neg (fun h ↦ hreturn h.1)]
    exact resume_reactText dialect scan char source

/-- Scanning on starts with the reaction to the next character. -/
theorem resume_react (dialect : Dialect) (scan : LineScan) (char : Char) (source : σ) :
    (scan.react dialect char source).resume dialect =
      scanText dialect scan (char :: unread source) := by
  unfold react
  split
  · exact resume_reactQuoted dialect (by assumption) char source
  · exact resume_reactPlain dialect (by simp [*]) char source
  · exact resume_reactPlain dialect (by simp [*]) char source

end LineScan

/-- Scanning a line over a source is scanning its unread text. -/
theorem scanLine_view (dialect : Dialect) (scan : LineScan) (char : Char) (source : σ)
    (events : Array Event) :
    (scanLine dialect scan char source events).view =
      scanText dialect scan (char :: unread source) := by
  fun_induction scanLine dialect scan char source events with
  | case1 scan char source events reaction events' hfinished =>
      rw [← LineScan.resume_react, Reaction.resume, if_pos hfinished]
      rfl
  | case2 scan char source events reaction events' hopen pull events'' hend =>
      have hnil := CharSource.unread_eq_nil hend
      have hrest : unread pull.source = [] := by simp [pull, hnil]
      rw [← LineScan.resume_react, Reaction.resume, if_neg hopen, hnil, scanText]
      simp only [ScannedLine.view, hrest]
      rfl
  | case3 scan char source events reaction events' hopen pull events'' following hnext ih =>
      rw [ih, ← LineScan.resume_react dialect scan, Reaction.resume, if_neg hopen,
        CharSource.unread_eq_cons hnext]

/-- The test for an empty line finds one where the text starts with one, and takes no more than
that line. -/
theorem LineEnd.ofFirst_eq (first : Char) (source : σ) :
    (LineEnd.ofFirst first source).empty = (afterEmptyLine? (first :: unread source)).isSome ∧
      unread (LineEnd.ofFirst first source).source =
        (afterEmptyLine? (first :: unread source)).getD (unread source) := by
  unfold ofFirst
  by_cases hnewline : first = '\n'
  · simp [hnewline, afterEmptyLine?]
  rw [if_neg hnewline]
  by_cases hreturn : first = '\r'
  · subst hreturn
    rw [if_pos rfl]
    cases hunread : unread source with
    | nil => simp [hunread, afterEmptyLine?]
    | cons second rest =>
        by_cases hsecond : second = '\n'
        · simp [hunread, hsecond, afterEmptyLine?]
        · simp [hunread, hsecond, afterEmptyLine?]
  · rw [if_neg hreturn]
    simp [hnewline, hreturn, afterEmptyLine?]

/-- Where the test finds an empty line, it takes that line off the text. -/
theorem LineEnd.afterEmptyLine?_of_empty {first : Char} {source : σ}
    (h : (LineEnd.ofFirst first source).empty = true) :
    afterEmptyLine? (first :: unread source) =
      some (unread (LineEnd.ofFirst first source).source) := by
  obtain ⟨hfound, hbehind⟩ := LineEnd.ofFirst_eq first source
  obtain ⟨behind, hafter⟩ := Option.isSome_iff_exists.mp (hfound.symm.trans h)
  rw [hbehind, hafter, Option.getD_some]

/-- Where the test finds no empty line, it takes nothing. -/
theorem LineEnd.afterEmptyLine?_of_not_empty {first : Char} {source : σ}
    (h : ¬ (LineEnd.ofFirst first source).empty = true) :
    afterEmptyLine? (first :: unread source) = none ∧
      unread (LineEnd.ofFirst first source).source = unread source := by
  obtain ⟨hfound, hbehind⟩ := LineEnd.ofFirst_eq first source
  have hafter : afterEmptyLine? (first :: unread source) = none := by
    rwa [← Option.not_isSome_iff_eq_none, ← hfound]
  rw [hafter, Option.getD_none] at hbehind
  exact ⟨hafter, hbehind⟩

namespace Reader

/-- Reading over a source is reading its unread text. -/
theorem readFields_view (reader : Reader σ) (skipEmpty : Bool) (events : Array Event) :
    (reader.readFields skipEmpty events).view =
      readText reader.options.dialect skipEmpty reader.line (unread reader.source) := by
  fun_induction readFields reader skipEmpty events with
  | case1 reader events pull events' hend =>
      have hnil := CharSource.unread_eq_nil hend
      rw [hnil, readText_nil]
      simp [Reading.view, pull, hnil]
  | case2 reader events pull events' line events'' hnext hnewline ih =>
      have hcomment := readText_comment reader.options.dialect skipEmpty reader.line
        (unread pull.source)
      rw [afterLine, if_pos (by simpa using hnewline), Options.dialect_comment] at hcomment
      rw [ih, CharSource.unread_eq_cons hnext, hcomment]
  | case3 reader events pull events' line events'' skipped hnext hnewline ih =>
      have hcomment := readText_comment reader.options.dialect skipEmpty reader.line
        (unread pull.source)
      rw [afterLine, if_neg (by simpa using hnewline), Options.dialect_comment] at hcomment
      rw [ih, CharSource.unread_eq_cons hnext, hcomment, ← unread_skipLine pull.source #[]]
  | case4 reader events pull events' first hnext line hcomment lineEnd events'' hempty hskip ih =>
      have hafter := LineEnd.afterEmptyLine?_of_empty hempty
      rw [ih, CharSource.unread_eq_cons hnext,
        readText_empty skipEmpty reader.line (by simpa using hcomment) hafter, if_pos hskip]
  | case5 reader events pull events' first hnext line hcomment lineEnd events'' hempty hkeep =>
      have hafter := LineEnd.afterEmptyLine?_of_empty hempty
      rw [CharSource.unread_eq_cons hnext,
        readText_empty skipEmpty reader.line (by simpa using hcomment) hafter, if_neg hkeep]
      rfl
  | case6 reader events pull events' first hnext line hcomment lineEnd events'' hempty scanned =>
      obtain ⟨hafter, hbehind⟩ := LineEnd.afterEmptyLine?_of_not_empty hempty
      have hscanned := scanLine_view reader.options.dialect {} first lineEnd.source #[]
      rw [hbehind] at hscanned
      rw [CharSource.unread_eq_cons hnext,
        readText_logical skipEmpty reader.line (by simpa using hcomment) hafter (by simp),
        ← hscanned]
      rfl

/-- The fields that are read depend on the unread text alone. -/
theorem fields?_readFields (reader : Reader σ) (skipEmpty : Bool) :
    (reader.readFields skipEmpty).fields? =
      (readText reader.options.dialect skipEmpty reader.line (unread reader.source)).fields? :=
  congrArg TextReading.fields? (reader.readFields_view skipEmpty #[])

/-- The line counter after a read depends on the unread text and the counter before. -/
theorem line_readFields (reader : Reader σ) (skipEmpty : Bool) :
    (reader.readFields skipEmpty).reader.line =
      (readText reader.options.dialect skipEmpty reader.line (unread reader.source)).line :=
  congrArg TextReading.line (reader.readFields_view skipEmpty #[])

/-- What a read leaves unread depends on the unread text alone. -/
theorem unread_readFields (reader : Reader σ) (skipEmpty : Bool) :
    unread (reader.readFields skipEmpty).reader.source =
      (readText reader.options.dialect skipEmpty reader.line (unread reader.source)).rest :=
  congrArg TextReading.rest (reader.readFields_view skipEmpty #[])

/-- Reading keeps the options. -/
@[simp] theorem options_readFields (reader : Reader σ) (skipEmpty : Bool) (events : Array Event) :
    (reader.readFields skipEmpty events).reader.options = reader.options := by
  fun_induction readFields reader skipEmpty events with
  | case1 => rfl
  | case2 _ _ _ _ _ _ _ _ ih => exact ih
  | case3 _ _ _ _ _ _ _ _ _ ih => exact ih
  | case4 _ _ _ _ _ _ _ _ _ _ _ _ ih => exact ih
  | case5 => rfl
  | case6 => rfl

end Reader

end Delimited
