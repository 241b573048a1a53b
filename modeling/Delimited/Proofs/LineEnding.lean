import Delimited.Proofs.Fetching

/-!
# Where reads leave a source of lines

A read takes physical lines whole: what it takes last is a newline, or nothing was left to take.
Each look ahead that goes past the end of a physical line is made while the logical line goes on, so
nothing is in hand behind a read: `Reader.rests_readFields`. For the same reason the source is not
finished by a read that finds a line ended by a newline outside quotes, which `findsEndedLine`
decides from the text.
-/

namespace Delimited

open CharSource (unread)

/-- From a place in a line on, a newline outside quotes ends the line. -/
def endsOutsideQuotes (dialect : Dialect) (place : Place) : List Char → Bool
  | [] => false
  | char :: rest =>
      if place = .quoted then
        if char = quote then
          match rest with
          | '"' :: rest => endsOutsideQuotes dialect .quoted rest
          | rest => endsOutsideQuotes dialect .plain rest
        else endsOutsideQuotes dialect .quoted rest
      else if char = dialect.delimiter then endsOutsideQuotes dialect .fieldStart rest
      else if char = '\n' then true
      else if char = '\r' ∧ rest.head? = some '\n' then true
      else if char = dialect.comment then rest.contains '\n'
      else if char = quote ∧ place = .fieldStart then endsOutsideQuotes dialect .quoted rest
      else endsOutsideQuotes dialect .plain rest

/-- Between quotes, two quotes stand for one. -/
theorem endsOutsideQuotes_pair (dialect : Dialect) (rest : List Char) :
    endsOutsideQuotes dialect .quoted (quote :: quote :: rest) =
      endsOutsideQuotes dialect .quoted rest := by
  rw [endsOutsideQuotes.eq_def]
  simp [quote]

/-- A quote that no other quote follows closes quoted text. -/
theorem endsOutsideQuotes_close (dialect : Dialect) {rest : List Char}
    (hrest : rest.head? ≠ some quote) :
    endsOutsideQuotes dialect .quoted (quote :: rest) = endsOutsideQuotes dialect .plain rest := by
  rw [endsOutsideQuotes.eq_def]
  simp only [if_true]
  split
  · exact absurd rfl hrest
  · rfl

/-- Between quotes everything but the quote is text. -/
theorem endsOutsideQuotes_quoted (dialect : Dialect) {char : Char} (hquote : char ≠ quote)
    (rest : List Char) :
    endsOutsideQuotes dialect .quoted (char :: rest) = endsOutsideQuotes dialect .quoted rest := by
  rw [endsOutsideQuotes.eq_def]
  simp only [if_true, if_neg hquote]

/-- What a character outside quotes does to the end of a line. -/
theorem endsOutsideQuotes_plain (dialect : Dialect) {place : Place} (hplace : place ≠ .quoted)
    (char : Char) (rest : List Char) :
    endsOutsideQuotes dialect place (char :: rest) =
      if char = dialect.delimiter then endsOutsideQuotes dialect .fieldStart rest
      else if char = '\n' then true
      else if char = '\r' ∧ rest.head? = some '\n' then true
      else if char = dialect.comment then rest.contains '\n'
      else if char = quote ∧ place = .fieldStart then endsOutsideQuotes dialect .quoted rest
      else endsOutsideQuotes dialect .plain rest := by
  rw [endsOutsideQuotes.eq_def]
  simp only [if_neg hplace]

/-- A read finds a line that is ended by a newline outside quotes. -/
def findsEndedLine (dialect : Dialect) (skipEmpty : Bool) (text : List Char) : Bool :=
  match text with
  | [] => false
  | first :: rest =>
      if first = dialect.comment then findsEndedLine dialect skipEmpty (afterLine (first :: rest))
      else
        match _h : afterEmptyLine? (first :: rest) with
        | some behind => if skipEmpty then findsEndedLine dialect skipEmpty behind else true
        | none => endsOutsideQuotes dialect .fieldStart (first :: rest)
termination_by text.length
decreasing_by
  · exact length_afterLine_cons_lt first rest
  · exact length_afterEmptyLine?_lt _h

@[simp] theorem findsEndedLine_nil (dialect : Dialect) (skipEmpty : Bool) :
    findsEndedLine dialect skipEmpty [] = false := by
  rw [findsEndedLine]

/-- A comment line is passed over. -/
theorem findsEndedLine_comment (dialect : Dialect) (skipEmpty : Bool) (rest : List Char) :
    findsEndedLine dialect skipEmpty (dialect.comment :: rest) =
      findsEndedLine dialect skipEmpty (afterLine (dialect.comment :: rest)) := by
  rw [findsEndedLine, if_pos rfl]

/-- An empty line is passed over or ended by its newline. -/
theorem findsEndedLine_empty {dialect : Dialect} (skipEmpty : Bool) {first : Char}
    {rest behind : List Char} (hcomment : first ≠ dialect.comment)
    (hempty : afterEmptyLine? (first :: rest) = some behind) :
    findsEndedLine dialect skipEmpty (first :: rest) =
      if skipEmpty then findsEndedLine dialect skipEmpty behind else true := by
  rw [findsEndedLine, if_neg hcomment]
  split <;> simp_all

/-- Any other line is looked through. -/
theorem findsEndedLine_logical {dialect : Dialect} (skipEmpty : Bool) {first : Char}
    {rest : List Char} (hcomment : first ≠ dialect.comment)
    (hempty : afterEmptyLine? (first :: rest) = none) :
    findsEndedLine dialect skipEmpty (first :: rest) =
      endsOutsideQuotes dialect .fieldStart (first :: rest) := by
  rw [findsEndedLine, if_neg hcomment]
  split <;> simp_all

namespace ByteStream

/-- Reading on takes no byte behind a newline. -/
theorem newline_notMem_readOn {held : List UInt8} (hheld : newline ∉ held) (capacity : Nat)
    (events : List StreamEvent) : newline ∉ (readOn capacity held events).1.bytes.dropLast := by
  fun_induction readOn capacity held events with
  | case1 | case2 | case3 | case5 => exact fun hmem ↦ hheld (List.dropLast_subset _ hmem)
  | case4 held events ih => exact ih hheld
  | case6 held bytes events hcapacity hsplit ih =>
      have hbytes := newline_notMem_of_splitLine hsplit
      exact ih (by simp [hheld, hbytes])
  | case7 held bytes events hcapacity line rest hsplit left =>
      obtain ⟨front, rfl, hfront⟩ := splitLine_eq_some hsplit
      rw [← List.append_assoc, List.dropLast_concat]
      simp [hheld, hfront]

/-- A segment has no byte behind a newline. -/
theorem newline_notMem_readSegment (stream : ByteStream) :
    newline ∉ stream.readSegment.1.bytes.dropLast := by
  unfold readSegment
  split
  · rename_i line rest hsplit
    obtain ⟨front, rfl, hfront⟩ := splitLine_eq_some hsplit
    rwa [List.dropLast_concat]
  · rename_i hsplit
    exact newline_notMem_readOn (newline_notMem_of_splitLine hsplit) _ _

end ByteStream

/-- A text has a character behind a newline only if its UTF-8 form has a byte there. -/
theorem newline_mem_utf8_dropLast {chars : List Char} (h : '\n' ∈ chars.dropLast) :
    ByteStream.newline ∈ (utf8 chars).dropLast := by
  have hne : chars ≠ [] := by
    rintro rfl
    simp at h
  have hlast : utf8 [chars.getLast hne] ≠ [] := by
    intro hnil
    have hlength := congrArg List.length hnil
    have hpos := (chars.getLast hne).utf8Size_pos
    rw [length_utf8_singleton, List.length_nil] at hlength
    omega
  rw [← List.dropLast_concat_getLast hne, utf8_append, List.dropLast_append_of_ne_nil hlast]
  refine List.mem_append_left _ (List.mem_flatMap.mpr ⟨'\n', h, ?_⟩)
  decide

/-- A line that is read has no character behind a newline. -/
theorem ByteStream.newline_notMem_text {stream : ByteStream} {text : String}
    (h : stream.readSegment.1.text? = some text) : '\n' ∉ text.toList.dropLast := by
  intro hmem
  have hbytes := stream.newline_notMem_readSegment
  rw [Segment.bytes_eq_utf8 h] at hbytes
  exact hbytes (newline_mem_utf8_dropLast hmem)

namespace LineSource

/-- Only the last character in hand can be a newline, and behind the end nothing is in hand. -/
structure Tidy (source : LineSource) : Prop where
  newline : '\n' ∉ source.held.dropLast
  held_of_finished : source.finished = true → source.held = []

/-- A line that is done with: nothing is in hand, and the source is not finished if the line was
ended. -/
structure Rests (ended : Bool) (source : LineSource) : Prop where
  held : source.held = []
  finished : source.finished = !ended

/-- With nothing in hand a source is tidy. -/
theorem tidy_of_held {source : LineSource} (h : source.held = []) : source.Tidy :=
  ⟨by simp [h], fun _ ↦ h⟩

/-- The character was just taken. -/
structure Took (char : Char) (source : LineSource) : Prop where
  tidy : source.Tidy
  newline : char = '\n' → source.Rests true

/-- A source stays tidy at each step. -/
theorem Tidy.step {source after : LineSource} {failure : Option StreamError}
    (hstep : source.Step failure after) (h : source.Tidy) : after.Tidy := by
  cases hstep with
  | @line text hheld hopen htext =>
      refine ⟨?_, fun hfinished ↦ absurd hfinished (by simp [hopen])⟩
      simpa [held] using ByteStream.newline_notMem_text htext
  | stop => exact tidy_of_held (by simp [held])
  | @advance char rest hheld =>
      have hrest := charsFrom_advance hheld
      have hnewline := h.newline
      rw [hheld] at hnewline
      refine ⟨?_, fun hfinished ↦ ?_⟩
      · simp only [held, hrest]
        cases rest with
        | nil => simp
        | cons second others => exact fun hmem ↦ hnewline (List.mem_cons_of_mem char hmem)
      · rw [h.held_of_finished hfinished] at hheld
        exact absurd hheld (by simp)

/-- Requests for characters keep a source tidy. -/
theorem tidy_invariant : SourceInvariant Tidy :=
  invariant_of_step fun hstep h ↦ h.step hstep

/-- A character that a tidy source hands out was just taken. -/
theorem Tidy.next {source : LineSource} (h : source.Tidy) {char : Char}
    (hchar : (CharSource.next source).char = some char) :
    Took char (CharSource.next source).source := by
  refine ⟨tidy_invariant.next source h, ?_⟩
  rintro rfl
  have hfilled : source.fill.1.Tidy := tidy_invariant.peek source h
  change source.next.char = some '\n' at hchar
  show Rests true source.next.source
  cases hheld : source.fill.1.held with
  | nil =>
      rw [next_of_nil hheld] at hchar
      exact absurd hchar (by simp)
  | cons first rest =>
      rw [next_of_cons hheld] at hchar ⊢
      obtain rfl := Option.some.inj hchar
      -- the newline is the last character of its line, and a finished source holds no line
      have hrest : rest = [] := by
        have hnewline := hfilled.newline
        rw [hheld] at hnewline
        cases rest with
        | nil => rfl
        | cons second others => exact absurd List.mem_cons_self hnewline
      have hopen : source.fill.1.finished = false := by
        rw [← Bool.not_eq_true]
        intro hfinished
        rw [hfilled.held_of_finished hfinished] at hheld
        exact absurd hheld (by simp)
      refine ⟨?_, hopen⟩
      have hadvanced := charsFrom_advance hheld
      simpa [held, hrest] using hadvanced

/-- A source that hands out no character is done with, and no line was ended. -/
theorem rests_of_none {source : LineSource} (hnone : (CharSource.next source).char = none) :
    Rests false (CharSource.next source).source := by
  obtain ⟨hfinished, hheld⟩ := finished_of_none (.inl rfl) hnone
  exact ⟨hheld, hfinished⟩

/-- Behind the rest of a line nothing is in hand, and a newline in it ends the line. -/
theorem rests_skipLine {source : LineSource} (h : source.Tidy) (events : Array Event) :
    Rests ((CharSource.unread source).contains '\n') (skipLine source events).source := by
  fun_induction skipLine source events with
  | case1 source events pull events' hend =>
      rw [CharSource.unread_eq_nil hend]
      exact rests_of_none hend
  | case2 source events pull events' hnext =>
      rw [CharSource.unread_eq_cons hnext]
      simpa using (h.next hnext).newline rfl
  | case3 source events pull events' char hnext hne ih =>
      have hother : ('\n' == char) = false := beq_false_of_ne (Ne.symm hne)
      rw [CharSource.unread_eq_cons hnext, List.contains_cons, hother, Bool.false_or]
      exact ih (h.next hnext).tidy

end LineSource

/-- A reaction that leads to the end of a line, or goes on to it, with nothing left in hand there.
-/
structure Reaction.LeadsTo (dialect : Dialect) (ended : Bool) (reaction : Reaction LineSource) :
    Prop where
  rests : reaction.finished = true → reaction.source.Rests ended
  goesOn : reaction.finished = false →
    endsOutsideQuotes dialect reaction.scan.place (unread reaction.source) = ended

namespace LineScan

variable {char : Char} {source : LineSource}

/-- Between quotes a line goes on. -/
theorem leadsTo_reactQuoted (dialect : Dialect) (scan : LineScan) (char : Char)
    (source : LineSource) :
    (scan.reactQuoted char source).LeadsTo dialect
      (endsOutsideQuotes dialect .quoted (char :: unread source)) := by
  unfold reactQuoted
  by_cases hquote : char = quote
  · subst hquote
    rw [if_pos rfl]
    by_cases hahead : (unread source).head? = some quote
    · obtain ⟨rest, hrest⟩ := List.head?_eq_some_iff.mp hahead
      rw [hrest, endsOutsideQuotes_pair]
      constructor <;> simp [hrest, push]
    · rw [endsOutsideQuotes_close dialect hahead]
      constructor <;> simp [hahead, closeQuote]
  · rw [if_neg hquote, endsOutsideQuotes_quoted dialect hquote]
    by_cases hnewline : char = '\n'
    · -- the look behind a quoted newline fetches the next line, which belongs to this field
      rw [if_pos hnewline]
      constructor <;> simp [push]
    · rw [if_neg hnewline]
      constructor <;> simp [push]

/-- A comment leads to the end of the line, other text goes on. -/
theorem leadsTo_reactText (h : source.Tidy) (dialect : Dialect) (scan : LineScan) (char : Char) :
    (scan.reactText dialect char source).LeadsTo dialect
      (if char = dialect.comment then (unread source).contains '\n'
      else if char = quote ∧ scan.place = .fieldStart then
        endsOutsideQuotes dialect .quoted (unread source)
      else endsOutsideQuotes dialect .plain (unread source)) := by
  unfold reactText
  split
  · exact ⟨fun _ ↦ LineSource.rests_skipLine h #[], by simp⟩
  · split
    · exact ⟨by simp, fun _ ↦ rfl⟩
    · exact ⟨by simp, fun _ ↦ rfl⟩

/-- Outside quotes a newline, and a comment, lead to the end of the line. -/
theorem leadsTo_reactPlain (h : LineSource.Took char source) (dialect : Dialect) (scan : LineScan)
    (hplace : scan.place ≠ .quoted) :
    (scan.reactPlain dialect char source).LeadsTo dialect
      (endsOutsideQuotes dialect scan.place (char :: unread source)) := by
  unfold reactPlain
  rw [endsOutsideQuotes_plain dialect hplace]
  by_cases hdelimiter : char = dialect.delimiter
  · rw [if_pos hdelimiter, if_pos hdelimiter]
    exact ⟨by simp, fun _ ↦ rfl⟩
  rw [if_neg hdelimiter, if_neg hdelimiter]
  by_cases hnewline : char = '\n'
  · rw [if_pos hnewline, if_pos hnewline]
    exact ⟨fun _ ↦ h.newline hnewline, by simp⟩
  rw [if_neg hnewline, if_neg hnewline]
  by_cases hreturn : char = '\r'
  · -- a pause may stand behind the carriage return: then the look ahead fetches, but the line goes on
    rw [if_pos hreturn]
    have hpeeked := LineSource.tidy_invariant.peek source h.tidy
    by_cases hahead : (unread source).head? = some '\n'
    · have hnext : LineSource.Took '\n' _ := hpeeked.next (by simp [hahead])
      have hended := hnext.newline rfl
      simp only [CharSource.char_peek, hahead, hreturn, if_true, and_self]
      constructor
      · intro _
        dsimp only
        exact hended
      · intro hopen
        exact absurd hopen (by simp)
    · obtain ⟨hrests, hgoesOn⟩ := leadsTo_reactText hpeeked dialect scan char
      rw [CharSource.unread_peek] at hrests hgoesOn
      simp only [CharSource.char_peek, hahead, if_false, and_false]
      exact ⟨hrests, hgoesOn⟩
  · rw [if_neg hreturn, if_neg (fun hboth ↦ hreturn hboth.1)]
    exact leadsTo_reactText h.tidy dialect scan char

/-- Every reaction leads to the end of the line or goes on to it. -/
theorem leadsTo_react (h : LineSource.Took char source) (dialect : Dialect) (scan : LineScan) :
    (scan.react dialect char source).LeadsTo dialect
      (endsOutsideQuotes dialect scan.place (char :: unread source)) := by
  unfold react
  split
  · rename_i hplace
    rw [hplace]
    exact leadsTo_reactQuoted dialect scan char source
  · exact leadsTo_reactPlain h dialect scan (by simp [*])
  · exact leadsTo_reactPlain h dialect scan (by simp [*])

end LineScan

/-- Behind a scanned line nothing is in hand. -/
theorem rests_scanLine {char : Char} {source : LineSource} (h : source.Took char)
    (dialect : Dialect) (scan : LineScan) (events : Array Event) :
    (scanLine dialect scan char source events).source.Rests
      (endsOutsideQuotes dialect scan.place (char :: unread source)) := by
  fun_induction scanLine dialect scan char source events with
  | case1 scan char source events reaction events' hfinished =>
      exact (scan.leadsTo_react h dialect).rests hfinished
  | case2 scan char source events reaction events' hopen pull events'' hend =>
      have hgoesOn := (LineScan.leadsTo_react h dialect scan).goesOn (by simpa using hopen)
      have hended : endsOutsideQuotes dialect scan.place (char :: unread source) = false := by
        rw [← hgoesOn, CharSource.unread_eq_nil hend, endsOutsideQuotes]
      rw [hended]
      exact LineSource.rests_of_none hend
  | case3 scan char source events reaction events' hopen pull events'' following hnext ih =>
      have hgoesOn := (LineScan.leadsTo_react h dialect scan).goesOn (by simpa using hopen)
      have htidy : reaction.source.Tidy :=
        LineSource.tidy_invariant.ledger.react [] dialect scan char h.tidy
      rw [← hgoesOn, CharSource.unread_eq_cons hnext]
      exact ih (htidy.next hnext)

/-- The test for an empty line either ends the line or leaves it as it was. -/
theorem rests_ofFirst {first : Char} {source : LineSource} (h : source.Took first) :
    ((LineEnd.ofFirst first source).empty = true →
        (LineEnd.ofFirst first source).source.Rests true) ∧
      ((LineEnd.ofFirst first source).empty = false →
        (LineEnd.ofFirst first source).source.Took first) := by
  unfold LineEnd.ofFirst
  by_cases hnewline : first = '\n'
  · rw [if_pos hnewline]
    exact ⟨fun _ ↦ h.newline hnewline, by simp⟩
  rw [if_neg hnewline]
  by_cases hreturn : first = '\r'
  · rw [if_pos hreturn]
    have hpeeked := LineSource.tidy_invariant.peek source h.tidy
    dsimp only
    split
    · rename_i hahead
      have hnext : LineSource.Took '\n' _ := hpeeked.next (by simpa using hahead)
      have hended := hnext.newline rfl
      refine ⟨?_, by simp⟩
      intro _
      dsimp only
      exact hended
    · exact ⟨by simp, fun _ ↦ ⟨hpeeked, fun h ↦ absurd h hnewline⟩⟩
  · rw [if_neg hreturn]
    exact ⟨by simp, fun _ ↦ h⟩

/-- Behind a read nothing is in hand, and the source is not finished exactly if the read found a
line that is ended by a newline outside quotes. -/
theorem Reader.rests_readFields {reader : Reader LineSource} (h : reader.source.Tidy)
    (skipEmpty : Bool) (events : Array Event) :
    (reader.readFields skipEmpty events).reader.source.Rests
      (findsEndedLine reader.options.dialect skipEmpty (unread reader.source)) := by
  fun_induction readFields reader skipEmpty events with
  | case1 reader events pull events' hend =>
      rw [CharSource.unread_eq_nil hend, findsEndedLine_nil]
      exact LineSource.rests_of_none hend
  | case2 reader events pull events' line events'' hnext hnewline ih =>
      have hcomment := findsEndedLine_comment reader.options.dialect skipEmpty (unread pull.source)
      rw [afterLine, if_pos (by simpa using hnewline), Options.dialect_comment] at hcomment
      rw [CharSource.unread_eq_cons hnext, hcomment]
      exact ih (h.next hnext).tidy
  | case3 reader events pull events' line events'' skipped hnext hnewline ih =>
      have hcomment := findsEndedLine_comment reader.options.dialect skipEmpty (unread pull.source)
      rw [afterLine, if_neg (by simpa using hnewline), Options.dialect_comment] at hcomment
      rw [CharSource.unread_eq_cons hnext, hcomment, ← unread_skipLine pull.source #[]]
      exact ih (LineSource.tidy_invariant.ledger.skipLine [] #[] (h.next hnext).tidy)
  | case4 reader events pull events' first hnext line hcomment lineEnd events'' hempty hskip ih =>
      have hafter := LineEnd.afterEmptyLine?_of_empty hempty
      have hended := (rests_ofFirst (h.next hnext)).1 hempty
      rw [CharSource.unread_eq_cons hnext,
        findsEndedLine_empty skipEmpty (by simpa using hcomment) hafter, if_pos hskip]
      exact ih (LineSource.tidy_of_held hended.held)
  | case5 reader events pull events' first hnext line hcomment lineEnd events'' hempty hkeep =>
      have hafter := LineEnd.afterEmptyLine?_of_empty hempty
      rw [CharSource.unread_eq_cons hnext,
        findsEndedLine_empty skipEmpty (by simpa using hcomment) hafter, if_neg hkeep]
      exact (rests_ofFirst (h.next hnext)).1 hempty
  | case6 reader events pull events' first hnext line hcomment lineEnd events'' hempty scanned =>
      obtain ⟨hafter, hbehind⟩ := LineEnd.afterEmptyLine?_of_not_empty hempty
      have htook := (rests_ofFirst (h.next hnext)).2 (by simpa using hempty)
      rw [CharSource.unread_eq_cons hnext,
        findsEndedLine_logical skipEmpty (by simpa using hcomment) hafter, ← hbehind]
      exact rests_scanLine htook reader.options.dialect {} #[]

end Delimited
