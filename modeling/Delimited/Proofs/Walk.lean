import Delimited.Proofs.Grammar.Answers

/-!
# The lines that every way of reading walks along

`textLines` lists the lines of a text, empty ones included, with their fields and the physical lines
on which they end. It depends on the text and the two characters that split it, and on nothing that
a read can ask for. A `Walk` stands in front of a part of that list: a read takes the next line, one
that passes over empty lines drops those without fields before it.

Read `answers_eq_walk` first: whatever reads are mixed, with whatever flags, their answers are those
of a walk along the one list. The step is `Reader.OnWalk.readFields`.
-/

namespace Delimited

open CharSource (unread)
open Grammar (FoundLine)

/-- A scan leaves less than the text in front of it. -/
theorem length_rest_scanText_le (dialect : Dialect) (scan : LineScan) (text : List Char) :
    (scanText dialect scan text).rest.length ≤ text.length - 1 := by
  fun_induction scanText dialect scan text with
  | case1 => exact Nat.le_refl _
  | case9 scan rest =>
      have hle := length_afterLine_le rest
      simpa [LineScan.stop] using hle
  | _ => simp_all [LineScan.stop] <;> omega

/-- The lines of a text when this many physical lines come before it: each logical line with its
fields, each empty line without fields, and nothing for a comment. -/
def textLines (dialect : Dialect) (line : Nat) (text : List Char) : List FoundLine :=
  match text with
  | [] => []
  | first :: rest =>
      if first = dialect.comment then
        textLines dialect (line + 1) (afterLine (first :: rest))
      else
        match _h : afterEmptyLine? (first :: rest) with
        | some behind => { fields := [], line := line + 1 } :: textLines dialect (line + 1) behind
        | none =>
            let scanned := scanText dialect {} (first :: rest)
            let last := line + 1 + scanned.continuations
            { fields := scanned.fields, line := last } :: textLines dialect last scanned.rest
termination_by text.length
decreasing_by
  · exact length_afterLine_cons_lt first rest
  · exact length_afterEmptyLine?_lt _h
  · have hle := length_rest_scanText_le dialect {} (first :: rest)
    simp only [List.length_cons] at hle ⊢
    omega

@[simp] theorem textLines_nil (dialect : Dialect) (line : Nat) : textLines dialect line [] = [] := by
  rw [textLines]

/-- A comment line is none of the lines of a text. -/
theorem textLines_comment (dialect : Dialect) (line : Nat) (rest : List Char) :
    textLines dialect line (dialect.comment :: rest) =
      textLines dialect (line + 1) (afterLine (dialect.comment :: rest)) := by
  rw [textLines, if_pos rfl]

/-- An empty line is a line without fields. -/
theorem textLines_empty {dialect : Dialect} {line : Nat} {first : Char} {rest behind : List Char}
    (hcomment : first ≠ dialect.comment) (hempty : afterEmptyLine? (first :: rest) = some behind) :
    textLines dialect line (first :: rest) =
      { fields := [], line := line + 1 } :: textLines dialect (line + 1) behind := by
  rw [textLines, if_neg hcomment]
  split <;> simp_all

/-- Any other line is the scanned one. -/
theorem textLines_logical {dialect : Dialect} (line : Nat) {first : Char} {rest : List Char}
    (hcomment : first ≠ dialect.comment) (hempty : afterEmptyLine? (first :: rest) = none) :
    let scanned := scanText dialect {} (first :: rest)
    textLines dialect line (first :: rest) =
      { fields := scanned.fields, line := line + 1 + scanned.continuations } ::
        textLines dialect (line + 1 + scanned.continuations) scanned.rest := by
  rw [textLines, if_neg hcomment]
  split <;> simp_all

/-- The lines from the first one on that a read does not pass over. -/
def passOver (skipEmpty : Bool) (lines : List FoundLine) : List FoundLine :=
  lines.dropWhile fun found ↦ skipEmpty && found.fields.isEmpty

/-- A read that does not pass over empty lines passes over none. -/
@[simp] theorem passOver_false (lines : List FoundLine) : passOver false lines = lines := by
  cases lines <;> rfl

/-- A read finds the first line of a text that it does not pass over, and leaves a text with the
others. -/
theorem readText_textLines (dialect : Dialect) (skipEmpty : Bool) (line : Nat)
    (text : List Char) :
    let reading := readText dialect skipEmpty line text
    let found := passOver skipEmpty (textLines dialect line text)
    reading.fields?.map (fun fields ↦ ({ fields, line := reading.line } : FoundLine)) =
        found.head? ∧
      textLines dialect reading.line reading.rest = found.tail := by
  fun_induction readText dialect skipEmpty line text with
  | case1 line => simp [passOver]
  | case2 line rest ih =>
      rw [textLines_comment]
      exact ih
  | case3 line first rest hcomment behind hempty hskip ih =>
      have hpass : passOver skipEmpty (textLines dialect line (first :: rest)) =
          passOver skipEmpty (textLines dialect (line + 1) behind) := by
        rw [textLines_empty hcomment hempty, passOver, List.dropWhile_cons_of_pos (by simp [hskip])]
        rfl
      rw [hpass]
      exact ih
  | case4 line first rest hcomment behind hempty hkeep =>
      have hpass : passOver skipEmpty (textLines dialect line (first :: rest)) =
          { fields := [], line := line + 1 } :: textLines dialect (line + 1) behind := by
        rw [textLines_empty hcomment hempty, passOver, List.dropWhile_cons_of_neg (by simp [hkeep])]
      rw [hpass]
      exact ⟨rfl, rfl⟩
  | case5 line first rest hcomment hempty scanned =>
      have hfields := fields_scanText_ne_nil dialect {} (first :: rest)
      have hpass := textLines_logical line hcomment hempty
      rw [hpass, passOver, List.dropWhile_cons_of_neg (by simp [hfields])]
      exact ⟨rfl, rfl⟩

/-- The lines of a text are what a read that passes over no line finds, and those behind it. -/
theorem textLines_eq_readText (dialect : Dialect) (line : Nat) (text : List Char) :
    let reading := readText dialect false line text
    textLines dialect line text =
      (reading.fields?.map fun fields ↦ ({ fields, line := reading.line } : FoundLine)).toList ++
        textLines dialect reading.line reading.rest := by
  obtain ⟨hfound, hothers⟩ := readText_textLines dialect false line text
  rw [passOver_false] at hfound hothers
  dsimp only
  rw [hfound, hothers]
  cases textLines dialect line text <;> rfl

/-- A place in front of some of the lines of a text. -/
structure Walk where
  /-- The lines ahead. -/
  ahead : List FoundLine
  /-- The line counter. -/
  line : Nat

namespace Walk

/-- Take the first line ahead that is not passed over. Where none is left, all physical lines of the
text have been counted. -/
def next (total : Nat) (skipEmpty : Bool) (walk : Walk) : Option FoundLine × Walk :=
  match passOver skipEmpty walk.ahead with
  | [] => (none, { ahead := [], line := total })
  | found :: others => (some found, { ahead := others, line := found.line })

/-- Take the records of at most this many lines. -/
def records (options : Options) (total : Nat) (walk : Walk) : Nat → List Record × Walk
  | 0 => ([], walk)
  | count + 1 =>
      match walk.next total options.skipEmpty with
      | (none, rest) => ([], rest)
      | (some found, rest) =>
          let others := rest.records options total count
          (found.record options.trim :: others.1, others.2)

end Walk

/-- A way of reading on. -/
inductive ReadCall where
  /-- Read the next line, passing over empty lines and stripping white space off unquoted fields if
  that is asked for. -/
  | line (skipEmpty trim : Bool)
  /-- Take at most a number of records, with the flags of the options. -/
  | records (count : Nat)
  deriving DecidableEq, Repr

/-- What a way of reading on asks of a reader. -/
def ReadCall.request : ReadCall → ReaderRequest
  | .line skipEmpty trim => .line skipEmpty trim
  | .records count => .records count

namespace Walk

/-- The answer to a call on a walk, and the walk behind the lines taken. -/
def answer (options : Options) (total : Nat) (walk : Walk) : ReadCall → Answer × Walk
  | .line skipEmpty trim =>
      match walk.next total skipEmpty with
      | (none, rest) => (.line .endOfStream [] total, rest)
      | (some found, rest) => (found.answer trim, rest)
  | .records count =>
      let taken := walk.records options total count
      (.records taken.1 taken.2.line, taken.2)

/-- The answers to calls on a walk, one after the other. -/
def answers (options : Options) (total : Nat) (walk : Walk) : List ReadCall → List Answer
  | [] => []
  | call :: calls =>
      let answered := walk.answer options total call
      answered.1 :: answered.2.answers options total calls

end Walk

variable {σ : Type} [CharSource σ]

namespace Reader

/-- The reader stands where the walk along the lines of this text stands. -/
structure OnWalk (options : Options) (text : List Char) (walk : Walk) (reader : Reader σ) : Prop where
  options_eq : reader.options = options
  counts : CountsLines text reader
  ahead : walk.ahead = textLines options.dialect reader.line (unread reader.source)
  line : walk.line = reader.line

namespace OnWalk

variable {options : Options} {text : List Char} {walk : Walk} {reader : Reader σ}

/-- A read takes the next line of the walk. -/
theorem readFields (h : OnWalk options text walk reader) (skipEmpty : Bool) :
    let reading := reader.readFields skipEmpty
    let following := walk.next (physicalLines text) skipEmpty
    following.1 = reading.fields?.map (fun fields ↦ { fields, line := reading.reader.line }) ∧
      OnWalk options text following.2 reading.reader := by
  obtain ⟨hfound, hothers⟩ := readText_textLines options.dialect skipEmpty reader.line
    (unread reader.source)
  have hfields := reader.fields?_readFields skipEmpty
  have hline := reader.line_readFields skipEmpty
  have hunread := reader.unread_readFields skipEmpty
  have hoptions := reader.options_readFields skipEmpty #[]
  have hcounts := (countsLines_invariant text).readFields reader skipEmpty h.counts
  rw [h.options_eq] at hfields hline hunread hoptions
  rw [← hfields, ← hline, ← h.ahead] at hfound
  rw [← hline, ← hunread, ← h.ahead] at hothers
  unfold Walk.next
  cases hpass : passOver skipEmpty walk.ahead with
  | nil =>
      rw [hpass] at hfound hothers
      have hend := unread_eq_nil_of_readFields (Option.map_eq_none_iff.mp hfound)
      refine ⟨hfound.symm, hoptions, hcounts, hothers.symm, ?_⟩
      exact (hcounts.line_eq_of_unread_eq_nil hend).symm
  | cons found others =>
      rw [hpass] at hfound hothers
      refine ⟨hfound.symm, hoptions, hcounts, hothers.symm, ?_⟩
      obtain ⟨fields, _, rfl⟩ := Option.map_eq_some_iff.mp hfound
      rfl

/-- The next record is made of the next line of the walk. -/
theorem nextRecord (h : OnWalk options text walk reader) :
    let following := walk.next (physicalLines text) options.skipEmpty
    reader.nextRecord.1 = following.1.map (·.record options.trim) ∧
      OnWalk options text following.2 reader.nextRecord.2.reader := by
  obtain ⟨hfound, hnext⟩ := h.readFields options.skipEmpty
  rw [← h.options_eq] at hfound hnext ⊢
  refine ⟨?_, hnext⟩
  rw [hfound]
  cases hfields : (reader.readFields reader.options.skipEmpty).fields? <;>
    simp [Reader.nextRecord, Reading.tokens, hfields, FoundLine.record]

/-- Taking records takes lines of the walk. -/
theorem takeRecords (h : OnWalk options text walk reader) (count : Nat) :
    let taken := walk.records options (physicalLines text) count
    (reader.takeRecords count).1 = taken.1 ∧
      OnWalk options text taken.2 (reader.takeRecords count).2 := by
  induction count generalizing reader walk with
  | zero => exact ⟨rfl, h⟩
  | succ count ih =>
      obtain ⟨hrecord, hnext⟩ := h.nextRecord
      rw [Walk.records]
      generalize walk.next (physicalLines text) options.skipEmpty = following at hrecord hnext ⊢
      obtain ⟨found?, rest⟩ := following
      cases found? with
      | none =>
          rw [takeRecords_of_none hrecord]
          exact ⟨rfl, hnext⟩
      | some found =>
          obtain ⟨hothers, hlast⟩ := ih hnext
          rw [takeRecords_of_some hrecord, hothers]
          exact ⟨rfl, hlast⟩

/-- A call is answered as on the walk. -/
theorem answer (h : OnWalk options text walk reader) (call : ReadCall) :
    let answered := walk.answer options (physicalLines text) call
    (reader.serve call.request).answer = answered.1 ∧
      OnWalk options text answered.2 (reader.serve call.request).reader := by
  cases call with
  | line skipEmpty trim =>
      obtain ⟨hfound, hnext⟩ := h.readFields skipEmpty
      simp only [ReadCall.request, Walk.answer]
      have hline := hnext.line
      cases hpass : passOver skipEmpty walk.ahead with
      | nil =>
          simp only [Walk.next, hpass] at hfound hnext hline ⊢
          have hfields := Option.map_eq_none_iff.mp hfound.symm
          refine ⟨?_, hnext⟩
          simp [serve, Reading.status, Reading.tokens, hfields, hline]
      | cons found others =>
          simp only [Walk.next, hpass] at hfound hnext hline ⊢
          obtain ⟨fields, hfields, hsame⟩ := Option.map_eq_some_iff.mp hfound.symm
          refine ⟨?_, hnext⟩
          simp [serve, Reading.status, Reading.tokens, hfields, ← hsame, FoundLine.answer]
  | records count =>
      obtain ⟨hanswer, hreader⟩ := reader.serve_records count
      obtain ⟨htaken, hlast⟩ := h.takeRecords count
      simp only [ReadCall.request, Walk.answer]
      rw [hanswer, hreader, htaken, hlast.line]
      exact ⟨rfl, hlast⟩

/-- Calls are answered as on the walk. -/
theorem answers (h : OnWalk options text walk reader) (calls : List ReadCall) :
    (replies serve reader (calls.map ReadCall.request)).map Reply.answer =
      walk.answers options (physicalLines text) calls := by
  induction calls generalizing reader walk with
  | nil => rfl
  | cons call calls ih =>
      obtain ⟨hanswer, hnext⟩ := h.answer call
      simp only [List.map_cons, replies, Walk.answers, hanswer, ih hnext]

end OnWalk

end Reader

/-- A text with the two characters that split it has one list of lines, and every mixture of reads,
each with its own flags, walks along it. A read that reports empty lines takes the next line, one
that passes over them takes the next line with fields and drops those before it. The line is
answered with its physical line and its fields, which are stripped of white space if that is asked
for and they did not open with a quote; behind the last line the end is answered, without tokens and
with all physical lines counted. Records are taken likewise, with the flags of the options. The
comment character may be set to any character before. -/
theorem answers_eq_walk {source : σ} {options : Options} {bound : Reader σ}
    (hbind : Reader.ofOptions source options = .ok bound) (comment : Char)
    (calls : List ReadCall) :
    let reader := (bound.setComment comment).1
    let text := unread source
    let start : Walk := { ahead := textLines reader.options.dialect 0 text, line := 0 }
    (replies Reader.serve reader (calls.map ReadCall.request)).map Reply.answer =
      start.answers reader.options (physicalLines text) calls := by
  obtain ⟨hbound, hvalid⟩ := Reader.ofOptions_eq_ok_iff.mp hbind
  intro reader text start
  have hfresh : bound.CountsLines text := hbound ▸ .fresh rfl hvalid
  have hcounts := (Reader.countsLines_invariant text).setComment bound comment hfresh
  have hstart : reader.OnWalk reader.options text start := by
    refine ⟨rfl, hcounts, ?_, ?_⟩
    · simp only [reader, start, text, Reader.setComment, hbound]
    · simp only [reader, start, Reader.setComment, hbound]
  exact hstart.answers calls

/-- Reads that skip and reads that do not, with and without stripping, and a record, along one text
in which the carriage return starts comments. -/
theorem answers_eq_walk_of_mixed_reads :
    let source := TextSource.ofText "\n\n a ,\"b\" \n\rx\n\nc\n\n"
    Reader.ofOptions source {} = .ok { source } ∧
      (replies Reader.serve (({ source } : Reader TextSource).setComment '\r').1
          ([.line false false, .line true true, .line false true, .records 2, .line true false].map
            ReadCall.request)).map Reply.answer =
        [.line .line [] 1, .line .line ["a", "b "] 3, .line .line [] 5,
          .records [{ line := 6, fields := ["c"] }] 7, .line .endOfStream [] 7] := by
  intro source
  have hbind : Reader.ofOptions source {} = .ok { source } := rfl
  refine ⟨hbind, (answers_eq_walk hbind '\r' _).trans ?_⟩
  decide +kernel

end Delimited
