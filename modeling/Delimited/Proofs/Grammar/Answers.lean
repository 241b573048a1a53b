import Delimited.Proofs.Grammar.Reading
import Delimited.Proofs.LineCounter

/-!
# What a reader gives of a document

A reader that stands in front of a document keeps standing in front of what is left of it, and each
read gives the next of its lines: `Reader.StandsAt.readFields`. From this step follow the answers to
reads up to the end and beyond it, `Reader.StandsAt.answers_line`, and the records that are taken to
the end, `Reader.StandsAt.takeAll`.
-/

namespace Delimited

open CharSource (unread)
open Grammar

/-- The answer to a read that finds a line. -/
def Grammar.FoundLine.answer (trim : Bool) (found : FoundLine) : Answer :=
  .line .line (found.fields.map (Field.token · trim)) found.line

/-- The record that a line makes. -/
def Grammar.FoundLine.record (trim : Bool) (found : FoundLine) : Record :=
  { line := found.line, fields := found.fields.map (Field.token · trim) }

namespace Reader

variable {σ : Type} [CharSource σ]

/-- A reader with these options stands behind the first part of a text, in front of a document that
the rest of the text is a derivation of. -/
structure StandsAt (options : Options) (text before : List Char) (document : Document)
    (reader : Reader σ) : Prop where
  options_eq : reader.options = options
  allowed : document.Allowed options.dialect
  takes : TakesLines text before (document.chars options.dialect)
  unread_eq : unread reader.source = document.chars options.dialect
  line_eq : reader.line = physicalLines before

namespace StandsAt

variable {options : Options} {text before : List Char} {document : Document} {reader : Reader σ}

/-- A fresh reader stands at the start of its text. -/
theorem fresh {source : σ} {options : Options} {document : Document}
    (h : document.Derives options.dialect (unread source)) :
    StandsAt options (unread source) [] document ({ source, options } : Reader σ) :=
  ⟨rfl, h.allowed, h.chars ▸ .refl _, h.chars.symm, rfl⟩

/-- A read finds the first line of a document, and stands in front of the others. -/
theorem readFields (hvalid : options.Valid) (h : StandsAt options text before document reader)
    (skipEmpty : Bool) :
    let reading := reader.readFields skipEmpty
    ∃ (after : List Char) (items : Document),
      StandsAt options text after items reading.reader ∧
      items.lines options.dialect skipEmpty after =
        (document.lines options.dialect skipEmpty before).tail ∧
      (document.lines options.dialect skipEmpty before).head? =
        reading.fields?.map fun fields ↦ { fields, line := reading.reader.line } := by
  obtain ⟨after, items, hallowed, htakes, hrest, hline, htail, hhead⟩ :=
    h.allowed.readText_eq hvalid.dialect h.takes skipEmpty
  rw [← h.line_eq, ← h.unread_eq] at hrest hline hhead
  refine ⟨after, items, ⟨?_, hallowed, htakes, ?_, ?_⟩, htail, ?_⟩
  · rw [options_readFields, h.options_eq]
  · rw [unread_readFields, h.options_eq, hrest]
  · rw [line_readFields, h.options_eq, hline]
  · rw [hhead, fields?_readFields, line_readFields, h.options_eq]

/-- A reader that stands behind a part of a text has counted its lines. -/
theorem counts (hvalid : options.Valid) (h : StandsAt options text before document reader) :
    reader.CountsLines text where
  delimiter := by
    rw [h.options_eq]
    exact hvalid.dialect.delimiter_newline
  taken := ⟨before, h.unread_eq ▸ h.takes, h.line_eq⟩

/-- A read in front of a document without lines finds the end of the text. -/
theorem readFields_end (hvalid : options.Valid) (h : StandsAt options text before document reader)
    {skipEmpty : Bool} (hlines : document.lines options.dialect skipEmpty before = []) :
    let reading := reader.readFields skipEmpty
    reading.fields? = none ∧ unread reading.reader.source = [] ∧
      reading.reader.line = physicalLines text ∧
      ∃ (after : List Char) (items : Document),
        StandsAt options text after items reading.reader ∧
        items.lines options.dialect skipEmpty after = [] := by
  obtain ⟨after, items, hstands, htail, hhead⟩ := h.readFields hvalid skipEmpty
  rw [hlines] at htail hhead
  have hnone := Option.map_eq_none_iff.mp hhead.symm
  have hunread := unread_eq_nil_of_readFields hnone
  have hline := (hstands.counts hvalid).line_eq_of_unread_eq_nil hunread
  exact ⟨hnone, hunread, hline, after, items, hstands, htail⟩

/-- A read in front of a document with lines finds the first of them. -/
theorem readFields_line (hvalid : options.Valid) (h : StandsAt options text before document reader)
    {skipEmpty : Bool} {found : FoundLine} {others : List FoundLine}
    (hlines : document.lines options.dialect skipEmpty before = found :: others) :
    let reading := reader.readFields skipEmpty
    reading.fields? = some found.fields ∧ reading.reader.line = found.line ∧
      ∃ (after : List Char) (items : Document),
        StandsAt options text after items reading.reader ∧
        items.lines options.dialect skipEmpty after = others := by
  obtain ⟨after, items, hstands, htail, hhead⟩ := h.readFields hvalid skipEmpty
  rw [hlines] at htail hhead
  obtain ⟨fields, hfields, hfound⟩ := Option.map_eq_some_iff.mp hhead.symm
  exact ⟨by rw [hfields, ← hfound], by rw [← hfound], after, items, hstands, htail⟩

/-- Reads up to the end of a document and beyond it are answered with its lines, and then with the
end of the text. -/
theorem answers_line (hvalid : options.Valid) (h : StandsAt options text before document reader)
    {skipEmpty : Bool} {found : List FoundLine}
    (hlines : document.lines options.dialect skipEmpty before = found) (trim : Bool) (extra : Nat) :
    (replies serve reader
        (List.replicate (found.length + extra) (.line skipEmpty trim))).map (·.answer) =
      found.map (·.answer trim) ++
        List.replicate extra (.line .endOfStream [] (physicalLines text)) := by
  induction found generalizing reader before document with
  | nil =>
      induction extra generalizing reader before document with
      | zero => rfl
      | succ extra ih =>
          obtain ⟨hend, _, hline, after, items, hstands, hmore⟩ := h.readFields_end hvalid hlines
          have hrest := ih hstands hmore
          simp only [List.length_nil, Nat.zero_add, List.map_nil, List.nil_append] at hrest ⊢
          simp [List.replicate_succ, replies, serve, hrest, Reading.status, Reading.tokens, hend,
            hline]
  | cons first others ih =>
      obtain ⟨hfirst, hline, after, items, hstands, hmore⟩ := h.readFields_line hvalid hlines
      have hrest := ih hstands hmore
      rw [List.length_cons, Nat.add_right_comm, List.replicate_succ]
      simp [replies, serve, hrest, Reading.status, Reading.tokens, hfirst, hline,
        FoundLine.answer]

/-- Taking records to the end gives those that the lines of the document make, and leaves nothing
unread. -/
theorem takeAll (hvalid : options.Valid) (h : StandsAt options text before document reader)
    {found : List FoundLine}
    (hlines : document.lines options.dialect options.skipEmpty before = found)
    (events : Array Event) (taken : Array Record) :
    let result := RecordSource.takeAll ({ reader, events } : RecordReader σ) taken
    result.1.toList = taken.toList ++ found.map (·.record options.trim) ∧
      unread result.2.reader.source = [] ∧ result.2.reader.line = physicalLines text := by
  induction found generalizing reader before document events taken with
  | nil =>
      obtain ⟨hend, hunread, hline, _⟩ := h.readFields_end hvalid hlines
      have hnone : (RecordSource.next ({ reader, events } : RecordReader σ)).1 = none := by
        simp [RecordSource.next, RecordReader.next, nextRecord, h.options_eq, hend]
      rw [RecordSource.takeAll_eq, hnone]
      simp [RecordSource.next, RecordReader.next, nextRecord, h.options_eq, hunread, hline]
  | cons first others ih =>
      obtain ⟨hfirst, hline, after, items, hstands, hmore⟩ := h.readFields_line hvalid hlines
      have hsome : (RecordSource.next ({ reader, events } : RecordReader σ)).1 =
          some (first.record options.trim) := by
        simp [RecordSource.next, RecordReader.next, nextRecord, h.options_eq, hfirst, hline,
          FoundLine.record, Reading.tokens]
      rw [RecordSource.takeAll_eq, hsome]
      have hrest := ih hstands hmore
        (events ++ (reader.readFields options.skipEmpty).events)
        (taken.push (first.record options.trim))
      simpa [RecordSource.next, RecordReader.next, nextRecord, h.options_eq] using hrest

end StandsAt

end Reader

/-- A text has exactly one derivation, whatever its quotes are like, and reading it with any valid
options gives the lines of that derivation: each logical line with its fields and the physical line
on which it ends, each empty line as a line without fields unless those are passed over, and nothing
for a comment. Every read behind them finds the end of the text, with all its physical lines
counted. -/
theorem reads_unique_derivation {σ : Type} [CharSource σ] {source : σ} {options : Options}
    {reader : Reader σ} (hbind : Reader.ofOptions source options = .ok reader) :
    (∃! document : Document, document.Derives options.dialect (unread source)) ∧
    ∀ document : Document, document.Derives options.dialect (unread source) →
      ∀ (skipEmpty trim : Bool) (extra : Nat),
        let found := document.lines options.dialect skipEmpty []
        (replies Reader.serve reader
            (List.replicate (found.length + extra) (.line skipEmpty trim))).map (·.answer) =
          found.map (·.answer trim) ++
            List.replicate extra (.line .endOfStream [] (physicalLines (unread source))) := by
  obtain ⟨rfl, hvalid⟩ := Reader.ofOptions_eq_ok_iff.mp hbind
  refine ⟨existsUnique_derivation hvalid.dialect (unread source), ?_⟩
  intro document hderives skipEmpty trim extra
  exact (Reader.StandsAt.fresh hderives).answers_line hvalid rfl trim extra

/-- Doubled quotes, a quote within plain text, text behind a closing quote, and a quote that is never
closed. -/
theorem reads_unique_derivation_of_misplaced_quotes :
    let source := TextSource.ofText "\"a\"\"b\"c,d\"e\r\n#x\n\n\"u\n"
    let document : Document :=
      [.logical (.more (.quoted [.single 'a', .pair, .single 'b'] ['c'])
          (.last (.plain ['d', '"', 'e']) (.newline .returnNewline))),
        .comment { text := ['x'], terminated := true }, .empty .newline,
        .logical (.last (.unclosed [.single 'u', .single '\n']) .endOfText)]
    Reader.ofOptions source {} = .ok { source } ∧
      document.Derives (Options.dialect {}) (unread source) ∧
      (replies Reader.serve ({ source } : Reader TextSource)
          (List.replicate 4 (.line false false))).map (·.answer) =
        [.line .line ["a\"bc", "d\"e"] 1, .line .line [] 3, .line .line ["u\n"] 4,
          .line .endOfStream [] 4] := by
  intro source document
  have hbind : Reader.ofOptions source {} = .ok { source } := rfl
  have hderives : document.Derives (Options.dialect {}) (unread source) := by decide
  exact ⟨hbind, hderives, (reads_unique_derivation hbind).2 document hderives false false 1⟩

end Delimited
