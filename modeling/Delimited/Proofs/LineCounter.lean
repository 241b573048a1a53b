import Delimited.Proofs.Invariants
import Delimited.Proofs.PhysicalLines
import Delimited.Source.TextSource

/-!
# The line counter

In a session with a reader over a text, the text taken so far is made of whole physical lines, and
the line counter is their number: `Reader.CountsLines` is kept by everything that can be asked of a
reader, whatever the comment character is changed to. `line_eq_physicalLines` adds the byte position
in the text, the order of the lines of the answers, and the count at the end.
-/

namespace Delimited

open CharSource (unread)

/-- The lines on which the lines and records of an answer end. -/
def Answer.lines : Answer → List Nat
  | .line .line _ last => [last]
  | .records taken _ => taken.map Record.line
  | _ => []

/-- The answer to a request shows that the text is at its end: a read found no line, or fewer records
were left than were asked for. -/
def ReaderRequest.MetEnd : ReaderRequest → Answer → Prop
  | .line _ _, .line status _ _ => status = .endOfStream
  | .records count, .records taken _ => taken.length < count
  | _, _ => False

/-- Lines that follow each other, after line `first` and up to line `last`. -/
structure Climbs (first : Nat) (lines : List Nat) (last : Nat) : Prop where
  increasing : lines.Pairwise (· < ·)
  after : ∀ line ∈ lines, first < line
  upTo : ∀ line ∈ lines, line ≤ last
  le : first ≤ last

namespace Climbs

variable {first middle last : Nat} {lines more : List Nat}

/-- Nothing happens between two lines. -/
theorem nil (hle : first ≤ last) : Climbs first [] last :=
  ⟨.nil, by simp, by simp, hle⟩

/-- One step up. -/
theorem singleton (hlt : first < last) : Climbs first [last] last :=
  ⟨by simp, by simp [hlt], by simp, Nat.le_of_lt hlt⟩

/-- Lines that follow after other lines. -/
theorem append (h : Climbs first lines middle) (hmore : Climbs middle more last) :
    Climbs first (lines ++ more) last where
  increasing := by
    refine List.pairwise_append.mpr ⟨h.increasing, hmore.increasing, ?_⟩
    intro line hline later hlater
    exact Nat.lt_of_le_of_lt (h.upTo line hline) (hmore.after later hlater)
  after line hline := by
    rcases List.mem_append.mp hline with hline | hline
    · exact h.after line hline
    · exact Nat.lt_of_le_of_lt h.le (hmore.after line hline)
  upTo line hline := by
    rcases List.mem_append.mp hline with hline | hline
    · exact Nat.le_trans (h.upTo line hline) hmore.le
    · exact hmore.upTo line hline
  le := Nat.le_trans h.le hmore.le

end Climbs

namespace Reader

variable {σ : Type} [CharSource σ]

/-- The reader has taken whole lines off a text and has counted them. -/
structure CountsLines (text : List Char) (reader : Reader σ) : Prop where
  delimiter : reader.options.delimiter ≠ '\n'
  taken : ∃ taken, TakesLines text taken (unread reader.source) ∧ reader.line = physicalLines taken

/-- A fresh reader has counted no line. -/
theorem CountsLines.fresh {text : List Char} {source : σ} {options : Options}
    (hsource : unread source = text) (hvalid : options.Valid) :
    CountsLines text { source, options } where
  delimiter h := by
    have hreserved := (Options.valid_iff.mp hvalid).1
    simp [isReserved, show options.delimiter = '\n' from h] at hreserved
  taken := ⟨[], hsource ▸ .refl _, rfl⟩

/-- A reader with nothing left unread has counted the lines of the whole text. -/
theorem CountsLines.line_eq_of_unread_eq_nil {text : List Char} {reader : Reader σ}
    (h : CountsLines text reader) (hunread : unread reader.source = []) :
    reader.line = physicalLines text := by
  obtain ⟨taken, htaken, hline⟩ := h.taken
  have hsplit := htaken.split
  rw [hunread, List.append_nil] at hsplit
  rw [hline, hsplit]

/-- Counting lines goes on through reads and changes of the comment character. -/
theorem countsLines_invariant (text : List Char) :
    ReaderInvariant (CountsLines (σ := σ) text) where
  readFields reader skipEmpty h := by
    obtain ⟨taken, htaken, hline⟩ := h.taken
    have hdelimiter : reader.options.dialect.delimiter ≠ '\n' := h.delimiter
    obtain ⟨more, hmore, hcount⟩ :=
      readText_takesLines hdelimiter skipEmpty reader.line (unread reader.source)
    refine ⟨by simpa using h.delimiter, taken ++ more, ?_, ?_⟩
    · rw [unread_readFields]
      exact htaken.trans hmore
    · rw [line_readFields, hcount, hline, htaken.physicalLines_trans hmore]
  setComment reader comment h := ⟨h.delimiter, h.taken⟩

/-- A read climbs to the line that it finds. -/
theorem climbs_readFields (reader : Reader σ) (skipEmpty : Bool) :
    Climbs reader.line
      (if (reader.readFields skipEmpty).fields?.isSome then
        [(reader.readFields skipEmpty).reader.line] else [])
      (reader.readFields skipEmpty).reader.line := by
  split
  · rename_i hsome
    rw [fields?_readFields] at hsome
    rw [line_readFields]
    exact .singleton (lt_line_readText hsome)
  · rw [line_readFields]
    exact .nil (le_line_readText _ _ _ _)

/-- A read that finds no line leaves nothing unread. -/
theorem unread_eq_nil_of_readFields {reader : Reader σ} {skipEmpty : Bool}
    (h : (reader.readFields skipEmpty).fields? = none) :
    unread (reader.readFields skipEmpty).reader.source = [] := by
  rw [fields?_readFields] at h
  rw [unread_readFields]
  exact rest_eq_nil_of_readText h

/-- The record taken ends on the line that the counter has climbed to. -/
theorem climbs_nextRecord (reader : Reader σ) :
    Climbs reader.line (reader.nextRecord.1.toList.map Record.line)
      reader.nextRecord.2.reader.line := by
  have hread := reader.climbs_readFields reader.options.skipEmpty
  unfold nextRecord
  dsimp only
  cases hfields : (reader.readFields reader.options.skipEmpty).fields? <;>
    simpa [hfields] using hread

/-- The records taken climb from line to line, and if there are fewer than were asked for nothing is
left unread. -/
theorem climbs_takeRecords (reader : Reader σ) (count : Nat) :
    Climbs reader.line ((reader.takeRecords count).1.map Record.line)
        (reader.takeRecords count).2.line ∧
      ((reader.takeRecords count).1.length < count →
        unread (reader.takeRecords count).2.source = []) := by
  induction count generalizing reader with
  | zero => exact ⟨.nil (Nat.le_refl _), by simp⟩
  | succ count ih =>
      have hclimbs := reader.climbs_nextRecord
      cases hrecord : reader.nextRecord.1 with
      | none =>
          rw [hrecord] at hclimbs
          rw [takeRecords_of_none hrecord]
          refine ⟨hclimbs, fun _ ↦ ?_⟩
          exact unread_eq_nil_of_readFields (Option.map_eq_none_iff.mp hrecord)
      | some record =>
          -- the other records climb on from the line of this one
          obtain ⟨hmore, hshort⟩ := ih reader.nextRecord.2.reader
          rw [hrecord] at hclimbs
          rw [takeRecords_of_some hrecord]
          refine ⟨hclimbs.append hmore, fun hlength ↦ hshort ?_⟩
          simpa using hlength

/-- The lines of an answer climb from the counter before it to the counter after it. -/
theorem climbs_serve (reader : Reader σ) (request : ReaderRequest) :
    Climbs reader.line (reader.serve request).answer.lines (reader.serve request).reader.line := by
  cases request with
  | line skipEmpty trim =>
      have hread := reader.climbs_readFields skipEmpty
      simp only [serve, Reading.status]
      split <;> simp_all [Answer.lines]
  | records count =>
      obtain ⟨hanswer, hreader⟩ := reader.serve_records count
      rw [hanswer, hreader]
      exact (reader.climbs_takeRecords count).1
  | setComment comment => exact .nil (Nat.le_refl _)

/-- An answer that shows the end of the text leaves nothing unread. -/
theorem unread_eq_nil_of_metEnd {reader : Reader σ} {request : ReaderRequest}
    (h : request.MetEnd (reader.serve request).answer) :
    unread (reader.serve request).reader.source = [] := by
  cases request with
  | line skipEmpty trim =>
      apply unread_eq_nil_of_readFields
      simpa [serve, Reading.status, ReaderRequest.MetEnd] using h
  | records count =>
      obtain ⟨hanswer, hreader⟩ := reader.serve_records count
      rw [hanswer] at h
      rw [hreader]
      exact (reader.climbs_takeRecords count).2 h
  | setComment comment => exact absurd h (by simp [ReaderRequest.MetEnd])

/-- The lines of the answers of a session climb from the counter at its start. -/
theorem climbs_replies (reader : Reader σ) (requests : List ReaderRequest) :
    ∃ last, Climbs reader.line
      ((replies serve reader requests).flatMap (·.answer.lines)) last := by
  induction requests generalizing reader with
  | nil => exact ⟨reader.line, .nil (Nat.le_refl _)⟩
  | cons request requests ih =>
      obtain ⟨last, hlast⟩ := ih (reader.serve request).reader
      refine ⟨last, ?_⟩
      simp only [replies, List.flatMap_cons]
      exact (reader.climbs_serve request).append hlast

/-- Whenever an answer of a session shows the end of the text, nothing is left unread. -/
theorem unread_eq_nil_of_mem_zip (reader : Reader σ) (requests : List ReaderRequest) :
    ∀ pair ∈ requests.zip (replies serve reader requests), pair.1.MetEnd pair.2.answer →
      unread pair.2.reader.source = [] := by
  induction requests generalizing reader with
  | nil => simp
  | cons request requests ih =>
      intro pair hpair hend
      rcases List.mem_cons.mp hpair with rfl | hrest
      · exact unread_eq_nil_of_metEnd hend
      · exact ih _ pair hrest hend

end Reader

namespace TextSource

/-- The bytes in front of the position and those behind it make this many. -/
def Measures (total : Nat) (source : TextSource) : Prop :=
  source.position + source.remaining.utf8ByteSize = total

/-- A text in memory is measured by its size. -/
theorem measures_ofText (text : String) : (ofText text).Measures text.utf8ByteSize := by
  simp [Measures, ofText, remaining]

/-- Taking a character moves the position over its bytes. -/
theorem measures_invariant (total : Nat) : SourceInvariant (Measures total) where
  next source h := by
    obtain ⟨chars, position⟩ := source
    cases chars with
    | nil => exact h
    | cons char rest =>
        have hsize : (String.ofList (char :: rest)).utf8ByteSize =
            char.utf8Size + (String.ofList rest).utf8ByteSize := by simp
        simp only [Measures, remaining, CharSource.next, next] at h ⊢
        omega
  peek source h := h

/-- Every character has at least one byte. -/
theorem length_le_utf8ByteSize_ofList (chars : List Char) :
    chars.length ≤ (String.ofList chars).utf8ByteSize := by
  induction chars with
  | nil => simp
  | cons char rest ih =>
      have hpos := char.utf8Size_pos
      simp only [List.length_cons, String.ofList_cons, String.utf8ByteSize_append,
        String.utf8ByteSize_singleton]
      omega

end TextSource

/-- A reader that has counted the lines of a text stands behind a part of it that is made of whole
lines, at the byte position where that part ends. -/
theorem Reader.CountsLines.consumed {text : String} {reader : Reader TextSource}
    (h : reader.CountsLines text.toList) (hmeasure : reader.source.Measures text.utf8ByteSize) :
    ∃ consumed : String,
      consumed ++ reader.source.remaining = text ∧
      consumed.utf8ByteSize = reader.source.position ∧
      (consumed = "" ∨ consumed.toList.getLast? = some '\n' ∨ consumed = text) ∧
      reader.line = physicalLines consumed.toList ∧
      reader.line ≤ reader.source.position := by
  obtain ⟨taken, htaken, hline⟩ := h.taken
  have hsplit : String.ofList taken ++ reader.source.remaining = text := by
    rw [← String.toList_inj, htaken.split]
    simp [TextSource.remaining, CharSource.unread]
  have hposition : (String.ofList taken).utf8ByteSize = reader.source.position := by
    have hsum := congrArg String.utf8ByteSize hsplit
    rw [String.utf8ByteSize_append] at hsum
    have hmeasured : reader.source.position + _ = _ := hmeasure
    omega
  refine ⟨String.ofList taken, hsplit, hposition, ?_, by simpa using hline, ?_⟩
  · rcases htaken.whole with hnil | hlast | hrest
    · exact Or.inl (by simp [hnil])
    · exact Or.inr (Or.inl (by simpa using hlast))
    · refine Or.inr (Or.inr ?_)
      rw [← hsplit]
      simp [TextSource.remaining, show reader.source.chars = [] from hrest]
  · rw [hline, ← hposition]
    exact Nat.le_trans (physicalLines_le_length taken)
      (TextSource.length_le_utf8ByteSize_ofList taken)

/-- After every request of a session with a fresh reader over a text, the text splits at the byte
position into what is consumed and what remains; what is consumed ends with a physical line, the line
counter is the number of its physical lines, and that is no more than the position. The lines that
the answers report increase strictly, and when an answer shows the end of the text, the counter is the
number of physical lines of the whole text. -/
theorem line_eq_physicalLines {text : String} {options : Options} {reader : Reader TextSource}
    (hbind : Reader.ofOptions (TextSource.ofText text) options = .ok reader)
    (requests : List ReaderRequest) :
    (∀ reply ∈ replies Reader.serve reader requests, ∃ consumed : String,
      consumed ++ reply.reader.source.remaining = text ∧
      consumed.utf8ByteSize = reply.reader.source.position ∧
      (consumed = "" ∨ consumed.toList.getLast? = some '\n' ∨ consumed = text) ∧
      reply.reader.line = physicalLines consumed.toList ∧
      reply.reader.line ≤ reply.reader.source.position) ∧
    ((replies Reader.serve reader requests).flatMap (·.answer.lines)).Pairwise (· < ·) ∧
    ∀ pair ∈ requests.zip (replies Reader.serve reader requests),
      pair.1.MetEnd pair.2.answer →
        pair.2.reader.source.remaining = "" ∧
        pair.2.reader.line = physicalLines text.toList := by
  obtain ⟨hreader, hvalid⟩ := Reader.ofOptions_eq_ok_iff.mp hbind
  have hfresh : reader.CountsLines text.toList := hreader ▸ .fresh rfl hvalid
  have hmeasure : reader.source.Measures text.utf8ByteSize := by
    rw [hreader]
    exact TextSource.measures_ofText text
  have hinvariant := (Reader.countsLines_invariant text.toList).and
    (TextSource.measures_invariant text.utf8ByteSize).toReader
  have hreplies := hinvariant.replies ⟨hfresh, hmeasure⟩ requests
  refine ⟨fun reply hreply ↦ ?_, ?_, fun pair hpair hend ↦ ?_⟩
  · obtain ⟨hcounts, hmeasured⟩ := hreplies reply hreply
    exact hcounts.consumed hmeasured
  · obtain ⟨last, hclimbs⟩ := reader.climbs_replies requests
    exact hclimbs.increasing
  · obtain ⟨hcounts, _⟩ := hreplies pair.2 (List.of_mem_zip hpair).2
    have hrest := reader.unread_eq_nil_of_mem_zip requests pair hpair hend
    obtain ⟨taken, htaken, hline⟩ := hcounts.taken
    have hall : text.toList = taken := by simpa [hrest] using htaken.split
    refine ⟨?_, by rw [hline, hall]⟩
    rw [TextSource.remaining, show pair.2.reader.source.chars = [] from hrest]

/-- A quoted newline, a comment character that is the delimiter, one that is the newline, and a
quote that is never closed. -/
theorem lines_increase_with_conflicting_comments :
    let source := TextSource.ofText "\"a\nb\",c\n,d\n\n\r\n\"é\n"
    Reader.ofOptions source {} = .ok { source } ∧
      ((replies Reader.serve { source } [.records 1, .setComment ',', .setComment '\n',
        .line false true, .line false false, .records 2]).flatMap (·.answer.lines)).Pairwise
          (· < ·) := by
  intro source
  have hbind : Reader.ofOptions source {} = .ok { source } := rfl
  exact ⟨hbind, (line_eq_physicalLines hbind _).2.1⟩

end Delimited
