import Delimited.Proofs.LineCounter
import Delimited.Proofs.Output.AllRecords

/-!
# How much input a failed write has consumed

A sink that refuses a byte stops the writing, and with it the requests for records. In the formats
that write each record before the next one is taken, the records asked for are those up to the one
that the refused byte belongs to; in the other formats the reader comes to its end before anything is
handed over. `input_of_failed_write` says so and adds where that leaves the source and which failure
of a stream is kept.
-/

namespace Delimited

open CharSource (unread)

section Records

variable {ρ : Type} [RecordSource ρ] {records : ρ}

namespace RecordSource

/-- What is taken are the first records that remain. -/
theorem toList_take (records : ρ) (count : Nat) (taken : Array Record) :
    (take records count taken).1.toList = taken.toList ++ (remaining records).take count := by
  induction count generalizing records taken with
  | zero => simp [take]
  | succ count ih =>
      simp only [take]
      cases hnext : next records with
      | mk record? rest =>
          cases record? with
          | none => simp [(remaining_of_none (congrArg Prod.fst hnext)).1]
          | some record =>
              have hrest : (next records).2 = rest := congrArg Prod.snd hnext
              rw [(remaining_of_some (congrArg Prod.fst hnext)).1, hrest, ih rest]
              simp

/-- What was taken before makes no difference to what is left behind more records. -/
theorem take_snd (records : ρ) (count : Nat) (taken : Array Record) :
    (take records count taken).2 = (take records count #[]).2 := by
  induction count generalizing records taken with
  | zero => rfl
  | succ count ih =>
      simp only [take]
      obtain ⟨record?, rest⟩ := next records
      cases record? with
      | none => rfl
      | some record => rw [ih rest (taken.push record), ih rest (#[].push record)]

/-- Behind a request that gives no record no further one is made. -/
theorem take_of_none (h : (next records).1 = none) (count : Nat) :
    (take records (count + 1) #[]).2 = (next records).2 := by
  simp only [take]
  generalize next records = following at h ⊢
  obtain ⟨record?, rest⟩ := following
  cases h
  rfl

/-- Behind a record the others are asked for. -/
theorem take_of_some {record : Record} (h : (next records).1 = some record) (count : Nat) :
    (take records (count + 1) #[]).2 = (take (next records).2 count #[]).2 := by
  simp only [take]
  generalize next records = following at h ⊢
  obtain ⟨record?, rest⟩ := following
  cases h
  exact take_snd rest count _

/-- Where a record remains, it is handed out next. -/
theorem next_of_remaining_cons {record : Record} {others : List Record}
    (h : remaining records = record :: others) :
    (next records).1 = some record ∧ remaining (next records).2 = others := by
  cases hnext : (next records).1 with
  | none =>
      rw [(remaining_of_none hnext).1] at h
      exact absurd h (by simp)
  | some found =>
      rw [(remaining_of_some hnext).1, List.cons.injEq] at h
      exact ⟨by rw [h.1], h.2⟩

/-- Taking all records asks for one more than there are. -/
theorem takeAll_snd (records : ρ) :
    (takeAll records).2 = (take records ((remaining records).length + 1) #[]).2 := by
  generalize hfound : remaining records = found
  induction found generalizing records with
  | nil =>
      have hnone : (next records).1 = none := by
        by_contra hsome
        obtain ⟨record, hrecord⟩ := Option.ne_none_iff_exists'.mp hsome
        rw [(remaining_of_some hrecord).1] at hfound
        exact absurd hfound (by simp)
      rw [(remaining_of_none hnone).2, take_of_none hnone]
  | cons record others ih =>
      obtain ⟨hrecord, hothers⟩ := next_of_remaining_cons hfound
      rw [(remaining_of_some hrecord).2, take_of_some hrecord, List.length_cons,
        ih (next records).2 hothers]

end RecordSource

/-- A record is written before the next one is asked for. -/
theorem writeEach_of_some {record : Record} (h : (RecordSource.next records).1 = some record)
    (format : Format) (sink : Sink) :
    writeEach format records sink =
      let rest := (RecordSource.next records).2
      let behind := sink.gets (bytesOf (format.each record))
      match sink.refusal (format.each record) with
      | some error => { error := some error, sink := behind, records := rest }
      | none => writeEach format rest behind := by
  rw [writeEach]
  split
  · simp_all
  · rename_i found hfound
    obtain rfl : record = found := Option.some.inj (h.symm.trans hfound)
    rw [Sink.putAll_eq]
    cases sink.refusal (format.each record) <;> rfl

/-- Where the pieces of a record are refused and those of the records before it are not, no record
behind it is asked for. -/
theorem records_writeEach_of_refused {format : Format} {front others : List Record}
    {record : Record} {sink : Sink}
    (hremaining : RecordSource.remaining records = front ++ record :: others)
    (hfits : sink.Fits (bytesOf (front.flatMap format.each)).size)
    (hrefused : ¬ sink.Fits (bytesOf ((front ++ [record]).flatMap format.each)).size) :
    (writeEach format records sink).records =
      (RecordSource.take records (front.length + 1) #[]).2 := by
  induction front generalizing records sink with
  | nil =>
      obtain ⟨hnext, _⟩ := RecordSource.next_of_remaining_cons hremaining
      have hsome : sink.refusal (format.each record) ≠ none := by
        rw [ne_eq, Sink.refusal_eq_none_iff]
        simpa using hrefused
      obtain ⟨error, herror⟩ := Option.ne_none_iff_exists'.mp hsome
      rw [writeEach_of_some hnext, RecordSource.take_of_some hnext, herror]
      rfl
  | cons first front ih =>
      obtain ⟨hnext, hothers⟩ := RecordSource.next_of_remaining_cons hremaining
      rw [List.flatMap_cons, bytesOf_append, Sink.fits_append] at hfits
      rw [List.cons_append, List.flatMap_cons, bytesOf_append, Sink.fits_append] at hrefused
      have hnone : sink.refusal (format.each first) = none := Sink.refusal_eq_none_iff.mpr hfits.1
      rw [writeEach_of_some hnext, RecordSource.take_of_some hnext, hnone]
      exact ih hothers hfits.2 fun hmore ↦ hrefused ⟨hfits.1, hmore⟩

omit [RecordSource ρ] in
/-- Handing the last pieces over asks for no record. -/
theorem Writing.records_finish (writing : Writing ρ) (pieces : List Piece) :
    (writing.finish pieces).records = writing.records := by
  unfold finish
  split
  · rfl
  · split <;> rfl

/-- Where the opening is refused no record is asked for. -/
theorem records_writeRecords_of_opening {format : Format} (hstreamed : format.isStreamed = true)
    {sink : Sink} (hrefused : ¬ sink.Fits (bytesOf format.opening).size) (records : ρ) :
    (writeRecords format records sink).records = records := by
  have hsome : sink.refusal format.opening ≠ none := by
    rwa [ne_eq, Sink.refusal_eq_none_iff]
  obtain ⟨error, herror⟩ := Option.ne_none_iff_exists'.mp hsome
  rw [writeRecords, if_pos hstreamed, Sink.putAll_eq, herror]

/-- Behind the opening the records are written one by one. -/
theorem records_writeRecords_of_streamed {format : Format} (hstreamed : format.isStreamed = true)
    {sink : Sink} (hfits : sink.Fits (bytesOf format.opening).size) (records : ρ) :
    (writeRecords format records sink).records =
      (writeEach format records (sink.gets (bytesOf format.opening))).records := by
  have hnone : sink.refusal format.opening = none := Sink.refusal_eq_none_iff.mpr hfits
  rw [writeRecords, if_pos hstreamed, Sink.putAll_eq, hnone]
  exact Writing.records_finish _ _

/-- Where the pieces of all records fit, all of them are taken. -/
theorem records_writeEach_of_fits {format : Format} {sink : Sink}
    (hfits : sink.Fits (bytesOf ((RecordSource.remaining records).flatMap format.each)).size) :
    (writeEach format records sink).records = (RecordSource.takeAll records).2 := by
  have hdelivers := writeEach_delivers format records sink
  exact hdelivers.records_eq (hdelivers.error_eq.trans (Sink.refusal_eq_none_iff.mpr hfits))

/-- The other formats take all records first. -/
theorem records_writeRecords_of_collected {format : Format} (hcollected : format.isStreamed = false)
    (records : ρ) (sink : Sink) :
    (writeRecords format records sink).records = (RecordSource.takeAll records).2 := by
  simp only [writeRecords, hcollected, Bool.false_eq_true, if_false]
  exact Writing.records_finish _ _

/-- Writing each record asks for records and does nothing else to their source. -/
theorem exists_take_writeEach (format : Format) (records : ρ) (sink : Sink) :
    ∃ count, (writeEach format records sink).records = (RecordSource.take records count #[]).2 := by
  fun_induction writeEach format records sink with
  | case1 records sink following hnone => exact ⟨1, (RecordSource.take_of_none hnone 0).symm⟩
  | case2 records sink following record hsome stopped error hput =>
      exact ⟨1, (RecordSource.take_of_some hsome 0).symm⟩
  | case3 records sink following record hsome behind hput ih =>
      obtain ⟨count, hcount⟩ := ih
      exact ⟨count + 1, hcount.trans (RecordSource.take_of_some hsome count).symm⟩

/-- Writing records asks for records and does nothing else to their source. -/
theorem exists_take_writeRecords (format : Format) (records : ρ) (sink : Sink) :
    ∃ count,
      (writeRecords format records sink).records = (RecordSource.take records count #[]).2 := by
  cases hstreamed : format.isStreamed with
  | false =>
      rw [records_writeRecords_of_collected hstreamed, RecordSource.takeAll_snd]
      exact ⟨_, rfl⟩
  | true =>
      by_cases hfits : sink.Fits (bytesOf format.opening).size
      · rw [records_writeRecords_of_streamed hstreamed hfits]
        exact exists_take_writeEach format records _
      · exact ⟨0, records_writeRecords_of_opening hstreamed hfits records⟩

end Records

/-- The output up to the end of these records: what stands before all records, and the records. -/
def Format.upTo (format : Format) (records : List Record) : String :=
  String.join ((format.opening ++ records.flatMap format.each).map Piece.text)

/-- What stands behind all records. -/
def Format.ending (format : Format) : String :=
  String.join (format.closing.map Piece.text)

/-- The output is what goes up to the end of all records and what stands behind them. -/
theorem Format.output_eq {format : Format} (hstreamed : format.isStreamed = true)
    (records : List Record) : format.output records = format.upTo records ++ format.ending := by
  cases format with
  | json => exact absurd hstreamed (by decide)
  | yaml => exact absurd hstreamed (by decide)
  | jsonl => simp [output, pieces, upTo, ending, String.join_append, String.append_assoc]
  | tag => simp [output, pieces, upTo, ending, String.join_append, String.append_assoc]

/-- A limited sink has room for the pieces up to the end of some records exactly if it takes as many
bytes. -/
theorem Format.fits_upTo (format : Format) (records : List Record) (limit : Nat)
    (refusesFlush : Bool) :
    let sink : Sink := { room := some limit, refusesFlush }
    (format.upTo records).utf8ByteSize ≤ limit ↔
      sink.Fits (bytesOf format.opening).size ∧
        (sink.gets (bytesOf format.opening)).Fits (bytesOf (records.flatMap format.each)).size := by
  intro sink
  rw [← Sink.fits_append, ← bytesOf_append]
  simp [sink, Sink.Fits, bytesOf, upTo]

section Reader

variable {σ : Type} [CharSource σ]

/-- The last record taken ends on the line that is counted last. -/
theorem Reader.line_takeRecords {reader : Reader σ} {front : List Record} {record : Record}
    (h : (reader.takeRecords (front.length + 1)).1 = front ++ [record]) :
    (reader.takeRecords (front.length + 1)).2.line = record.line := by
  induction front generalizing reader with
  | nil =>
      cases hnext : reader.nextRecord.1 with
      | none => simp [takeRecords_of_none hnext] at h
      | some found =>
          rw [List.length_nil, takeRecords_of_some hnext] at h ⊢
          obtain rfl : found = record := by simpa using h
          obtain ⟨fields, _, rfl⟩ := Option.map_eq_some_iff.mp hnext
          rfl
  | cons first front ih =>
      cases hnext : reader.nextRecord.1 with
      | none => simp [takeRecords_of_none hnext] at h
      | some found =>
          rw [List.length_cons, takeRecords_of_some hnext] at h ⊢
          exact ih (List.cons.inj h).2

namespace RecordReader

/-- These records were asked for and no others, so that the source stands directly behind the physical
line on which the last of them ends. -/
structure StandsBehind (start : RecordReader σ) (front : List Record) (record : Record)
    (last : RecordReader σ) : Prop where
  asked : RecordSource.take start (front.length + 1) #[] = ((front ++ [record]).toArray, last)
  lines : ∃ taken, TakesLines (unread start.reader.source) taken (unread last.reader.source) ∧
    physicalLines taken = record.line

/-- Records were asked for until none was left. -/
structure ReadToEnd (start last : RecordReader σ) : Prop where
  asked : RecordSource.take start ((RecordSource.remaining start).length + 1) #[] =
    ((RecordSource.remaining start).toArray, last)
  unread_eq_nil : unread last.reader.source = []

variable {start : RecordReader σ}

/-- Behind some records of a fresh reader the source stands behind their lines. -/
theorem standsBehind_take {front others : List Record} {record : Record}
    (hcounts : start.reader.CountsLines (unread start.reader.source))
    (hremaining : RecordSource.remaining start = front ++ record :: others) :
    start.StandsBehind front record (RecordSource.take start (front.length + 1) #[]).2 := by
  have htaken : (RecordSource.take start (front.length + 1) #[]).1.toList = front ++ [record] := by
    have hsplit : front ++ record :: others = (front ++ [record]) ++ others := by simp
    rw [RecordSource.toList_take, hremaining, hsplit, List.take_left' (by simp)]
    rfl
  obtain ⟨hrecords, hreader⟩ := Reader.take_eq_takeRecords start (front.length + 1) #[]
  rw [htaken] at hrecords
  have hbehind := (Reader.countsLines_invariant _).takeRecords (front.length + 1) hcounts
  obtain ⟨taken, hlines, hcount⟩ := hbehind.taken
  rw [Reader.line_takeRecords (by simpa using hrecords.symm)] at hcount
  refine ⟨?_, taken, ?_, hcount.symm⟩
  · rw [← htaken]
  · rwa [hreader]

/-- A reader of which all records were taken has been read to its end. -/
theorem readToEnd_takeAll (start : RecordReader σ) :
    start.ReadToEnd (RecordSource.takeAll start).2 := by
  rw [RecordSource.takeAll_snd]
  generalize hcount : (RecordSource.remaining start).length + 1 = count
  have htaken : (RecordSource.take start count #[]).1.toList = RecordSource.remaining start := by
    rw [RecordSource.toList_take, List.take_of_length_le (by omega)]
    rfl
  obtain ⟨hrecords, hreader⟩ := Reader.take_eq_takeRecords start count #[]
  rw [htaken] at hrecords
  refine ⟨?_, ?_⟩
  · rw [hcount, ← htaken]
  · have hfew : (start.reader.takeRecords count).1.length < count := by
      have hlength := congrArg List.length hrecords
      simp only [List.nil_append] at hlength
      omega
    rw [hreader]
    exact (start.reader.climbs_takeRecords count).2 hfew

end RecordReader

end Reader

namespace LineSource

/-- The failures met are those kept, and none has been met as long as more is to come. -/
def KeepsMet (met : List StreamError) (source : LineSource) : Prop :=
  source.error.toList = met ∧ (source.finished = false → met = [])

/-- Requests for characters keep the failure that they meet. -/
theorem keepsMet_ledger : SourceLedger KeepsMet := by
  refine ledger_of_step ?_
  intro met source failure after hstep h
  cases hstep with
  | line hheld hopen htext =>
      obtain ⟨hkept, hnone⟩ := h
      exact ⟨by simpa using hkept, fun hafter ↦ by simpa using hnone hafter⟩
  | stop hheld hopen htext herror =>
      obtain ⟨hkept, hnone⟩ := h
      obtain rfl := hnone hopen
      have hempty : source.error = none := by simpa using hkept
      exact ⟨by simp [hempty], by simp⟩
  | advance hheld =>
      obtain ⟨hkept, hnone⟩ := h
      exact ⟨by simpa using hkept, fun hafter ↦ by simpa using hnone hafter⟩

/-- Whatever a sink takes, the failures met while records were taken for it are those kept. -/
theorem kept_writeRecords {reader : Reader LineSource} (hempty : reader.source.error = none)
    (format : Format) (sink : Sink) :
    let last := (writeRecords format ({ reader } : RecordReader LineSource) sink).records
    last.reader.source.error.toList = failures last.events := by
  intro last
  let start : RecordReader LineSource := { reader }
  obtain ⟨count, hcount⟩ := exists_take_writeRecords format start sink
  have hstart : KeepsMet [] start.reader.source := ⟨by simp [start, hempty], fun _ ↦ rfl⟩
  have hkept : KeepsMet ([] ++ failures (RecordSource.take start count #[]).2.events)
      (RecordSource.take start count #[]).2.reader.source :=
    keepsMet_ledger.take count start hstart #[]
  rw [← hcount] at hkept
  exact hkept.1

/-- Of an open source of lines that is read to its end the failure of the stream is kept. -/
theorem kept_of_readToEnd {reader : Reader LineSource} {last : RecordReader LineSource}
    (hcapacity : 0 < reader.source.stream.capacity) (hopen : reader.source.finished = false)
    (hempty : reader.source.error = none)
    (hread : ({ reader } : RecordReader LineSource).ReadToEnd last) :
    last.reader.source.error = reader.source.stream.stop.error? := by
  have hlast : (RecordSource.takeAll ({ reader } : RecordReader LineSource)).2 = last := by
    rw [RecordSource.takeAll_snd, hread.asked]
  rw [← hlast]
  exact error_takeAll hcapacity hopen hempty

end LineSource

/-- Let the records of a fresh reader with valid options be written to a sink that takes a limited
number of bytes and may refuse to be flushed, and look at the first byte that it refuses.

With JSON lines and tags the output is what goes up to the end of the records, and the ending. If the
byte stands before all records, nothing was read. If it belongs to a record, this record and those
before it were asked for and no others: the source stands directly behind the line on which the
record ends. If it belongs to the ending, or if only the flush is refused, the reader was read to its
end. With a JSON array and YAML the reader is read to its end whatever the sink takes, even if that is
no byte at all.

Over the lines of a stream the failure that can be taken afterwards is the one that these reads met,
and there is none if they met none. Once the reader was read to its end it is the failure of the
segment at which the stream stops. -/
theorem input_of_failed_write {σ : Type} [CharSource σ] {source : σ} {options : Options}
    {reader : Reader σ} (hbind : Reader.ofOptions source options = .ok reader) (format : Format)
    (limit : Nat) (refusesFlush : Bool) :
    let start : RecordReader σ := { reader }
    let found := RecordSource.remaining start
    let sink : Sink := { room := some limit, refusesFlush }
    let last := (writeRecords format start sink).records
    (format = .jsonl ∨ format = .tag →
      format.output found = format.upTo found ++ format.ending ∧
      (limit < (format.upTo []).utf8ByteSize → last = start) ∧
      (∀ (front others : List Record) (record : Record), found = front ++ record :: others →
        (format.upTo front).utf8ByteSize ≤ limit →
        limit < (format.upTo (front ++ [record])).utf8ByteSize →
          start.StandsBehind front record last) ∧
      ((format.upTo found).utf8ByteSize ≤ limit → start.ReadToEnd last)) ∧
    (format = .json ∨ format = .yaml →
      ∀ anySink : Sink, start.ReadToEnd (writeRecords format start anySink).records) ∧
    ∀ (lines : LineSource) (anySink : Sink), lines.error = none →
      let start : RecordReader LineSource := { reader := { source := lines, options } }
      let last := (writeRecords format start anySink).records
      let kept := last.reader.source.takeError.1
      kept.toList = failures last.events ∧
        (0 < lines.stream.capacity → lines.finished = false → start.ReadToEnd last →
          kept = lines.stream.stop.error?) := by
  intro start found sink last
  obtain ⟨hreader, hvalid⟩ := Reader.ofOptions_eq_ok_iff.mp hbind
  have hcounts : reader.CountsLines (unread reader.source) := by
    rw [hreader]
    exact .fresh rfl hvalid
  refine ⟨fun hformat ↦ ?_, fun hformat anySink ↦ ?_, fun lines anySink hempty ↦ ?_⟩
  · have hstreamed : format.isStreamed = true := by rcases hformat with rfl | rfl <;> rfl
    refine ⟨format.output_eq hstreamed found, fun hopening ↦ ?_, ?_, fun hall ↦ ?_⟩
    · have hrefused : ¬ sink.Fits (bytesOf format.opening).size := by
        intro hfits
        have hsize := (format.fits_upTo [] limit refusesFlush).mpr ⟨hfits, by simp [Sink.Fits]⟩
        omega
      exact records_writeRecords_of_opening hstreamed hrefused start
    · intro front others record hremaining hfront hrecord
      obtain ⟨hopening, hfits⟩ := (format.fits_upTo front limit refusesFlush).mp hfront
      have hrefused : ¬ (sink.gets (bytesOf format.opening)).Fits
          (bytesOf ((front ++ [record]).flatMap format.each)).size := by
        intro hmore
        have hsize := (format.fits_upTo (front ++ [record]) limit refusesFlush).mpr
          ⟨hopening, hmore⟩
        omega
      have hlast : last = (RecordSource.take start (front.length + 1) #[]).2 :=
        (records_writeRecords_of_streamed hstreamed hopening start).trans
          (records_writeEach_of_refused hremaining hfits hrefused)
      rw [hlast]
      exact RecordReader.standsBehind_take hcounts hremaining
    · obtain ⟨hopening, hfits⟩ := (format.fits_upTo found limit refusesFlush).mp hall
      have hlast : last = (RecordSource.takeAll start).2 :=
        (records_writeRecords_of_streamed hstreamed hopening start).trans
          (records_writeEach_of_fits hfits)
      rw [hlast]
      exact RecordReader.readToEnd_takeAll start
  · have hcollected : format.isStreamed = false := by rcases hformat with rfl | rfl <;> rfl
    rw [records_writeRecords_of_collected hcollected]
    exact RecordReader.readToEnd_takeAll start
  · exact ⟨LineSource.kept_writeRecords hempty format anySink, fun hcapacity hopen hread ↦
      LineSource.kept_of_readToEnd hcapacity hopen hempty hread⟩

/-- Where the newline behind the first record is refused, nothing of the second record is read. Where
a byte of the second record is refused, the failure that ended its open quote was met. -/
theorem input_of_failed_write_in_open_quote :
    let source : LineSource := .ofEvents 4
      [.data [0x61, 0x0A, 0x22, 0x62, 0x0A], .data [0x63], .failure "gone"]
    let first : Record := { line := 1, fields := ["a"] }
    let second : Record := { line := 2, fields := ["b\n"] }
    let start : RecordReader LineSource := { reader := { source } }
    let last (limit : Nat) := (writeRecords .jsonl start { room := some limit : Sink }).records
    Reader.ofOptions source {} = .ok start.reader ∧
      start.StandsBehind [] first (last 25) ∧
      (last 25).reader.source.takeError.1 = none ∧
      start.StandsBehind [first] second (last 30) ∧
      (last 30).reader.source.takeError.1 = some (.device "gone") := by
  intro source first second start last
  have hbind : Reader.ofOptions source {} = .ok start.reader := rfl
  have hfound : RecordSource.remaining start = [first, second] := by decide +kernel
  obtain ⟨hearly, _, hearlyKept⟩ := input_of_failed_write hbind .jsonl 25 false
  obtain ⟨hlate, _, hlateKept⟩ := input_of_failed_write hbind .jsonl 30 false
  obtain ⟨_, _, hinFirst, _⟩ := hearly (.inl rfl)
  obtain ⟨_, _, hinSecond, _⟩ := hlate (.inl rfl)
  have hnone : failures (last 25).events = [] := by decide +kernel
  have hmet : failures (last 30).events = [.device "gone"] := by decide +kernel
  refine ⟨hbind, ?_, ?_, ?_, ?_⟩
  · exact hinFirst [] [second] first hfound (by decide +kernel) (by decide +kernel)
  · have hkept := (hearlyKept source { room := some 25 } rfl).1
    simpa using hkept.trans hnone
  · exact hinSecond [first] [] second hfound (by decide +kernel) (by decide +kernel)
  · have hkept := (hlateKept source { room := some 30 } rfl).1
    simpa [Option.toList_eq_singleton_iff] using hkept.trans hmet

end Delimited
