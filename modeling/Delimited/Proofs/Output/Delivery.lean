import Delimited.Output.Write

/-!
# What a sink gets

Writing records hands pieces over until one is refused. Whatever hands out the records and whatever
the pieces are, a sink gets the front of one text, the output of all records, and the error is that
of the piece in which the first byte lies that it has no room for: `writeRecords_completes`.

`Format.originAt` says for each format what that byte belongs to, and
`limited_sink_gets_front` puts both together.
-/

namespace Delimited

/-- The bytes of pieces, in order. -/
def bytesOf (pieces : List Piece) : ByteArray :=
  (String.join (pieces.map Piece.text)).toUTF8

@[simp] theorem bytesOf_nil : bytesOf [] = .empty := rfl

@[simp] theorem bytesOf_cons (piece : Piece) (pieces : List Piece) :
    bytesOf (piece :: pieces) = piece.text.toByteArray ++ bytesOf pieces := by
  simp [bytesOf, String.join_cons, String.toByteArray_append]

@[simp] theorem bytesOf_append (pieces more : List Piece) :
    bytesOf (pieces ++ more) = bytesOf pieces ++ bytesOf more := by
  simp [bytesOf, String.join_append, String.toByteArray_append]

/-- The origin of the piece in which the byte at an index lies. -/
def originOf : List Piece → Nat → Origin
  | [], _ => .layout
  | piece :: pieces, index =>
      let size := piece.text.utf8ByteSize
      if index < size then piece.origin else originOf pieces (index - size)

/-- A byte of the front pieces has its origin there. -/
theorem originOf_append_of_lt {pieces : List Piece} {index : Nat}
    (h : index < (bytesOf pieces).size) (more : List Piece) :
    originOf (pieces ++ more) index = originOf pieces index := by
  induction pieces generalizing index with
  | nil => simp at h
  | cons piece pieces ih =>
      simp only [bytesOf_cons, ByteArray.size_append, String.size_toByteArray] at h
      simp only [List.cons_append, originOf]
      split
      · rfl
      · exact ih (by omega)

/-- A byte behind the front pieces has its origin in the others. -/
theorem originOf_append_of_le {pieces : List Piece} {index : Nat}
    (h : (bytesOf pieces).size ≤ index) (more : List Piece) :
    originOf (pieces ++ more) index = originOf more (index - (bytesOf pieces).size) := by
  induction pieces generalizing index with
  | nil => simp
  | cons piece pieces ih =>
      simp only [bytesOf_cons, ByteArray.size_append, String.size_toByteArray] at h ⊢
      simp only [List.cons_append, originOf]
      rw [if_neg (by omega), ih (by omega), Nat.sub_sub]

namespace Sink

/-- There is room for this many bytes. -/
def Fits (sink : Sink) (size : Nat) : Prop :=
  ∀ room ∈ sink.room, size ≤ room

/-- Whether there is room can be decided. -/
instance (sink : Sink) (size : Nat) : Decidable (sink.Fits size) :=
  inferInstanceAs (Decidable (∀ room ∈ sink.room, size ≤ room))

/-- The front of the bytes that there is room for. -/
def front (sink : Sink) (bytes : ByteArray) : ByteArray :=
  match sink.room with
  | none => bytes
  | some room => bytes.extract 0 room

/-- The sink behind as many of these bytes as there is room for. -/
def gets (sink : Sink) (bytes : ByteArray) : Sink :=
  { sink with written := sink.written ++ sink.front bytes, room := sink.room.map (· - bytes.size) }

@[simp] theorem gets_empty (sink : Sink) : sink.gets .empty = sink := by
  have hempty (room : Nat) : ByteArray.empty.extract 0 room = .empty := by
    rw [ByteArray.extract_eq_empty_iff]
    simp
  obtain ⟨written, room, refusesFlush, flushed⟩ := sink
  cases room <;> simp [gets, front, hempty]

/-- What is handed over in two parts is got like the whole. -/
theorem gets_append (sink : Sink) (bytes more : ByteArray) :
    sink.gets (bytes ++ more) = (sink.gets bytes).gets more := by
  cases hroom : sink.room with
  | none => simp [gets, front, hroom, ByteArray.append_assoc]
  | some room =>
      simp [gets, front, hroom, ByteArray.extract_append, ByteArray.append_assoc, Nat.sub_sub]

/-- Behind bytes that do not fit nothing is got. -/
theorem gets_append_of_not_fits {sink : Sink} {bytes : ByteArray} (h : ¬ sink.Fits bytes.size)
    (more : ByteArray) : sink.gets (bytes ++ more) = sink.gets bytes := by
  cases hroom : sink.room with
  | none => simp [Fits, hroom] at h
  | some room =>
      have hlt : room < bytes.size := by simpa [Fits, hroom] using h
      have hnone : room - bytes.size = 0 := by omega
      have hboth : room - (bytes.size + more.size) = 0 := by omega
      simp [gets, front, hroom, hnone, hboth, ByteArray.extract_append, ByteArray.extract_same]

/-- There is room for two parts if there is room for one and then for the other. -/
theorem fits_append (sink : Sink) (bytes more : ByteArray) :
    sink.Fits (bytes ++ more).size ↔ sink.Fits bytes.size ∧ (sink.gets bytes).Fits more.size := by
  cases hroom : sink.room with
  | none => simp [Fits, gets, hroom]
  | some room =>
      simp only [Fits, gets, hroom, Option.map_some, Option.mem_some_iff, forall_eq',
        ByteArray.size_append]
      omega

/-- A text is taken as far as there is room, and refused unless all of it fits. -/
theorem put_eq (sink : Sink) (text : String) :
    sink.put text = (sink.gets text.toByteArray, decide (sink.Fits text.utf8ByteSize)) := by
  cases hroom : sink.room with
  | none => simp [put, gets, front, Fits, hroom]
  | some room =>
      by_cases hfits : text.utf8ByteSize ≤ room
      · have hall : text.toByteArray.extract 0 room = text.toByteArray := by
          rw [← Nat.max_eq_left hfits]
          exact ByteArray.extract_zero_max_size
        simp [put, gets, front, Fits, hroom, hfits, hall]
      · have hnone : room - text.utf8ByteSize = 0 := by omega
        simp [put, gets, front, Fits, hroom, hfits, hnone]

/-- The error for bytes that there is no room for: that of the piece in which the first of them
lies. -/
def refusal (sink : Sink) (pieces : List Piece) : Option Error :=
  match sink.room with
  | none => none
  | some room =>
      if (bytesOf pieces).size ≤ room then none
      else some ((originOf pieces room).error fullReason)

@[simp] theorem refusal_nil (sink : Sink) : sink.refusal [] = none := by
  cases hroom : sink.room <;> simp [refusal, hroom]

/-- Nothing is refused exactly if there is room for all pieces. -/
theorem refusal_eq_none_iff {sink : Sink} {pieces : List Piece} :
    sink.refusal pieces = none ↔ sink.Fits (bytesOf pieces).size := by
  cases hroom : sink.room <;> simp [refusal, Fits, hroom]

/-- Where a front of the pieces does not fit, the others make no difference. -/
theorem refusal_append_of_not_fits {sink : Sink} {pieces : List Piece}
    (h : ¬ sink.Fits (bytesOf pieces).size) (more : List Piece) :
    sink.refusal (pieces ++ more) = sink.refusal pieces := by
  cases hroom : sink.room with
  | none => simp [Fits, hroom] at h
  | some room =>
      have hlt : room < (bytesOf pieces).size := by simpa [Fits, hroom] using h
      have hsum : ¬ (bytesOf (pieces ++ more)).size ≤ room := by
        rw [bytesOf_append, ByteArray.size_append]
        omega
      simp only [refusal, hroom, if_neg hsum, if_neg (Nat.not_le.mpr hlt),
        originOf_append_of_lt hlt]

/-- Where a front of the pieces fits, the others decide. -/
theorem refusal_append_of_fits {sink : Sink} {pieces : List Piece}
    (h : sink.Fits (bytesOf pieces).size) (more : List Piece) :
    sink.refusal (pieces ++ more) = (sink.gets (bytesOf pieces)).refusal more := by
  cases hroom : sink.room with
  | none => simp [refusal, gets, hroom]
  | some room =>
      have hle : (bytesOf pieces).size ≤ room := by simpa [Fits, hroom] using h
      have hsum : (bytesOf pieces).size + (bytesOf more).size ≤ room ↔
          (bytesOf more).size ≤ room - (bytesOf pieces).size := by omega
      simp only [refusal, gets, hroom, Option.map_some, bytesOf_append, ByteArray.size_append,
        hsum, originOf_append_of_le hle]

/-- A single piece that does not fit is refused with its own error. -/
theorem refusal_singleton {sink : Sink} {piece : Piece} (h : ¬ sink.Fits piece.text.utf8ByteSize) :
    sink.refusal [piece] = some (piece.origin.error fullReason) := by
  cases hroom : sink.room with
  | none => simp [Fits, hroom] at h
  | some room =>
      have hlt : room < piece.text.utf8ByteSize := by simpa [Fits, hroom] using h
      simp [refusal, hroom, originOf, hlt]

/-- Pieces are got as far as there is room for them, and the first one that is not got whole gives
the error. -/
theorem putAll_eq (sink : Sink) (pieces : List Piece) :
    sink.putAll pieces = (sink.gets (bytesOf pieces), sink.refusal pieces) := by
  induction pieces generalizing sink with
  | nil => simp [putAll]
  | cons piece pieces ih =>
      have hone : bytesOf [piece] = piece.text.toByteArray := by simp
      rw [putAll, put_eq]
      by_cases hfits : sink.Fits piece.text.utf8ByteSize
      · have hall : sink.Fits (bytesOf [piece]).size := by rwa [hone]
        have hrefusal : sink.refusal (piece :: pieces) = _ := refusal_append_of_fits hall pieces
        rw [hrefusal, hone, bytesOf_cons, gets_append]
        simp only [decide_eq_true hfits, ih]
      · have hfew : ¬ sink.Fits (bytesOf [piece]).size := by rwa [hone]
        have hrefusal : sink.refusal (piece :: pieces) = _ := refusal_append_of_not_fits hfew pieces
        rw [hrefusal, refusal_singleton hfits, bytesOf_cons, gets_append_of_not_fits hfits]
        simp only [decide_eq_false hfits]

end Sink

section Records

variable {ρ : Type} [RecordSource ρ]

/-- The records that are handed out from now on. -/
def RecordSource.remaining (records : ρ) : List Record :=
  (takeAll records).1.toList

/-- What was taken before stands in front, and makes no other difference. -/
theorem RecordSource.takeAll_append (records : ρ) (front taken : Array Record) :
    takeAll records (front ++ taken) =
      (front ++ (takeAll records taken).1, (takeAll records taken).2) := by
  fun_induction takeAll records taken with
  | case1 records taken following hnone =>
      rw [takeAll_eq, show (next records).1 = none from hnone]
  | case2 records taken following record hsome ih =>
      rw [takeAll_eq, show (next records).1 = some record from hsome, ← ih]
      simp only [Array.push_append, following]

/-- Nothing remains where no record is handed out. -/
theorem RecordSource.remaining_of_none {records : ρ} (h : (next records).1 = none) :
    remaining records = [] ∧ (takeAll records).2 = (next records).2 := by
  rw [remaining, takeAll_eq, h]
  exact ⟨rfl, rfl⟩

/-- The record that is handed out is the first one that remains. -/
theorem RecordSource.remaining_of_some {records : ρ} {record : Record}
    (h : (next records).1 = some record) :
    remaining records = record :: remaining (next records).2 ∧
      (takeAll records).2 = (takeAll (next records).2).2 := by
  have hfirst := takeAll_append (next records).2 #[record] #[]
  rw [remaining, takeAll_eq, h]
  simp only [List.push_toArray, List.nil_append, Array.append_empty] at hfirst ⊢
  rw [hfirst]
  simp [remaining]

/-- Pieces were handed over to a sink; all records were taken unless one of the pieces was refused. -/
structure Writing.Delivers (sink : Sink) (pieces : List Piece) (last : ρ) (writing : Writing ρ) :
    Prop where
  sink_eq : writing.sink = sink.gets (bytesOf pieces)
  error_eq : writing.error = sink.refusal pieces
  records_eq : writing.error = none → writing.records = last

/-- Pieces were handed over to a sink, which was flushed if none of them was refused. -/
structure Writing.Completes (sink : Sink) (pieces : List Piece) (last : ρ) (writing : Writing ρ) :
    Prop where
  written_eq : writing.sink.written = (sink.gets (bytesOf pieces)).written
  flushed_eq : writing.sink.flushed = (sink.flushed || decide (sink.Fits (bytesOf pieces).size))
  error_eq : writing.error = (sink.refusal pieces).or sink.flush.2
  records_eq : sink.Fits (bytesOf pieces).size → writing.records = last

omit [RecordSource ρ] in
/-- Handing the last pieces over and flushing completes the writing. -/
theorem Writing.Delivers.finish {sink : Sink} {pieces : List Piece} {last : ρ}
    {writing : Writing ρ} (h : writing.Delivers sink pieces last) (closing : List Piece) :
    (writing.finish closing).Completes sink (pieces ++ closing) last := by
  have hfitting := sink.fits_append (bytesOf pieces) (bytesOf closing)
  rw [← bytesOf_append] at hfitting
  unfold Writing.finish
  cases herror : writing.error with
  | some error =>
      -- a piece was refused before: the closing pieces are not handed over
      have hrefused : sink.refusal pieces = some error := h.error_eq ▸ herror
      have hfits : ¬ sink.Fits (bytesOf pieces).size := by
        rw [← Sink.refusal_eq_none_iff, hrefused]
        simp
      have hboth : ¬ sink.Fits (bytesOf (pieces ++ closing)).size := fun hall ↦
        hfits (hfitting.mp hall).1
      refine ⟨?_, ?_, ?_, fun hall ↦ absurd hall hboth⟩
      · rw [bytesOf_append, Sink.gets_append_of_not_fits hfits, h.sink_eq]
      · rw [decide_eq_false hboth, Bool.or_false, h.sink_eq]
        rfl
      · rw [Sink.refusal_append_of_not_fits hfits, hrefused]
        exact herror
  | none =>
      have hfits : sink.Fits (bytesOf pieces).size := by
        rw [← Sink.refusal_eq_none_iff, ← h.error_eq, herror]
      have hclosing := Sink.refusal_append_of_fits hfits closing
      have hall : sink.refusal (pieces ++ closing) = none ↔ _ := Sink.refusal_eq_none_iff
      rw [Sink.putAll_eq, h.sink_eq, ← hclosing]
      cases hrefused : sink.refusal (pieces ++ closing) with
      | some error =>
          have hboth : ¬ sink.Fits (bytesOf (pieces ++ closing)).size := by
            rw [← hall, hrefused]
            simp
          refine ⟨?_, ?_, by rw [hrefused]; rfl, fun hfit ↦ absurd hfit hboth⟩
          · rw [bytesOf_append, Sink.gets_append]
          · rw [decide_eq_false hboth, Bool.or_false]
            rfl
      | none =>
          refine ⟨?_, ?_, by rw [hrefused]; rfl, fun _ ↦ h.records_eq herror⟩
          · rw [bytesOf_append, Sink.gets_append]
            rfl
          · rw [decide_eq_true (hall.mp hrefused), Bool.or_true]
            rfl

omit [RecordSource ρ] in
/-- Without anything handed over all records can have been taken. -/
theorem Writing.delivers_nothing (records : ρ) (sink : Sink) :
    ({ error := none, sink, records } : Writing ρ).Delivers sink [] records :=
  ⟨sink.gets_empty.symm, sink.refusal_nil.symm, fun _ ↦ rfl⟩

omit [RecordSource ρ] in
/-- Where a front of the pieces was refused nothing more is handed over. -/
theorem Writing.delivers_refused {sink stopped : Sink} {pieces : List Piece} {error : Error}
    (h : sink.putAll pieces = (stopped, some error)) (more : List Piece) (records last : ρ) :
    ({ error := some error, sink := stopped, records } : Writing ρ).Delivers sink
      (pieces ++ more) last := by
  rw [Sink.putAll_eq, Prod.mk.injEq] at h
  obtain ⟨hsink, herror⟩ := h
  have hfits : ¬ sink.Fits (bytesOf pieces).size := by
    rw [← Sink.refusal_eq_none_iff, herror]
    simp
  refine ⟨?_, ?_, by simp⟩
  · rw [bytesOf_append, Sink.gets_append_of_not_fits hfits, hsink]
  · rw [Sink.refusal_append_of_not_fits hfits, herror]

omit [RecordSource ρ] in
/-- What is handed over behind a front of the pieces that was taken adds to it. -/
theorem Writing.Delivers.prepend {sink behind : Sink} {pieces more : List Piece} {last : ρ}
    {writing : Writing ρ} (h : writing.Delivers behind more last)
    (hput : sink.putAll pieces = (behind, none)) :
    writing.Delivers sink (pieces ++ more) last := by
  rw [Sink.putAll_eq, Prod.mk.injEq] at hput
  obtain ⟨rfl, hnone⟩ := hput
  refine ⟨?_, ?_, h.records_eq⟩
  · rw [bytesOf_append, Sink.gets_append, h.sink_eq]
  · rw [Sink.refusal_append_of_fits (Sink.refusal_eq_none_iff.mp hnone), h.error_eq]

/-- Writing each record before the next one is taken hands over the pieces of all records. -/
theorem writeEach_delivers (format : Format) (records : ρ) (sink : Sink) :
    (writeEach format records sink).Delivers sink
      ((RecordSource.remaining records).flatMap format.each) (RecordSource.takeAll records).2 := by
  fun_induction writeEach format records sink with
  | case1 records sink following hnone =>
      obtain ⟨hremaining, hlast⟩ := RecordSource.remaining_of_none hnone
      rw [hremaining, hlast]
      exact Writing.delivers_nothing _ sink
  | case2 records sink following record hsome stopped error hput =>
      obtain ⟨hremaining, _⟩ := RecordSource.remaining_of_some hsome
      rw [hremaining, List.flatMap_cons]
      exact Writing.delivers_refused hput _ _ _
  | case3 records sink following record hsome behind hput ih =>
      obtain ⟨hremaining, hlast⟩ := RecordSource.remaining_of_some hsome
      rw [hremaining, hlast, List.flatMap_cons]
      exact ih.prepend hput

/-- The formats that write each record before they take the next one hand over an opening, the pieces
of each record and a closing. -/
theorem writeStreamed_completes {format : Format} (hstreamed : format.isStreamed = true)
    (records : ρ) (sink : Sink) :
    (writeRecords format records sink).Completes sink
      (format.opening ++ (RecordSource.remaining records).flatMap format.each ++ format.closing)
      (RecordSource.takeAll records).2 := by
  unfold writeRecords
  rw [if_pos hstreamed]
  cases hput : sink.putAll format.opening with
  | mk behind refused =>
      cases refused with
      | some error => exact (Writing.delivers_refused hput _ records _).finish format.closing
      | none => exact ((writeEach_delivers format records behind).prepend hput).finish format.closing

/-- Writing records hands over the pieces of all of them, in every format, and flushes. -/
theorem writeRecords_completes (format : Format) (records : ρ) (sink : Sink) :
    (writeRecords format records sink).Completes sink
      (format.pieces (RecordSource.remaining records)) (RecordSource.takeAll records).2 := by
  have hcollected (pieces : List Piece) :=
    (Writing.delivers_nothing (RecordSource.takeAll records).2 sink).finish pieces
  cases format with
  | json => exact hcollected _
  | yaml => exact hcollected _
  | jsonl => exact writeStreamed_completes rfl records sink
  | tag => exact writeStreamed_completes rfl records sink

/-- A sink with room for everything gets the whole output, and all records are taken. -/
theorem writeRecords_unlimited (format : Format) (records : ρ) :
    let writing := writeRecords format records ({} : Sink)
    writing.error = none ∧
      writing.sink.written = (format.output (RecordSource.remaining records)).toUTF8 ∧
      writing.records = (RecordSource.takeAll records).2 := by
  have hcompletes := writeRecords_completes format records {}
  refine ⟨hcompletes.error_eq, ?_, hcompletes.records_eq ?_⟩
  · refine hcompletes.written_eq.trans ?_
    simp [Sink.gets, Sink.front, bytesOf, Format.output]
  · simp [Sink.Fits]

end Records

/-- The records of a list remain in the list. -/
@[simp] theorem RecordSource.remaining_list (records : List Record) :
    RecordSource.remaining records = records := by
  induction records with
  | nil => exact (remaining_of_none rfl).1
  | cons record records ih =>
      have hfirst : remaining (record :: records) = record :: remaining records :=
        (remaining_of_some rfl).1
      rw [hfirst, ih]

/-- A sink with room for everything gets the whole output of a list. -/
theorem writeRecords_list (format : Format) (records : List Record) :
    (writeRecords format records ({} : Sink)).error = none ∧
      (writeRecords format records ({} : Sink)).sink.written = (format.output records).toUTF8 := by
  obtain ⟨herror, hwritten, _⟩ := writeRecords_unlimited format records
  rw [RecordSource.remaining_list] at hwritten
  exact ⟨herror, hwritten⟩

/-- What a byte of the lines of records belongs to: the object of a record, or the newline behind
it. -/
def lineOriginAt : List Record → Nat → Origin
  | [], _ => .layout
  | record :: records, index =>
      let size := (Json.record record).utf8ByteSize
      if index < size then .document
      else if index = size then .layout
      else lineOriginAt records (index - (size + 1))

/-- What a byte of the output of records belongs to. -/
def Format.originAt : Format → List Record → Nat → Origin
  | .json, records, index =>
      if index < (Json.records records).utf8ByteSize then .document else .layout
  | .jsonl, records, index => lineOriginAt records index
  | .yaml, _, _ => .document
  | .tag, _, _ => .layout

/-- Pieces of layout have no other origin. -/
theorem originOf_layout {pieces : List Piece} (h : ∀ piece ∈ pieces, piece.origin = .layout)
    (index : Nat) : originOf pieces index = .layout := by
  induction pieces generalizing index with
  | nil => rfl
  | cons piece pieces ih =>
      obtain ⟨hpiece, hpieces⟩ := List.forall_mem_cons.mp h
      simp only [originOf, hpiece, ih hpieces, ite_self]

/-- The pieces of a record on a line of its own are its object and a newline. -/
theorem originOf_lines (records : List Record) (index : Nat) :
    originOf (records.flatMap Format.jsonl.each) index = lineOriginAt records index := by
  induction records generalizing index with
  | nil => rfl
  | cons record records ih =>
      have hnewline : "\n".utf8ByteSize = 1 := rfl
      simp only [List.flatMap_cons, Format.each, List.cons_append, List.nil_append, originOf,
        lineOriginAt, ih, hnewline, Nat.sub_sub]
      split
      · rfl
      · exact ite_congr (propext (by omega)) (fun _ ↦ rfl) (fun _ ↦ rfl)

/-- The origin of a byte of the output is that of the piece in which it lies. -/
theorem originOf_pieces {format : Format} {records : List Record} {index : Nat}
    (h : index < (bytesOf (format.pieces records)).size) :
    originOf (format.pieces records) index = format.originAt records index := by
  cases format with
  | json => simp [Format.pieces, originOf, Format.originAt]
  | jsonl =>
      rw [Format.originAt, ← originOf_lines]
      simp [Format.pieces, Format.opening, Format.closing]
  | yaml =>
      simp [Format.pieces] at h
      simp [Format.pieces, originOf, Format.originAt, h]
  | tag =>
      refine originOf_layout ?_ index
      simp only [Format.pieces, Format.opening, Format.closing, Format.each, List.forall_mem_append,
        List.forall_mem_singleton, List.forall_mem_flatMap]
      simp

/-- A sink that takes a limited number of bytes gets exactly the front of the output of records. The
output is written whole and the sink flushed exactly if there is room for all of it; otherwise the
first byte that there is no room for decides about the error: one of a document stands for a failure
to write it, one of the layout around documents for a failure of the device. -/
theorem limited_sink_gets_front (format : Format) (records : List Record) (limit : Nat)
    (refusesFlush : Bool) :
    let whole := (writeRecords format records ({} : Sink)).sink.written
    let writing := writeRecords format records { room := some limit, refusesFlush : Sink }
    writing.sink.written = whole.extract 0 limit ∧
      writing.sink.written.size = min limit whole.size ∧
      (writing.error = none ↔ whole.size ≤ limit ∧ refusesFlush = false) ∧
      (writing.sink.flushed = true ↔ whole.size ≤ limit) ∧
      (whole.size ≤ limit → refusesFlush = true →
        writing.error = some (.io (.device Sink.flushReason))) ∧
      (limit < whole.size →
        writing.error = some
          (match format.originAt records limit with
          | .document => .output Sink.fullReason
          | .layout => .io (.device Sink.fullReason))) := by
  intro whole writing
  have hwriting := writeRecords_completes format records { room := some limit, refusesFlush : Sink }
  rw [RecordSource.remaining_list] at hwriting
  have hbytes : whole = bytesOf (format.pieces records) := (writeRecords_list format records).2
  have hfront : writing.sink.written = whole.extract 0 limit := by
    refine hwriting.written_eq.trans ?_
    rw [hbytes]
    simp [Sink.gets, Sink.front]
  have hflushed : writing.sink.flushed = decide (whole.size ≤ limit) := by
    refine hwriting.flushed_eq.trans ?_
    simp [Sink.Fits, hbytes]
  have herror : writing.error =
      if whole.size ≤ limit then
        if refusesFlush then some (.io (.device Sink.flushReason)) else none
      else some ((originOf (format.pieces records) limit).error Sink.fullReason) := by
    refine hwriting.error_eq.trans ?_
    simp only [Sink.refusal, Sink.flush, ← hbytes]
    split <;> rfl
  refine ⟨hfront, ?_, ?_, by simp [hflushed], ?_, ?_⟩
  · rw [hfront, ByteArray.size_extract, Nat.sub_zero]
  · rw [herror]
    by_cases hfits : whole.size ≤ limit
    · cases refusesFlush <;> simp [hfits]
    · simp [hfits]
  · intro hfits hrefuses
    rw [herror, if_pos hfits, if_pos hrefuses]
  · intro hlimit
    have horigin := originOf_pieces (hbytes ▸ hlimit)
    rw [herror, if_neg (Nat.not_le.mpr hlimit), horigin]
    cases format.originAt records limit <;> rfl

end Delimited
