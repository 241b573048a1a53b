import Delimited.Proofs.LentStream
import Delimited.Proofs.Output.Delivery

/-!
# All records of a reader

Taking records to the end makes as many reads as taking any number of them that the text cannot hold:
`remaining_eq_takeRecords`. So what is known about a run of requests for records holds for all of
them: readers that agree hand out the same records, and behind all of them a source of lines is
finished and keeps the failure of the segment at which it stopped, if that has one.

`writeRecords_lineSource` says what is written of the lines of a stream and which failure is kept.
-/

namespace Delimited

open CharSource (unread)

section Reader

variable {σ τ : Type} [CharSource σ] [CharSource τ]

/-- All records are taken when more are asked for than there are characters. -/
theorem remaining_eq_takeRecords (records : RecordReader σ) {count : Nat}
    (h : (unread records.reader.source).length < count) :
    RecordSource.remaining records = (records.reader.takeRecords count).1 ∧
      (RecordSource.takeAll records).2.reader = (records.reader.takeRecords count).2 := by
  induction count generalizing records with
  | zero => omega
  | succ count ih =>
      have hrecord : (RecordSource.next records).1 = records.reader.nextRecord.1 := rfl
      have hreader : (RecordSource.next records).2.reader = records.reader.nextRecord.2.reader := rfl
      cases hnext : records.reader.nextRecord.1 with
      | none =>
          obtain ⟨hremaining, hlast⟩ := RecordSource.remaining_of_none (hrecord.trans hnext)
          rw [hremaining, hlast, Reader.takeRecords_of_none hnext]
          exact ⟨rfl, hreader⟩
      | some record =>
          obtain ⟨hremaining, hlast⟩ := RecordSource.remaining_of_some (hrecord.trans hnext)
          -- a record takes a character, so fewer are left than are still asked for
          have hless : (unread (RecordSource.next records).2.reader.source).length <
              (unread records.reader.source).length :=
            RecordSource.bound_next_lt records (by rw [hrecord, hnext]; rfl)
          obtain ⟨hothers, hend⟩ := ih (RecordSource.next records).2 (by omega)
          rw [hremaining, hlast, Reader.takeRecords_of_some hnext, hothers, hend, hreader]
          exact ⟨rfl, rfl⟩

/-- Readers that agree hand out the same records. -/
theorem remaining_of_agrees {first : Reader σ} {second : Reader τ}
    (h : first.Agrees second) :
    RecordSource.remaining ({ reader := first } : RecordReader σ) =
      RecordSource.remaining ({ reader := second } : RecordReader τ) := by
  have hcount := Nat.lt_add_one (unread first.source).length
  have hsecond : (unread second.source).length < (unread first.source).length + 1 := by
    rw [h.unread]
    exact Nat.lt_add_one _
  have htaken := h.ahead.takeRecords ((unread first.source).length + 1)
  rw [Record.behind_zero, List.map_id] at htaken
  rw [(remaining_eq_takeRecords { reader := first } hcount).1,
    (remaining_eq_takeRecords { reader := second } hsecond).1, htaken]

end Reader

namespace LineSource

/-- A read that gives no line leaves the source finished. -/
theorem finished_readFields {reader : Reader LineSource} {skipEmpty : Bool} {events : Array Event}
    (h : (reader.readFields skipEmpty events).fields? = none) :
    (reader.readFields skipEmpty events).reader.source.finished = true := by
  fun_induction Reader.readFields reader skipEmpty events with
  | case1 reader events pull events' hnone => exact (finished_of_none (.inl rfl) hnone).1
  | case2 _ _ _ _ _ _ _ _ ih => exact ih h
  | case3 _ _ _ _ _ _ _ _ _ ih => exact ih h
  | case4 _ _ _ _ _ _ _ _ _ _ _ _ ih => exact ih h
  | case5 => simp at h
  | case6 => simp at h

/-- Behind all records the source is finished. -/
theorem finished_takeRecords (reader : Reader LineSource) {count : Nat}
    (h : (unread reader.source).length < count) :
    (reader.takeRecords count).2.source.finished = true := by
  induction count generalizing reader with
  | zero => omega
  | succ count ih =>
      cases hnext : reader.nextRecord.1 with
      | none =>
          rw [Reader.takeRecords_of_none hnext]
          exact finished_readFields (Option.map_eq_none_iff.mp hnext)
      | some record =>
          have hless : (unread reader.nextRecord.2.reader.source).length <
              (unread reader.source).length :=
            RecordReader.length_unread_next_lt { reader } (by simp [RecordReader.next, hnext])
          rw [Reader.takeRecords_of_some hnext]
          exact ih _ (by omega)

/-- Of a source that is open the failure of the segment where its stream stops is kept behind all
records, if that segment has one. -/
theorem error_takeAll {reader : Reader LineSource}
    (hcapacity : 0 < reader.source.stream.capacity) (hopen : reader.source.finished = false)
    (hempty : reader.source.error = none) :
    (RecordSource.takeAll ({ reader } : RecordReader LineSource)).2.reader.source.error =
      reader.source.stream.stop.error? := by
  have hcount := Nat.lt_add_one (unread reader.source).length
  have hstart : Accounts reader.source.stream.stop [] [] reader.source :=
    ⟨hcapacity, fun _ ↦ rfl, by simp [hopen], by simp [hopen], by simp [hempty]⟩
  let start : RecordReader LineSource := { reader }
  let rest := (RecordSource.take start ((unread reader.source).length + 1) #[]).2
  have haccounts : Accounts reader.source.stream.stop [] ([] ++ failures rest.events)
      rest.reader.source :=
    (accounts_ledger reader.source.stream.stop []).take _ start hstart #[]
  have hlast : rest.reader = _ := (Reader.take_eq_takeRecords start _ #[]).2
  have hkept := haccounts.error.trans haccounts.met_eq
  rw [hlast, finished_takeRecords reader hcount, if_pos rfl, List.nil_append] at hkept
  rw [(remaining_eq_takeRecords { reader } hcount).2]
  have hhead := congrArg List.head? hkept
  rwa [Option.head?_toList, Option.head?_toList] at hhead

end LineSource

/-- The records of a text. -/
def recordsOf (options : Options) (text : String) : List Record :=
  RecordSource.remaining
    ({ reader := { source := .ofText text, options } } : RecordReader TextSource)

/-- The records of a text are those taken when more are asked for than it has characters. -/
theorem recordsOf_eq_takeRecords (options : Options) {text : String} {count : Nat}
    (h : text.toList.length < count) :
    recordsOf options text =
      (({ source := .ofText text, options } : Reader TextSource).takeRecords count).1 :=
  (remaining_eq_takeRecords _ h).1

/-- Of the lines of a stream the records of the delivered text are written whole, and the failure at
which it stopped is kept, if there is one. -/
theorem writeRecords_lineSource {capacity : Nat} (hcapacity : 0 < capacity)
    (events : List StreamEvent) (options : Options) (format : Format) :
    let reader : Reader LineSource := { source := .ofEvents capacity events, options }
    let writing := writeRecords format ({ reader } : RecordReader LineSource) {}
    writing.error = none ∧
      writing.sink.written = (format.output (recordsOf options (deliveredText events))).toUTF8 ∧
      writing.records.reader.source.error = (firstUndelivered events).error? := by
  intro reader writing
  obtain ⟨herror, hwritten, hrecords⟩ :=
    writeRecords_unlimited format ({ reader } : RecordReader LineSource)
  have hremaining := remaining_of_agrees (agrees_ofEvents hcapacity events options)
  refine ⟨herror, ?_, ?_⟩
  · rw [recordsOf, ← hremaining]
    exact hwritten
  · rw [hrecords]
    exact LineSource.error_takeAll hcapacity rfl rfl

end Delimited
