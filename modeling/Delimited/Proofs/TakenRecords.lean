import Delimited.Session

/-!
# Records taken one after the other

A request for records collects them in an array, and the notes of the reads beside them.
`Reader.takeRecords` is the same run without either: the list of the records and the reader behind
them. `take_eq_takeRecords` equates the two, so that what follows about records is an induction on
how many are asked for.
-/

namespace Delimited

variable {σ : Type} [CharSource σ]

namespace Reader

/-- At most this many records, and the reader behind them. -/
def takeRecords (reader : Reader σ) : Nat → List Record × Reader σ
  | 0 => ([], reader)
  | count + 1 =>
      let following := reader.nextRecord
      match following.1 with
      | none => ([], following.2.reader)
      | some record =>
          let others := following.2.reader.takeRecords count
          (record :: others.1, others.2)

@[simp] theorem takeRecords_zero (reader : Reader σ) : reader.takeRecords 0 = ([], reader) := rfl

/-- No record is taken where none is left. -/
theorem takeRecords_of_none {reader : Reader σ} (h : reader.nextRecord.1 = none) (count : Nat) :
    reader.takeRecords (count + 1) = ([], reader.nextRecord.2.reader) := by
  rw [takeRecords, h]

/-- Behind the first record the others are taken. -/
theorem takeRecords_of_some {reader : Reader σ} {record : Record}
    (h : reader.nextRecord.1 = some record) (count : Nat) :
    reader.takeRecords (count + 1) =
      (record :: (reader.nextRecord.2.reader.takeRecords count).1,
        (reader.nextRecord.2.reader.takeRecords count).2) := by
  rw [takeRecords, h]

/-- Neither the records taken before nor the notes change which records are taken. -/
theorem take_eq_takeRecords (records : RecordReader σ) (count : Nat) (taken : Array Record) :
    (RecordSource.take records count taken).1.toList =
        taken.toList ++ (records.reader.takeRecords count).1 ∧
      (RecordSource.take records count taken).2.reader =
        (records.reader.takeRecords count).2 := by
  induction count generalizing records taken with
  | zero => simp [RecordSource.take]
  | succ count ih =>
      have hrecord : (RecordSource.next records).1 = records.reader.nextRecord.1 := rfl
      have hreader : (RecordSource.next records).2.reader = records.reader.nextRecord.2.reader := rfl
      simp only [RecordSource.take]
      generalize RecordSource.next records = following at hrecord hreader ⊢
      obtain ⟨record?, rest⟩ := following
      cases record? with
      | none => simp [takeRecords_of_none hrecord.symm, ← hreader]
      | some record =>
          obtain ⟨htaken, hlast⟩ := ih rest (taken.push record)
          rw [hreader] at htaken hlast
          simp [takeRecords_of_some hrecord.symm, htaken, hlast]

/-- A request for records is answered with the records taken and the counter behind them. -/
theorem serve_records (reader : Reader σ) (count : Nat) :
    (reader.serve (.records count)).answer =
        .records (reader.takeRecords count).1 (reader.takeRecords count).2.line ∧
      (reader.serve (.records count)).reader = (reader.takeRecords count).2 := by
  obtain ⟨hrecords, hreader⟩ := take_eq_takeRecords ({ reader } : RecordReader σ) count #[]
  refine ⟨?_, hreader⟩
  simp only [serve, hrecords, hreader, List.nil_append]

/-- The reader that a session leaves. -/
def after (reader : Reader σ) (requests : List ReaderRequest) : Reader σ :=
  requests.foldl (fun reader request ↦ (reader.serve request).reader) reader

@[simp] theorem after_nil (reader : Reader σ) : reader.after [] = reader := rfl

@[simp] theorem after_cons (reader : Reader σ) (request : ReaderRequest)
    (requests : List ReaderRequest) :
    reader.after (request :: requests) = (reader.serve request).reader.after requests := rfl

end Reader

end Delimited
