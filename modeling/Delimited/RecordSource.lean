import Delimited.Reader

/-!
# Sequences of records

What hands out records one at a time: a list, or a reader together with the log of its reads. Each
record taken lowers a bound on those left, so taking all of them ends.
-/

namespace Delimited

/-- A sequence of records. -/
class RecordSource (ρ : Type) where
  /-- Take the next record. -/
  next : ρ → Option Record × ρ
  /-- A bound on the records left. -/
  bound : ρ → Nat
  /-- Taking a record lowers the bound. -/
  bound_next_lt : ∀ records, (next records).1.isSome = true →
    bound (next records).2 < bound records

/-- A list is the sequence of its records. -/
instance : RecordSource (List Record) where
  next
    | [] => (none, [])
    | record :: records => (some record, records)
  bound := List.length
  bound_next_lt records h := by cases records <;> simp_all

/-- A reader, read record by record, and what was noted on the way. -/
structure RecordReader (σ : Type) where
  reader : Reader σ
  events : Array Event := #[]

namespace RecordReader

variable {σ : Type} [CharSource σ]

/-- Read the next record. -/
def next (records : RecordReader σ) : Option Record × RecordReader σ :=
  let (record, reading) := records.reader.nextRecord
  (record, { reader := reading.reader, events := records.events ++ reading.events })

/-- Reading a record takes at least one character. -/
theorem length_unread_next_lt (records : RecordReader σ)
    (h : (records.next).1.isSome = true) :
    (CharSource.unread records.next.2.reader.source).length <
      (CharSource.unread records.reader.source).length := by
  apply Reader.length_unread_readFields_lt
  simpa [next, Reader.nextRecord] using h

/-- A reader is a sequence of records. -/
instance : RecordSource (RecordReader σ) where
  next := next
  bound records := (CharSource.unread records.reader.source).length
  bound_next_lt := length_unread_next_lt

end RecordReader

namespace RecordSource

variable {ρ : Type} [RecordSource ρ]

/-- Take records to the end, after the ones that are already taken. -/
def takeAll (records : ρ) (taken : Array Record := #[]) : Array Record × ρ :=
  let following := next records
  match _h : following.1 with
  | none => (taken, following.2)
  | some record => takeAll following.2 (taken.push record)
termination_by bound records
decreasing_by exact bound_next_lt records (by simp [_h, following])

/-- Taking records to the end starts with the next one. -/
theorem takeAll_eq (records : ρ) (taken : Array Record) :
    takeAll records taken =
      match (next records).1 with
      | none => (taken, (next records).2)
      | some record => takeAll (next records).2 (taken.push record) := by
  rw [takeAll]
  split <;> simp_all

/-- Take at most a number of records; none is asked for beyond them. -/
def take (records : ρ) : Nat → Array Record → Array Record × ρ
  | 0, taken => (taken, records)
  | count + 1, taken =>
      match next records with
      | (none, rest) => (taken, rest)
      | (some record, rest) => take rest count (taken.push record)

end RecordSource

end Delimited
