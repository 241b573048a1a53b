import Delimited.Proofs.TakenRecords
import Delimited.Proofs.TextReading

/-!
# Readers in lockstep

To compare what is answered in front of two texts, a relation between readers is kept from read to
read, and under it the tokens and the line of one reader show as those of the other. That every
request for a line or for records then shows in the same way is proved here once, for any such
relation: `Reader.Lockstep.serve_line` and `Reader.Lockstep.serve_records`.
-/

namespace Delimited

/-- A record, with each text and the line as they show elsewhere. -/
def Record.shown (token : String → String) (line : Nat → Nat) (record : Record) : Record :=
  { line := line record.line, fields := record.fields.map token }

/-- The answer to a read, with each token and the lines as they show elsewhere. -/
def Answer.shown (token : String → String) (line : Nat → Nat) : Answer → Answer
  | .line status tokens last => .line status (tokens.map token) (line last)
  | .records taken last => .records (taken.map (Record.shown token line)) (line last)
  | answer => answer

/-- The tokens of the line that was read, if there was one. -/
def Reading.tokens? {σ : Type} (reading : Reading σ) (trim : Bool) : Option (List String) :=
  reading.fields?.map (List.map (Field.token · trim))

variable {σ τ : Type} [CharSource σ] [CharSource τ]

/-- The answer to a request for a line. -/
theorem Reader.answer_serve_line (reader : Reader σ) (skipEmpty trim : Bool) :
    let reading := reader.readFields skipEmpty
    (reader.serve (.line skipEmpty trim)).answer =
      .line (if (reading.tokens? trim).isSome then .line else .endOfStream)
        ((reading.tokens? trim).getD []) reading.reader.line := by
  cases hfields : (reader.readFields skipEmpty).fields? <;>
    simp [serve, Reading.status, Reading.tokens, Reading.tokens?, hfields]

/-- The next record is made of the tokens of the next line. -/
theorem Reader.nextRecord_eq (reader : Reader σ) :
    let reading := reader.readFields reader.options.skipEmpty
    reader.nextRecord.1 = (reading.tokens? reader.options.trim).map fun fields ↦
      { line := reading.reader.line, fields } := by
  cases hfields : (reader.readFields reader.options.skipEmpty).fields? <;>
    simp [nextRecord, Reading.tokens, Reading.tokens?, hfields]

/-- A relation between readers under which the flags are the same and the line of the first reader
shows as that of the second one. Reads keep the relation, and the tokens of a read show likewise for
those ways of stripping white space that the relation covers. -/
structure Reader.Lockstep (token : String → String) (line : Nat → Nat) (Covers : Bool → Prop)
    (Related : Reader σ → Reader τ → Prop) : Prop where
  skipEmpty : ∀ {first second}, Related first second →
    second.options.skipEmpty = first.options.skipEmpty
  trim : ∀ {first second}, Related first second → second.options.trim = first.options.trim
  line : ∀ {first second}, Related first second → second.line = line first.line
  tokens : ∀ {first second}, Related first second → ∀ skipEmpty trim, Covers trim →
    (second.readFields skipEmpty).tokens? trim =
      ((first.readFields skipEmpty).tokens? trim).map (List.map token)
  readFields : ∀ {first second}, Related first second → ∀ skipEmpty,
    Related (first.readFields skipEmpty).reader (second.readFields skipEmpty).reader

namespace Reader.Lockstep

variable {token : String → String} {line : Nat → Nat} {Covers : Bool → Prop}
  {Related : Reader σ → Reader τ → Prop} {first : Reader σ} {second : Reader τ}

/-- A line shows as a line. -/
theorem serve_line (h : Lockstep token line Covers Related) (hrelated : Related first second)
    (skipEmpty : Bool) {trim : Bool} (htrim : Covers trim) :
    (second.serve (.line skipEmpty trim)).answer =
        (first.serve (.line skipEmpty trim)).answer.shown token line ∧
      Related (first.serve (.line skipEmpty trim)).reader
        (second.serve (.line skipEmpty trim)).reader := by
  have hread := h.readFields hrelated skipEmpty
  refine ⟨?_, hread⟩
  rw [answer_serve_line, answer_serve_line, h.tokens hrelated skipEmpty trim htrim, h.line hread]
  cases (first.readFields skipEmpty).tokens? trim <;> simp [Answer.shown]

/-- The next record shows as the next record. -/
theorem nextRecord (h : Lockstep token line Covers Related) (hrelated : Related first second)
    (htrim : Covers first.options.trim) :
    second.nextRecord.1 = first.nextRecord.1.map (Record.shown token line) ∧
      Related first.nextRecord.2.reader second.nextRecord.2.reader := by
  have hread := h.readFields hrelated first.options.skipEmpty
  have hsecond : second.nextRecord.2 = second.readFields first.options.skipEmpty := by
    rw [← h.skipEmpty hrelated]
    rfl
  refine ⟨?_, ?_⟩
  · rw [nextRecord_eq, nextRecord_eq, h.skipEmpty hrelated, h.trim hrelated,
      h.tokens hrelated _ _ htrim, h.line hread, Option.map_map, Option.map_map]
    rfl
  · rw [hsecond]
    exact hread

/-- The records taken show as the records taken. -/
theorem takeRecords (h : Lockstep token line Covers Related) (hrelated : Related first second)
    (htrim : Covers first.options.trim) (count : Nat) :
    (second.takeRecords count).1 = (first.takeRecords count).1.map (Record.shown token line) ∧
      Related (first.takeRecords count).2 (second.takeRecords count).2 := by
  induction count generalizing first second with
  | zero => exact ⟨rfl, hrelated⟩
  | succ count ih =>
      obtain ⟨hrecord, hnext⟩ := h.nextRecord hrelated htrim
      cases hfirst : first.nextRecord.1 with
      | none =>
          rw [hfirst, Option.map_none] at hrecord
          rw [takeRecords_of_none hfirst, takeRecords_of_none hrecord]
          exact ⟨rfl, hnext⟩
      | some record =>
          rw [hfirst, Option.map_some] at hrecord
          have hoptions : first.nextRecord.2.reader.options = first.options :=
            first.options_readFields first.options.skipEmpty #[]
          obtain ⟨hothers, hlast⟩ := ih hnext (hoptions ▸ htrim)
          rw [takeRecords_of_some hfirst, takeRecords_of_some hrecord, hothers]
          exact ⟨rfl, hlast⟩

/-- Records show as records. -/
theorem serve_records (h : Lockstep token line Covers Related) (hrelated : Related first second)
    (htrim : Covers first.options.trim) (count : Nat) :
    (second.serve (.records count)).answer =
        (first.serve (.records count)).answer.shown token line ∧
      Related (first.serve (.records count)).reader (second.serve (.records count)).reader := by
  obtain ⟨hrecords, hlast⟩ := h.takeRecords hrelated htrim count
  obtain ⟨hfirst, hfirstReader⟩ := first.serve_records count
  obtain ⟨hsecond, hsecondReader⟩ := second.serve_records count
  rw [hfirst, hsecond, hfirstReader, hsecondReader, hrecords, h.line hlast]
  exact ⟨rfl, hlast⟩

end Reader.Lockstep

end Delimited
