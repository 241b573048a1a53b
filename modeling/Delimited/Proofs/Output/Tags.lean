import Delimited.Proofs.Output.Delivery
import Delimited.Proofs.Output.Entities
import Mathlib.Data.List.Basic

/-!
# Records read back from tags

`Tag.decode?` splits a text at the tags that records are written with and undoes the entities between
the tags of each field once. `decode_tag_output` says that it gives back whatever records were
written: the text between two tags of a field holds nothing that a tag or another entity could be
seen in.
-/

namespace Delimited.Tag

/-- The element of a record as it is written: the line, and the texts between the tags of the
fields. -/
structure Element where
  line : Nat
  insides : List (List Char)
  deriving DecidableEq, Repr

/-- Cut at the first place where a mark stands: the text before it and the text behind it. -/
def cutAt? (mark : List Char) : List Char → Option (List Char × List Char)
  | [] => none
  | char :: rest =>
      match mark.isPrefixOf? (char :: rest) with
      | some behind => some ([], behind)
      | none => (cutAt? mark rest).map fun cut ↦ (char :: cut.1, cut.2)

/-- What stands behind a mark is shorter. -/
theorem length_isPrefixOf?_lt {mark text rest : List Char} (hmark : mark ≠ [])
    (h : mark.isPrefixOf? text = some rest) : rest.length < text.length := by
  have happend := congrArg List.length (List.isPrefixOf?_eq_some_iff_append_eq.mp h)
  have hpos := List.length_pos_iff.mpr hmark
  rw [List.length_append] at happend
  omega

/-- What stands behind a cut is shorter. -/
theorem length_cutAt?_lt {mark text before rest : List Char} (hmark : mark ≠ [])
    (h : cutAt? mark text = some (before, rest)) : rest.length < text.length := by
  induction text generalizing before with
  | nil => simp [cutAt?] at h
  | cons char text ih =>
      simp only [cutAt?] at h
      split at h
      · rename_i behind hbehind
        obtain ⟨_, rfl⟩ := Prod.mk.inj (Option.some.inj h)
        exact length_isPrefixOf?_lt hmark hbehind
      · obtain ⟨cut, hcut, hsame⟩ := Option.map_eq_some_iff.mp h
        obtain ⟨_, rfl⟩ := Prod.mk.inj hsame
        exact Nat.lt_succ_of_lt (ih hcut)

/-- The number that decimal digits stand for. -/
def number? (digits : List Char) : Option Nat :=
  if digits.isEmpty || !digits.all Char.isDigit then none else some (Nat.ofDigitChars 10 digits 0)

/-- The tag in front of a field, at the start of its line. -/
def openField : List Char := "    <field>".toList

/-- The tag behind a field, with the end of its line. -/
def closeField : List Char := "</field>\n".toList

/-- Read the texts between the tags of fields, as many as there are. -/
def readFields? (text : List Char) : Option (List (List Char) × List Char) :=
  match _hopen : openField.isPrefixOf? text with
  | none => some ([], text)
  | some behind =>
      match _hclose : cutAt? closeField behind with
      | none => none
      | some (inside, rest) =>
          (readFields? rest).map fun others ↦ (inside :: others.1, others.2)
termination_by text.length
decreasing_by
  exact Nat.lt_trans (length_cutAt?_lt (by decide) _hclose)
    (length_isPrefixOf?_lt (by decide) _hopen)

/-- Read the element of a record. -/
def readElement? (text : List Char) : Option (Element × List Char) := do
  let behind ← "  <record line=\"".toList.isPrefixOf? text
  let (digits, behind) ← cutAt? ['"'] behind
  let line ← number? digits
  match "/>\n".toList.isPrefixOf? behind with
  | some rest => return ({ line, insides := [] }, rest)
  | none =>
      let behind ← ">\n".toList.isPrefixOf? behind
      let (insides, behind) ← readFields? behind
      let rest ← "  </record>\n".toList.isPrefixOf? behind
      return ({ line, insides }, rest)

/-- Without a tag in front there is no field. -/
theorem readFields?_of_none {text : List Char} (h : openField.isPrefixOf? text = none) :
    readFields? text = some ([], text) := by
  rw [readFields?]
  split <;> simp_all

/-- The first field ends at the first tag that closes one. -/
theorem readFields?_of_some {text behind inside rest : List Char}
    (hopen : openField.isPrefixOf? text = some behind)
    (hclose : cutAt? closeField behind = some (inside, rest)) :
    readFields? text = (readFields? rest).map fun others ↦ (inside :: others.1, others.2) := by
  rw [readFields?]
  split
  · simp_all
  · split <;> simp_all

/-- What stands behind the fields is no longer. -/
theorem length_readFields?_le {text rest : List Char} {insides : List (List Char)}
    (h : readFields? text = some (insides, rest)) : rest.length ≤ text.length := by
  fun_induction readFields? text generalizing insides with
  | case1 text hopen =>
      obtain ⟨_, rfl⟩ := Prod.mk.inj (Option.some.inj h)
      exact Nat.le_refl _
  | case2 text behind hopen hclose => simp at h
  | case3 text behind hopen inside behindClose hclose ih =>
      obtain ⟨others, hothers, hsame⟩ := Option.map_eq_some_iff.mp h
      obtain ⟨_, rfl⟩ := Prod.mk.inj hsame
      have hcut := length_cutAt?_lt (by decide) hclose
      have hbehind := length_isPrefixOf?_lt (by decide) hopen
      have hrest := ih hothers
      omega

/-- What stands behind the element of a record is shorter. -/
theorem length_readElement?_lt {text rest : List Char} {element : Element}
    (h : readElement? text = some (element, rest)) : rest.length < text.length := by
  simp only [readElement?, Option.bind_eq_bind, Option.bind_eq_some_iff] at h
  obtain ⟨behind, hfirst, ⟨digits, behindLine⟩, hline, number, _, h⟩ := h
  have hfront := length_isPrefixOf?_lt (by decide) hfirst
  have hdigits := length_cutAt?_lt (by decide) hline
  split at h
  · rename_i last hlast
    obtain ⟨_, rfl⟩ := Prod.mk.inj (Option.some.inj h)
    have hempty := length_isPrefixOf?_lt (by decide) hlast
    exact Nat.lt_trans hempty (Nat.lt_trans hdigits hfront)
  · obtain ⟨inner, hinner, h⟩ := Option.bind_eq_some_iff.mp h
    obtain ⟨⟨insides, behindFields⟩, hfields, h⟩ := Option.bind_eq_some_iff.mp h
    obtain ⟨last, hlast, h⟩ := Option.bind_eq_some_iff.mp h
    obtain ⟨_, rfl⟩ := Prod.mk.inj (Option.some.inj h)
    have hopened := length_isPrefixOf?_lt (by decide) hinner
    have hclosed := length_isPrefixOf?_lt (by decide) hlast
    exact Nat.lt_trans hclosed (Nat.lt_of_le_of_lt (length_readFields?_le hfields)
      (Nat.lt_trans hopened (Nat.lt_trans hdigits hfront)))

/-- Read the elements of records up to the tag behind all of them, which ends the text. -/
def readElements? (text : List Char) : Option (List Element) :=
  if text = closing.toList then some []
  else
    match _hread : readElement? text with
    | none => none
    | some (element, rest) => (readElements? rest).map (element :: ·)
termination_by text.length
decreasing_by exact length_readElement?_lt _hread

/-- Split a text at its tags: the element of each record. -/
def split? (text : String) : Option (List Element) :=
  (opening.toList.isPrefixOf? text.toList).bind readElements?

/-- The record of an element. -/
def Element.record (element : Element) : Record :=
  { line := element.line
    fields := element.insides.map fun inside ↦ String.ofList (unescape inside) }

/-- The records of a text: split it at its tags, and undo the entities of each field once. -/
def decode? (text : String) : Option (List Record) :=
  (split? text).map (·.map Element.record)

/-- The element that a record is written as. -/
def elementOf (record : Record) : Element :=
  { line := record.line, insides := record.fields.map fun field ↦ escapeChars field.toList }

/-- A mark is found where it stands in front. -/
@[simp] theorem isPrefixOf?_append (mark rest : List Char) :
    mark.isPrefixOf? (mark ++ rest) = some rest :=
  List.isPrefixOf?_eq_some_iff_append_eq.mpr rfl

/-- A mark is found behind a text in which its first character does not occur. -/
theorem cutAt?_append {first : Char} {text : List Char} (h : first ∉ text)
    (mark rest : List Char) :
    cutAt? (first :: mark) (text ++ (first :: mark ++ rest)) = some (text, rest) := by
  induction text with
  | nil =>
      have hfound := isPrefixOf?_append (first :: mark) rest
      rw [List.cons_append] at hfound ⊢
      rw [List.nil_append, cutAt?, hfound]
  | cons char text ih =>
      obtain ⟨hchar, htext⟩ := List.ne_and_not_mem_of_not_mem_cons h
      have hnone (behind : List Char) : (first :: mark).isPrefixOf? (char :: behind) = none := by
        simp [List.isPrefixOf?, hchar]
      rw [List.cons_append, cutAt?, hnone, ih htext]
      rfl

/-- The digits of a number stand for it. -/
theorem number?_toDigits (line : Nat) : number? (Nat.toDigits 10 line) = some line := by
  have hdigits : (Nat.toDigits 10 line).all Char.isDigit = true := by
    rw [List.all_eq_true]
    intro digit hmem
    exact Nat.isDigit_of_mem_toDigits (by decide) (by decide) hmem
  rw [number?, hdigits, Nat.ofDigitChars_ten_toDigits]
  simp [Nat.toDigits_ne_nil]

/-- The digits of a number end at a quote. -/
theorem cutAt?_toDigits (line : Nat) (rest : List Char) :
    cutAt? ['"'] (Nat.toDigits 10 line ++ '"' :: rest) = some (Nat.toDigits 10 line, rest) := by
  have hquote : '"' ∉ Nat.toDigits 10 line := by
    intro hmem
    have hdigit := Nat.isDigit_of_mem_toDigits (by decide) (by decide) hmem
    exact absurd hdigit (by decide)
  exact cutAt?_append hquote [] rest

/-- The fields of a record are read back. -/
theorem readFields?_append (fields : List String) {rest : List Char}
    (hrest : openField.isPrefixOf? rest = none) :
    readFields? ((fields.flatMap fun text ↦ (field text).toList) ++ rest) =
      some (fields.map fun text ↦ escapeChars text.toList, rest) := by
  induction fields with
  | nil => exact readFields?_of_none hrest
  | cons text fields ih =>
      -- an escaped text holds no tag, so the first closing tag is that of its own field
      have hless : '<' ∉ escapeChars text.toList :=
        (escaped_escapeChars text.toList).markup_notMem '<' (by simp)
      have hfield (behind : List Char) : (field text).toList ++ behind =
          openField ++ (escapeChars text.toList ++ (closeField ++ behind)) := by
        unfold field escape openField closeField
        simp only [String.toList_append, String.toList_ofList, List.append_assoc]
      have hmark : closeField = '<' :: "/field>\n".toList := by decide
      rw [List.flatMap_cons, List.append_assoc, hfield,
        readFields?_of_some (isPrefixOf?_append openField _)
          (by rw [hmark]; exact cutAt?_append hless _ _), ih]
      rfl

/-- A record is read back. -/
theorem readElement?_append (record : Record) (rest : List Char) :
    readElement? ((Tag.record record).toList ++ rest) = some (elementOf record, rest) := by
  by_cases hempty : record.fields = []
  · have htext : (Tag.record record).toList ++ rest = "  <record line=\"".toList ++
        (Nat.toDigits 10 record.line ++ '"' :: ("/>\n".toList ++ rest)) := by
      unfold Tag.record
      simp [Record.isEmpty, hempty]
    rw [htext, readElement?]
    simp only [isPrefixOf?_append, Option.bind_eq_bind, Option.bind_some, cutAt?_toDigits,
      number?_toDigits]
    simp [elementOf, hempty]
  · have htext : (Tag.record record).toList ++ rest = "  <record line=\"".toList ++
        (Nat.toDigits 10 record.line ++ '"' :: (">\n".toList ++
          ((record.fields.flatMap fun text ↦ (field text).toList) ++
            ("  </record>\n".toList ++ rest)))) := by
      unfold Tag.record
      simp [Record.isEmpty, hempty, String.toList_join, List.flatMap_map]
    have hopen (rest : List Char) : "/>\n".toList.isPrefixOf? (">\n".toList ++ rest) = none := rfl
    have hfields := readFields?_append record.fields
      (show openField.isPrefixOf? ("  </record>\n".toList ++ rest) = none from rfl)
    rw [htext, readElement?]
    simp only [isPrefixOf?_append, Option.bind_eq_bind, Option.bind_some, cutAt?_toDigits,
      number?_toDigits, hopen, hfields]
    rfl

/-- The tag behind all records is not that of a record. -/
theorem readElement?_closing : readElement? closing.toList = none := by
  have hfirst : "  <record line=\"".toList.isPrefixOf? closing.toList = none := rfl
  rw [readElement?, hfirst]
  rfl

/-- Nothing but the tag behind all records ends them. -/
theorem readElements?_of_some {text rest : List Char} {element : Element}
    (h : readElement? text = some (element, rest)) :
    readElements? text = (readElements? rest).map (element :: ·) := by
  have hne : text ≠ closing.toList := by
    rintro rfl
    simp [readElement?_closing] at h
  rw [readElements?, if_neg hne]
  split <;> simp_all

/-- All records are read back up to the tag behind them. -/
theorem readElements?_append (records : List Record) :
    readElements? ((records.flatMap fun record ↦ (Tag.record record).toList) ++ closing.toList) =
      some (records.map elementOf) := by
  induction records with
  | nil =>
      rw [List.flatMap_nil, List.nil_append, readElements?, if_pos rfl]
      rfl
  | cons record records ih =>
      rw [List.flatMap_cons, List.append_assoc, readElements?_of_some (readElement?_append record _),
        ih]
      rfl

/-- All records are read back. -/
theorem split?_output (records : List Record) :
    split? (Format.tag.output records) = some (records.map elementOf) := by
  have htext : (Format.tag.output records).toList = opening.toList ++
      ((records.flatMap fun record ↦ (Tag.record record).toList) ++ closing.toList) := by
    simp [Format.output, Format.pieces, Format.opening, Format.closing, Format.each,
      String.toList_join, List.map_flatMap, List.flatMap_assoc]
  rw [split?, htext, isPrefixOf?_append]
  exact readElements?_append records

/-- The element that a record is written as stands for that record. -/
theorem record_elementOf (record : Record) : (elementOf record).record = record := by
  have hfields : (fun text : String ↦ String.ofList (unescape (escapeChars text.toList))) = id := by
    funext text
    rw [unescape_escapeChars, String.ofList_toList, id]
  simp [elementOf, Element.record, Function.comp_def, hfields]

/-- The records that were written are read back. -/
theorem decode?_output (records : List Record) :
    decode? (Format.tag.output records) = some records := by
  simp [decode?, split?_output, Function.comp_def, record_elementOf]

/-- The output of records in tags loses nothing. Splitting it at its tags and undoing the entities of
each field once gives the records back, so no other records have the same output; between the tags of
a field stands no markup; and a record without fields is told from a record with one empty field. -/
theorem decode_tag_output (records : List Record) :
    let writing := writeRecords .tag records ({} : Sink)
    let output := Format.tag.output records
    writing.error = none ∧ writing.sink.written = output.toUTF8 ∧
      decode? output = some records ∧
      (∃ elements, split? output = some elements ∧
        ∀ element ∈ elements, ∀ inside ∈ element.insides, Escaped inside) ∧
      (∀ others : List Record, Format.tag.output others = output → others = records) ∧
      (∀ (before behind : List Record) (line : Nat),
        Format.tag.output (before ++ { line, fields := [] } :: behind) ≠
          Format.tag.output (before ++ { line, fields := [""] } :: behind)) := by
  have hinjective {records others : List Record}
      (h : Format.tag.output others = Format.tag.output records) : others = records := by
    have hboth := congrArg decode? h
    rw [decode?_output, decode?_output] at hboth
    exact Option.some.inj hboth
  obtain ⟨herror, hwritten⟩ := writeRecords_list .tag records
  refine ⟨herror, hwritten, decode?_output records, ⟨_, split?_output records, ?_⟩,
    fun _ ↦ hinjective, ?_⟩
  · simp only [List.forall_mem_map, elementOf]
    exact fun _ _ text _ ↦ escaped_escapeChars text.toList
  · intro before behind line hsame
    have hrecords := hinjective hsame
    simp at hrecords

end Delimited.Tag
