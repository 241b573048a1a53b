import Delimited.Proofs.Output.Delivery
import Delimited.Proofs.Output.JsonLayout

/-!
# Records read back from JSON

Records are written in JSON on a line each, without white space, or as one array over several lines.
Both are the same text but for the white space that a `Layout` puts into it, so both are read back to
the records (`reads_record`, `reads_records`) and the second is the first one spread out
(`squeezes_records`). `jsonl_and_json_lose_nothing` puts this together for what is written.
-/

namespace Delimited

/-- The text that a value stands for. -/
def Value.string? : Value → Option String
  | .string text => some text
  | _ => none

/-- The record that a table with a line and fields, in this order, stands for. -/
def Record.ofValue? : Value → Option Record
  | .table [("line", .integer (.ofNat line)), ("fields", .array fields)] =>
      (fields.mapM Value.string?).map fun fields ↦ { line, fields }
  | _ => none

/-- The records that an array stands for. -/
def Record.listOfValue? : Value → Option (List Record)
  | .array items => items.mapM Record.ofValue?
  | _ => none

/-- A record as a value stands for that record. -/
@[simp] theorem Record.ofValue?_toValue (record : Record) :
    Record.ofValue? record.toValue = some record := by
  have hfields : (record.fields.map Value.string).mapM Value.string? = some record.fields := by
    induction record.fields with
    | nil => rfl
    | cons text fields ih => simp [List.mapM_cons, ih, Value.string?]
  have htable : Record.ofValue? record.toValue =
      ((record.fields.map Value.string).mapM Value.string?).map fun fields ↦
        { line := record.line, fields } := rfl
  rw [htable, hfields]
  rfl

/-- Records as values stand for those records. -/
@[simp] theorem Record.listOfValue?_toValue (records : List Record) :
    Record.listOfValue? (.array (records.map Record.toValue)) = some records := by
  rw [listOfValue?]
  induction records with
  | nil => rfl
  | cons record records ih => simp [List.mapM_cons, ih]

namespace Json

/-- The white space that a text is laid out with. -/
structure Layout where
  /-- What stands in front of a part at a level. -/
  lineBreak : Nat → List Char
  /-- What stands behind a colon. -/
  behindColon : List Char
  blank_lineBreak : ∀ level, Blank (lineBreak level)
  blank_behindColon : Blank behindColon

namespace Layout

/-- No white space. -/
def compact : Layout where
  lineBreak _ := []
  behindColon := []
  blank_lineBreak _ := by simp [Blank]
  blank_behindColon := by simp [Blank]

/-- A line for each part, indented by its level, and a space behind a colon. -/
def indented : Layout where
  lineBreak level := '\n' :: (indentation level).toList
  behindColon := [' ']
  blank_lineBreak level := by
    intro char hchar
    rcases List.mem_cons.mp hchar with rfl | hmem
    · rfl
    · rw [indentation, String.toList_ofList] at hmem
      rw [List.eq_of_mem_replicate hmem]
      rfl
  blank_behindColon := by simp [Blank, isBlank]

variable (layout : Layout)

/-- A collection at a level. -/
def collection (opening closing : Char) (level : Nat) (texts : List (List Char)) : List Char :=
  laid opening closing (layout.lineBreak (level + 1)) (layout.lineBreak level) texts

/-- The fields of a record at a level. -/
def fields (level : Nat) (fields : List String) : List Char :=
  layout.collection '[' ']' level (fields.map fun text ↦ (string text).toList)

/-- A record at a level. -/
def record (level : Nat) (record : Record) : List Char :=
  layout.collection '\x7b' '\x7d' level
    [entryText "line" layout.behindColon (Nat.toDigits 10 record.line),
      entryText "fields" layout.behindColon (layout.fields (level + 1) record.fields)]

/-- Records at a level. -/
def records (level : Nat) (records : List Record) : List Char :=
  layout.collection '[' ']' level (records.map (layout.record (level + 1)))

end Layout

section Printing

/-- A collection without white space. -/
theorem toList_brackets (opening closing : Char) (level : Nat) (texts : List String) :
    (String.singleton opening ++ String.intercalate "," texts ++ String.singleton closing).toList =
      Layout.compact.collection opening closing level (texts.map String.toList) := by
  cases texts with
  | nil => simp [Layout.collection, laid]
  | cons text texts =>
      simp [Layout.collection, laid, Layout.compact, String.toList_intercalate, Function.comp_def]

/-- A line break belongs as well to the comma in front of it as to the line behind it. -/
theorem intercalate_lineBreak (front line : List Char) (lines : List (List Char)) :
    '\n' :: [',', '\n'].intercalate ((line :: lines).map (front ++ ·)) =
      [','].intercalate ((line :: lines).map (('\n' :: front) ++ ·)) := by
  induction lines generalizing line with
  | nil => simp
  | cons next lines ih =>
      have hrest := ih next
      simp only [List.map_cons, List.intercalate_cons_cons] at hrest ⊢
      rw [← hrest]
      simp

/-- A collection over several lines. -/
theorem toList_block (opening closing : Char) (level : Nat) (lines : List String) :
    (block (String.singleton opening) (String.singleton closing) level lines).toList =
      Layout.indented.collection opening closing level (lines.map String.toList) := by
  cases lines with
  | nil => simp [block, Layout.collection, laid]
  | cons line lines =>
      have hfront : ((line :: lines).map (indentation (level + 1) ++ ·)).map String.toList =
          ((line :: lines).map String.toList).map ((indentation (level + 1)).toList ++ ·) := by
        simp [Function.comp_def]
      have hbreak := intercalate_lineBreak (indentation (level + 1)).toList line.toList
        (lines.map String.toList)
      rw [block, if_neg (by simp), Layout.collection, laid, if_neg (by simp)]
      simp only [String.toList_append, String.toList_singleton, String.toList_intercalate, hfront,
        List.append_assoc]
      rw [Layout.indented, List.map_cons, ← hbreak]
      rfl

/-- Items are written one by one, without white space. -/
theorem compactItems_eq_map (items : List Value) : compactItems items = items.map compact := by
  induction items with
  | nil => rfl
  | cons item items ih => rw [compactItems, ih, List.map_cons]

/-- Items are written one by one, at their level. -/
theorem prettyItems_eq_map (level : Nat) (items : List Value) :
    prettyItems level items = items.map (pretty level) := by
  induction items with
  | nil => rfl
  | cons item items ih => rw [prettyItems, ih, List.map_cons]

/-- A whole number is written with its digits. -/
theorem toList_scalar_integer (number : Nat) :
    (scalar (.integer number)).toList = Nat.toDigits 10 number := by
  have hrepr : scalar (.integer number) = Nat.repr number := rfl
  rw [hrepr, Nat.repr_eq_ofList_toDigits, String.toList_ofList]

/-- Fields on one line have no white space around them. -/
theorem toList_compact_fields (level : Nat) (fields : List String) :
    (compact (.array (fields.map .string))).toList = Layout.compact.fields level fields := by
  have hitems : compactItems (fields.map Value.string) = fields.map string := by
    rw [compactItems_eq_map, List.map_map]
    rfl
  have hbrackets := toList_brackets '[' ']' level (fields.map string)
  rw [List.map_map] at hbrackets
  rw [compact, hitems]
  exact hbrackets

/-- A record on one line has no white space around its parts. -/
theorem toList_record (level : Nat) (record : Record) :
    (Json.record record).toList = Layout.compact.record level record := by
  have hline : (string "line" ++ ":" ++ scalar (.integer record.line)).toList =
      entryText "line" [] (Nat.toDigits 10 record.line) := by
    simp [entryText, toList_scalar_integer]
  have hfields : (string "fields" ++ ":" ++ compact (.array (record.fields.map .string))).toList =
      entryText "fields" [] (Layout.compact.fields (level + 1) record.fields) := by
    simp [entryText, toList_compact_fields (level + 1)]
  have hbrackets := toList_brackets '\x7b' '\x7d' level
    [string "line" ++ ":" ++ scalar (.integer record.line),
      string "fields" ++ ":" ++ compact (.array (record.fields.map .string))]
  rw [List.map_cons, List.map_singleton, hline, hfields] at hbrackets
  exact hbrackets

/-- Fields over several lines. -/
theorem toList_pretty_fields (level : Nat) (fields : List String) :
    (pretty level (.array (fields.map .string))).toList = Layout.indented.fields level fields := by
  have hitems : prettyItems (level + 1) (fields.map Value.string) = fields.map string := by
    rw [prettyItems_eq_map, List.map_map]
    rfl
  have hblock := toList_block '[' ']' level (fields.map string)
  rw [List.map_map] at hblock
  rw [pretty, hitems]
  exact hblock

/-- A record over several lines. -/
theorem toList_pretty_record (level : Nat) (record : Record) :
    (pretty level record.toValue).toList = Layout.indented.record level record := by
  have hline : (string "line" ++ ": " ++ scalar (.integer record.line)).toList =
      entryText "line" [' '] (Nat.toDigits 10 record.line) := by
    simp [entryText, toList_scalar_integer]
  have hfields : (string "fields" ++ ": " ++
      pretty (level + 1) (.array (record.fields.map .string))).toList =
        entryText "fields" [' '] (Layout.indented.fields (level + 1) record.fields) := by
    simp [entryText, toList_pretty_fields]
  have hblock := toList_block '\x7b' '\x7d' level
    [string "line" ++ ": " ++ scalar (.integer record.line),
      string "fields" ++ ": " ++ pretty (level + 1) (.array (record.fields.map .string))]
  rw [List.map_cons, List.map_singleton, hline, hfields] at hblock
  exact hblock

/-- Records over several lines. -/
theorem toList_records (records : List Record) :
    (Json.records records).toList = Layout.indented.records 0 records := by
  have hblock := toList_block '[' ']' 0 (prettyItems 1 (records.map Record.toValue))
  have hitems : (prettyItems 1 (records.map Record.toValue)).map String.toList =
      records.map (Layout.indented.record 1) := by
    rw [prettyItems_eq_map, List.map_map, List.map_map]
    exact List.map_congr_left fun record _ ↦ toList_pretty_record 1 record
  rw [hitems] at hblock
  exact hblock

end Printing

section Reading

variable {whole? : Bool → Nat → Option Int} (layout : Layout)

/-- Fields are read back, however they are laid out. -/
theorem reads_fields (level : Nat) (fields : List String) :
    Reads whole? (layout.fields level fields) (.array (fields.map .string)) := by
  refine reads_array (layout.blank_lineBreak _) (layout.blank_lineBreak _) ?_
  rw [List.forall₂_map_left_iff, List.forall₂_map_right_iff, List.forall₂_same]
  exact fun text _ ↦ reads_string text

/-- A record is read back, however it is laid out. -/
theorem reads_record (level : Nat) {record : Record}
    (h : whole? false record.line = some (record.line : Int)) :
    Reads whole? (layout.record level record) record.toValue := by
  have hline : ReadsEntry whole?
      (entryText "line" layout.behindColon (Nat.toDigits 10 record.line))
      ("line", .integer record.line) :=
    ⟨_, _, layout.blank_behindColon, rfl, reads_digits h⟩
  have hfields : ReadsEntry whole?
      (entryText "fields" layout.behindColon (layout.fields (level + 1) record.fields))
      ("fields", .array (record.fields.map .string)) :=
    ⟨_, _, layout.blank_behindColon, rfl, reads_fields layout (level + 1) record.fields⟩
  have hentries := List.Forall₂.cons hline (.cons hfields .nil)
  exact reads_table (layout.blank_lineBreak _) (layout.blank_lineBreak _) hentries (by simp)

/-- Records are read back, however they are laid out. -/
theorem reads_records (level : Nat) {records : List Record}
    (h : ∀ record ∈ records, whole? false record.line = some (record.line : Int)) :
    Reads whole? (layout.records level records) (.array (records.map Record.toValue)) := by
  refine reads_array (layout.blank_lineBreak _) (layout.blank_lineBreak _) ?_
  rw [List.forall₂_map_left_iff, List.forall₂_map_right_iff, List.forall₂_same]
  exact fun record hmem ↦ reads_record layout (level + 1) (h record hmem)

end Reading

section Squeezing

variable (layout : Layout)

/-- Of fields the fields without white space are left. -/
theorem squeezes_fields (level : Nat) (fields : List String) :
    Squeezes (layout.fields level fields) (Layout.compact.fields level fields) := by
  refine squeezes_laid (by decide) (by decide) (layout.blank_lineBreak _)
    (layout.blank_lineBreak _) ?_
  rw [List.forall₂_same]
  intro text hmem
  obtain ⟨field, _, rfl⟩ := List.mem_map.mp hmem
  exact squeezes_string field

/-- Of a record the record without white space is left. -/
theorem squeezes_record (level : Nat) (record : Record) :
    Squeezes (layout.record level record) (Layout.compact.record level record) := by
  have hline := squeezes_entryText "line" layout.blank_behindColon (squeezes_digits record.line)
  have hfields := squeezes_entryText "fields" layout.blank_behindColon
    (squeezes_fields layout (level + 1) record.fields)
  have hentries := List.Forall₂.cons hline (.cons hfields .nil)
  exact squeezes_laid (by decide) (by decide) (layout.blank_lineBreak _) (layout.blank_lineBreak _)
    hentries

/-- Of records the records without white space are left. -/
theorem squeezes_records (level : Nat) (records : List Record) :
    Squeezes (layout.records level records) (Layout.compact.records level records) := by
  refine squeezes_laid (by decide) (by decide) (layout.blank_lineBreak _)
    (layout.blank_lineBreak _) ?_
  rw [List.forall₂_map_left_iff, List.forall₂_map_right_iff, List.forall₂_same]
  exact fun record _ ↦ squeezes_record layout (level + 1) record

end Squeezing

section Lines

/-- The characters are not controls. -/
def Printed (text : List Char) : Prop :=
  ∀ char ∈ text, 0x20 ≤ char.toNat

theorem Printed.append {text more : List Char} (h : Printed text) (hmore : Printed more) :
    Printed (text ++ more) :=
  List.forall_mem_append.mpr ⟨h, hmore⟩

/-- A string holds no controls: they are escaped. -/
theorem printed_string (text : String) : Printed (string text).toList := by
  have htext := toList_string_append text []
  rw [List.append_nil] at htext
  have hescaped : Printed (text.toList.flatMap escapeChar) := by
    intro other hother
    obtain ⟨char, _, hmem⟩ := List.mem_flatMap.mp hother
    obtain ⟨hself, _, _, hprinted⟩ | ⟨letter, digits, hby⟩ := escapeChar_cases char
    · rw [hself, List.mem_singleton] at hmem
      exact hmem ▸ hprinted
    · rw [hby.eq] at hmem
      rcases List.mem_cons.mp hmem with rfl | hmem
      · decide
      · exact hby.printed other hmem
  have hquote : Printed ['"'] := by simp [Printed]
  rw [htext]
  exact hquote.append (hescaped.append hquote)

/-- Digits are not controls. -/
theorem printed_digits (number : Nat) : Printed (Nat.toDigits 10 number) := by
  intro digit hmem
  have hdigit := isDigit_of_mem hmem
  simp only [Char.isDigit, Bool.and_eq_true, decide_eq_true_eq] at hdigit
  have hzero : 0x30 ≤ digit.toNat := UInt32.le_iff_toNat_le.mp hdigit.1
  omega

/-- A collection without white space holds no controls if its texts hold none. -/
theorem printed_collection {opening closing : Char} (hopening : 0x20 ≤ opening.toNat)
    (hclosing : 0x20 ≤ closing.toNat) (level : Nat) {texts : List (List Char)}
    (h : ∀ text ∈ texts, Printed text) :
    Printed (Layout.compact.collection opening closing level texts) := by
  have hmark {mark : Char} (hprinted : 0x20 ≤ mark.toNat) : Printed [mark] := by
    simpa [Printed] using hprinted
  have hitems : Printed ([','].intercalate (texts.map ([] ++ ·))) := by
    induction texts with
    | nil => simp [Printed]
    | cons text texts ih =>
        obtain ⟨htext, htexts⟩ := List.forall_mem_cons.mp h
        cases texts with
        | nil =>
            rw [List.map_singleton, List.intercalate_singleton]
            exact htext
        | cons next texts =>
            rw [List.map_cons, List.map_cons, List.intercalate_cons_cons]
            exact (htext.append (hmark (by decide))).append (ih htexts)
  unfold Layout.collection laid
  split
  · exact (hmark hopening).append (hmark hclosing)
  · exact (hmark hopening).append (hitems.append (hmark hclosing))

/-- A record on one line holds no controls. -/
theorem printed_record (record : Record) : Printed (Json.record record).toList := by
  have hcolon : Printed [':'] := by simp [Printed]
  have hfields : Printed (Layout.compact.fields 1 record.fields) := by
    refine printed_collection (by decide) (by decide) 1 ?_
    simp only [List.forall_mem_map]
    exact fun text _ ↦ printed_string text
  rw [toList_record 0]
  refine printed_collection (by decide) (by decide) 0 ?_
  simp only [List.forall_mem_cons]
  refine ⟨?_, ?_, by simp⟩
  · exact (printed_string "line").append (hcolon.append (printed_digits record.line))
  · exact (printed_string "fields").append (hcolon.append hfields)

/-- A record on one line holds no newline. -/
theorem newline_notMem_record (record : Record) : '\n' ∉ (Json.record record).toList := by
  intro hmem
  have hprinted := printed_record record '\n' hmem
  exact absurd hprinted (by decide)

end Lines

/-- The lines of a text: what stands in front of each newline. -/
def lines (text : String) : List String :=
  (text.toList.splitOn '\n').dropLast.map String.ofList

/-- Every whole number. -/
def everyNumber? (negative : Bool) (value : Nat) : Option Int :=
  some (if negative then -(value : Int) else value)

/-- The record of a text, with the whole numbers that are to be kept. -/
def decodeRecord? (whole? : Bool → Nat → Option Int) (text : String) : Option Record :=
  (parseWith? whole? text).bind Record.ofValue?

/-- The records of a text, with the whole numbers that are to be kept. -/
def decodeRecords? (whole? : Bool → Nat → Option Int) (text : String) : Option (List Record) :=
  (parseWith? whole? text).bind Record.listOfValue?

/-- The record of a line is the one that was written on it. -/
theorem decodeRecord?_record {whole? : Bool → Nat → Option Int} {record : Record}
    (h : whole? false record.line = some (record.line : Int)) :
    decodeRecord? whole? (Json.record record) = some record := by
  have hreads := reads_record Layout.compact 0 h
  rw [← toList_record] at hreads
  have hnone : Blank [] := by simp [Blank]
  have hparse := hreads.parseWith?_append hnone
  rw [List.append_nil, String.ofList_toList] at hparse
  rw [decodeRecord?, hparse]
  exact Record.ofValue?_toValue record

/-- The lines are those of the records. -/
theorem toList_jsonl (records : List Record) :
    (Format.jsonl.output records).toList =
      records.flatMap fun record ↦ (Json.record record).toList ++ ['\n'] := by
  simp [Format.output, Format.pieces, Format.opening, Format.closing, Format.each,
    String.toList_join, List.map_flatMap, List.flatMap_assoc]

/-- A record stands in front of each newline. -/
theorem lines_output (records : List Record) :
    lines (Format.jsonl.output records) = records.map Json.record := by
  have hsplit : (records.flatMap fun record ↦ (Json.record record).toList ++ ['\n']).splitOn '\n' =
      (records.map fun record ↦ (Json.record record).toList) ++ [[]] := by
    induction records with
    | nil => rfl
    | cons record records ih =>
        -- a record holds no newline, so the first one is the one that was written behind it
        rw [List.flatMap_cons, List.append_assoc, List.singleton_append,
          List.splitOn_append_cons_self_of_not_mem (newline_notMem_record record), ih]
        rfl
  rw [lines, toList_jsonl, hsplit, List.dropLast_concat, List.map_map]
  simp [Function.comp_def]

/-- There are as many newlines as records. -/
theorem count_newline_output (records : List Record) :
    (Format.jsonl.output records).toList.count '\n' = records.length := by
  rw [toList_jsonl]
  induction records with
  | nil => rfl
  | cons record records ih =>
      rw [List.flatMap_cons, List.count_append, List.count_append,
        List.count_eq_zero_of_not_mem (newline_notMem_record record), ih, List.length_cons,
        List.count_singleton_self]
      omega

/-- The last line ends in a newline, if there is one. -/
theorem getLast?_output (records : List Record) :
    (Format.jsonl.output records).toList.getLast? = records.getLast?.map fun _ ↦ '\n' := by
  rw [toList_jsonl]
  obtain rfl | ⟨front, record, rfl⟩ := List.eq_nil_or_concat records
  · rfl
  · rw [List.concat_eq_append, List.getLast?_concat, List.flatMap_append, List.flatMap_singleton,
      ← List.append_assoc]
    exact List.getLast?_concat

variable {whole? : Bool → Nat → Option Int} {records : List Record}

/-- The records of the lines are those that were written, where their line numbers are kept. -/
theorem decodeRecord?_lines
    (h : ∀ record ∈ records, whole? false record.line = some (record.line : Int)) :
    (lines (Format.jsonl.output records)).map (decodeRecord? whole?) = records.map some := by
  rw [lines_output, List.map_map]
  exact List.map_congr_left fun record hmem ↦ decodeRecord?_record (h record hmem)

/-- The records of the array are those that were written, where their line numbers are kept. -/
theorem decodeRecords?_output
    (h : ∀ record ∈ records, whole? false record.line = some (record.line : Int)) :
    decodeRecords? whole? (Format.json.output records) = some records := by
  have htext : Format.json.output records =
      String.ofList ((Json.records records).toList ++ ['\n']) := by
    simp [Format.output, Format.pieces, String.join_cons]
  have hreads := reads_records Layout.indented 0 h
  rw [← toList_records] at hreads
  have hblank : Blank ['\n'] := by simp [Blank, isBlank]
  rw [decodeRecords?, htext, hreads.parseWith?_append hblank]
  exact Record.listOfValue?_toValue records

/-- Without its white space the array is made of the lines. -/
theorem squeeze_output (records : List Record) :
    String.ofList (squeeze .outside (Format.json.output records).toList) =
      "[" ++ String.intercalate "," (lines (Format.jsonl.output records)) ++ "]" := by
  have htext : (Format.json.output records).toList = (Json.records records).toList ++ ['\n'] := by
    simp [Format.output, Format.pieces, String.join_cons]
  have hblank : Blank ['\n'] := by simp [Blank, isBlank]
  have hsqueezed := (squeezes_records Layout.indented 0 records).append hblank.squeezes []
  have hbrackets := toList_brackets '[' ']' 0 (records.map Json.record)
  have hrecords : (records.map Json.record).map String.toList =
      records.map (Layout.compact.record 1) := by
    rw [List.map_map]
    exact List.map_congr_left fun record _ ↦ toList_record 1 record
  rw [hrecords] at hbrackets
  rw [← toList_records, List.append_nil, ← htext, squeeze, List.append_nil, List.append_nil]
    at hsqueezed
  rw [hsqueezed, lines_output, ← String.toList_inj, String.toList_ofList]
  exact hbrackets.symm

/-- Writing records in JSON loses nothing. The lines are as many as the records and stand for them one
by one, the array stands for all of them, and without its white space it is made of those lines. -/
theorem jsonl_and_json_lose_nothing (records : List Record) :
    let lined := Format.jsonl.output records
    let whole := Format.json.output records
    (∀ format : Format, (writeRecords format records ({} : Sink)).error = none ∧
        (writeRecords format records ({} : Sink)).sink.written =
          (format.output records).toUTF8) ∧
      lined.toList.count '\n' = records.length ∧
      lined.toList.getLast? = (records.getLast?.map fun _ ↦ '\n') ∧
      (lines lined).map (decodeRecord? everyNumber?) = records.map some ∧
      decodeRecords? everyNumber? whole = some records ∧
      ((∀ record ∈ records, record.line < UInt64.size) →
        (lines lined).map (fun line ↦ (parse? line).bind Record.ofValue?) = records.map some ∧
          (parse? whole).bind Record.listOfValue? = some records) ∧
      String.ofList (squeeze .outside whole.toList) =
        "[" ++ String.intercalate "," (lines lined) ++ "]" := by
  have hevery : ∀ record ∈ records, everyNumber? false record.line = some (record.line : Int) :=
    fun _ _ ↦ rfl
  refine ⟨fun format ↦ writeRecords_list format records, count_newline_output records,
    getLast?_output records, decodeRecord?_lines hevery, decodeRecords?_output hevery, ?_,
    squeeze_output records⟩
  intro hbound
  have hwhole : ∀ record ∈ records, wholeNumber? false record.line = some (record.line : Int) := by
    intro record hmem
    have hline : record.line < 0x10000000000000000 := hbound record hmem
    simp [wholeNumber?, hline]
  exact ⟨decodeRecord?_lines hwhole, decodeRecords?_output hwhole⟩

end Json

end Delimited
