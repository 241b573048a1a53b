import Delimited.Proofs.Grammar.Derivation
import Delimited.Proofs.Lockstep
import Delimited.Proofs.Renaming
import Delimited.Proofs.Walk
import Delimited.Source.TextSource

/-!
# Newlines behind carriage returns

`addReturns` puts a carriage return in front of every newline of a text. If no newline stood behind a
carriage return before, a line break ends what the newline in its place ended: outside quotes the two
characters are one line break, in a comment the carriage return is dropped with the comment, and
between quotes both are text. So a scan of the longer text finds the same fields, in which the same
newlines have got their carriage returns: `scanText_addReturns`.

A field can only hold a newline if it opened with a quote (`scanText_newlinesQuoted`), so trimming,
which leaves such fields alone, never comes across one. Read `answers_addReturns` first.
-/

namespace Delimited

open CharSource (unread)

/-- A text with a carriage return in front of every newline. -/
def addReturns (text : List Char) : List Char :=
  text.flatMap fun char ↦ if char = '\n' then ['\r', '\n'] else [char]

/-- A token with a carriage return in front of every newline. -/
def returned (token : String) : String :=
  String.ofList (addReturns token.toList)

/-- No newline of the text stands behind a carriage return. -/
def BareNewlines (text : List Char) : Prop :=
  ¬ ['\r', '\n'] <:+: text

/-- Whether a newline stands behind a carriage return is found out by looking at all places. -/
instance (text : List Char) : Decidable (BareNewlines text) :=
  inferInstanceAs (Decidable (¬ ['\r', '\n'] <:+: text))

section Texts

variable {text rest : List Char} {char : Char}

@[simp] theorem addReturns_nil : addReturns [] = [] := rfl

@[simp] theorem addReturns_newline (rest : List Char) :
    addReturns ('\n' :: rest) = '\r' :: '\n' :: addReturns rest := by
  simp [addReturns]

/-- Any other character stays as it is. -/
theorem addReturns_cons (hchar : char ≠ '\n') (rest : List Char) :
    addReturns (char :: rest) = char :: addReturns rest := by
  simp [addReturns, hchar]

/-- A text without newlines stays as it is. -/
theorem addReturns_eq_self (htext : '\n' ∉ text) : addReturns text = text := by
  induction text with
  | nil => rfl
  | cons char rest ih =>
      rw [List.mem_cons, not_or] at htext
      rw [addReturns_cons (Ne.symm htext.1), ih htext.2]

@[simp] theorem addReturns_append (text rest : List Char) :
    addReturns (text ++ rest) = addReturns text ++ addReturns rest :=
  List.flatMap_append

@[simp] theorem isEmpty_addReturns (text : List Char) :
    (addReturns text).isEmpty = text.isEmpty := by
  cases text with
  | nil => rfl
  | cons char rest => by_cases h : char = '\n' <;> simp [addReturns, h]

/-- No newline comes first. -/
theorem head?_addReturns_ne_newline (text : List Char) : (addReturns text).head? ≠ some '\n' := by
  cases text with
  | nil => simp
  | cons char rest => by_cases h : char = '\n' <;> simp [addReturns, h]

/-- A character of another line comes first where it came first before. -/
theorem head?_addReturns_eq_iff (hreturn : char ≠ '\r') (hnewline : char ≠ '\n') :
    (addReturns text).head? = some char ↔ text.head? = some char := by
  cases text with
  | nil => simp
  | cons first rest =>
      by_cases h : first = '\n'
      · simp [h, hreturn.symm, hnewline.symm]
      · simp [addReturns_cons h]

/-- What holds of a text holds of its ends. -/
theorem BareNewlines.suffix (h : BareNewlines text) (hsuffix : rest <:+ text) :
    BareNewlines rest :=
  fun hpair ↦ h (hpair.trans hsuffix.isInfix)

/-- What holds of a text holds of it without its first character. -/
theorem BareNewlines.tail (h : BareNewlines (char :: rest)) : BareNewlines rest :=
  h.suffix (List.suffix_cons char rest)

/-- No newline stands behind a carriage return at the start. -/
theorem BareNewlines.not_pair (h : BareNewlines (char :: rest)) :
    ¬ (char = '\r' ∧ rest.head? = some '\n') := by
  rintro ⟨rfl, hhead⟩
  obtain ⟨behind, rfl⟩ := List.head?_eq_some_iff.mp hhead
  exact h ⟨[], behind, rfl⟩

/-- The text behind a line has got its carriage returns. -/
theorem afterLine_addReturns (text : List Char) :
    afterLine (addReturns text) = addReturns (afterLine text) := by
  induction text with
  | nil => rfl
  | cons char rest ih =>
      by_cases h : char = '\n'
      · simp [h, afterLine]
      · rw [addReturns_cons h, afterLine, afterLine, if_neg h, if_neg h, ih]

/-- An empty line stays empty, and no other line gets empty. -/
theorem afterEmptyLine?_addReturns (h : BareNewlines text) :
    afterEmptyLine? (addReturns text) = (afterEmptyLine? text).map addReturns := by
  cases text with
  | nil => rfl
  | cons char rest =>
      by_cases hnewline : char = '\n'
      · simp [hnewline, afterEmptyLine?]
      · have hpair : ¬ (char = '\r' ∧ (addReturns rest).head? = some '\n') :=
          fun hbreak ↦ head?_addReturns_ne_newline rest hbreak.2
        rw [addReturns_cons hnewline, afterEmptyLine?_cons, afterEmptyLine?_cons, if_neg hnewline,
          if_neg hnewline, if_neg hpair, if_neg h.not_pair]
        rfl

end Texts

/-- A field with a carriage return in front of every newline. -/
def Field.addReturns (field : Field) : Field :=
  { field with text := returned field.text }

/-- What a scan has found, with a carriage return in front of every newline. -/
def LineScan.addReturns (scan : LineScan) : LineScan :=
  { scan with fields := scan.fields.map Field.addReturns, field := scan.field.addReturns }

/-- A scanned line and the text behind it, with a carriage return in front of every newline. -/
def ScannedText.addReturns (scanned : ScannedText) : ScannedText :=
  { scanned with
    fields := scanned.fields.map Field.addReturns, rest := Delimited.addReturns scanned.rest }

/-- The outcome of a read, with a carriage return in front of every newline. -/
def TextReading.addReturns (reading : TextReading) : TextReading :=
  { reading with
    fields? := reading.fields?.map (List.map Field.addReturns)
    rest := Delimited.addReturns reading.rest }

namespace LineScan

@[simp] theorem addReturns_empty : ({} : LineScan).addReturns = {} := by
  simp [addReturns, Field.addReturns, returned]

@[simp] theorem place_addReturns (scan : LineScan) : scan.addReturns.place = scan.place := rfl

@[simp] theorem continuations_addReturns (scan : LineScan) :
    scan.addReturns.continuations = scan.continuations := rfl

/-- Any character but the newline is added as it is. -/
theorem addReturns_push (scan : LineScan) {char : Char} (hchar : char ≠ '\n') (place : Place) :
    (scan.push char place).addReturns = scan.addReturns.push char place := by
  simp [addReturns, push, Field.addReturns, Field.push, returned, addReturns_cons hchar]

/-- A newline is added behind a carriage return. -/
theorem addReturns_push_newline (scan : LineScan) (place : Place) :
    (scan.push '\n' place).addReturns = (scan.addReturns.push '\r' place).push '\n' place := by
  simp [addReturns, push, Field.addReturns, Field.push, returned, ← String.toList_inj]

@[simp] theorem addReturns_nextField (scan : LineScan) :
    scan.nextField.addReturns = scan.addReturns.nextField := by
  simp [addReturns, nextField, Field.addReturns, returned]

@[simp] theorem addReturns_openQuote (scan : LineScan) :
    scan.openQuote.addReturns = scan.addReturns.openQuote := rfl

@[simp] theorem addReturns_closeQuote (scan : LineScan) :
    scan.closeQuote.addReturns = scan.addReturns.closeQuote := rfl

@[simp] theorem addReturns_stop (scan : LineScan) (rest : List Char) :
    (scan.stop rest).addReturns = scan.addReturns.stop (Delimited.addReturns rest) := by
  simp [addReturns, stop, ScannedText.addReturns, allFields]

end LineScan

/-- Where a line ends outside quotes, it ends there with the carriage returns, and the same is left
behind it. -/
theorem scanText_addReturns_of_endsAt {dialect : Dialect} (hvalid : dialect.Valid)
    {scan : LineScan} (hplace : scan.place ≠ .quoted) {char : Char} {rest : List Char}
    (hbare : BareNewlines (char :: rest)) (hdelimiter : char ≠ dialect.delimiter)
    (hends : dialect.EndsAt char rest) :
    scanText dialect scan.addReturns (addReturns (char :: rest)) =
      (scan.stop (afterLine (char :: rest))).addReturns := by
  rw [← LineScan.place_addReturns] at hplace
  rw [LineScan.addReturns_stop, ← afterLine_addReturns]
  by_cases hnewline : char = '\n'
  · subst hnewline
    rw [addReturns_newline]
    exact scanText_of_endsAt hplace hvalid.delimiter_return.symm (.inr (.inl ⟨rfl, rfl⟩))
  · have hcomment := (hends.resolve_left hnewline).resolve_left hbare.not_pair
    rw [addReturns_cons hnewline]
    exact scanText_of_endsAt hplace hdelimiter (.inr (.inr hcomment))

/-- Where a line goes on outside quotes, it goes on there with the carriage returns. -/
theorem not_endsAt_addReturns {dialect : Dialect} {char : Char} {rest : List Char}
    (hends : ¬ dialect.EndsAt char rest) : ¬ dialect.EndsAt char (addReturns rest) := by
  rintro (hnewline | ⟨-, hhead⟩ | hcomment)
  · exact hends (.inl hnewline)
  · exact head?_addReturns_ne_newline rest hhead
  · exact hends (.inr (.inr hcomment))

/-- Scanning a text with the carriage returns finds the same fields with theirs. -/
theorem scanText_addReturns {dialect : Dialect} (hvalid : dialect.Valid) (scan : LineScan)
    {text : List Char} (hbare : BareNewlines text) :
    scanText dialect scan.addReturns (addReturns text) =
      (scanText dialect scan text).addReturns := by
  have hquote : quote ≠ '\n' := by decide
  fun_induction scanText dialect scan text with
  | case1 scan => simp [scanText]
  | case2 scan hplace rest ih =>
      rw [← LineScan.place_addReturns] at hplace
      rw [← ih hbare.tail.tail, LineScan.addReturns_push scan hquote,
        ← scanText_pair dialect hplace, addReturns_cons hquote,
        addReturns_cons (show '"' ≠ '\n' from hquote)]
      rfl
  | case3 scan hplace rest hrest ih =>
      rw [← LineScan.place_addReturns] at hplace
      have hahead : (addReturns rest).head? ≠ some quote := by
        rw [ne_eq, head?_addReturns_eq_iff (by decide) hquote]
        intro hhead
        obtain ⟨behind, hbehind⟩ := List.head?_eq_some_iff.mp hhead
        exact hrest behind hbehind
      rw [← ih hbare.tail, addReturns_cons hquote, LineScan.addReturns_closeQuote]
      exact scanText_close dialect hplace hahead
  | case4 scan rest hplace opened hchar ih =>
      -- the carriage return is text, and the newline behind it opens a line as before
      rw [← LineScan.place_addReturns] at hplace
      have hreturn := scanText_quoted dialect hplace (show '\r' ≠ quote by decide)
        ('\n' :: addReturns rest)
      have hpushed : (scan.addReturns.push '\r' .quoted).place = .quoted := rfl
      have hnewline := scanText_quoted dialect hpushed hchar (addReturns rest)
      rw [if_neg (by decide)] at hreturn
      rw [if_pos rfl, isEmpty_addReturns] at hnewline
      rw [← ih hbare.tail, addReturns_newline, hreturn, hnewline,
        ← LineScan.addReturns_push_newline]
      rfl
  | case5 scan char rest hplace hchar hnewline ih =>
      rw [← LineScan.place_addReturns] at hplace
      rw [← ih hbare.tail, addReturns_cons hnewline, scanText_quoted dialect hplace hchar,
        if_neg hnewline, LineScan.addReturns_push scan hnewline]
  | case6 scan rest hplace ih =>
      rw [← LineScan.place_addReturns] at hplace
      rw [← ih hbare.tail, addReturns_cons hvalid.delimiter_newline, LineScan.addReturns_nextField]
      exact scanText_delimiter hplace rfl
  | case7 scan rest hplace hdelimiter =>
      rw [scanText_addReturns_of_endsAt hvalid hplace hbare hdelimiter (.inl rfl), afterLine,
        if_pos rfl]
  | case8 scan char rest hplace hdelimiter hnewline hreturn => exact absurd hreturn hbare.not_pair
  | case9 scan rest hplace hdelimiter hnewline hreturn =>
      rw [scanText_addReturns_of_endsAt hvalid hplace hbare hdelimiter (.inr (.inr rfl)), afterLine,
        if_neg hnewline]
  | case10 scan char rest hplace hdelimiter hnewline hreturn hcomment hopen ih =>
      have hends : ¬ dialect.EndsAt char rest :=
        not_or.mpr ⟨hnewline, not_or.mpr ⟨hreturn, hcomment⟩⟩
      rw [← LineScan.place_addReturns] at hplace hopen
      rw [← ih hbare.tail, addReturns_cons hnewline,
        scanText_of_not_endsAt hplace hdelimiter (not_endsAt_addReturns hends), if_pos hopen]
      rfl
  | case11 scan char rest hplace hdelimiter hnewline hreturn hcomment hopen ih =>
      have hends : ¬ dialect.EndsAt char rest :=
        not_or.mpr ⟨hnewline, not_or.mpr ⟨hreturn, hcomment⟩⟩
      rw [← LineScan.place_addReturns] at hplace hopen
      rw [← ih hbare.tail, addReturns_cons hnewline,
        scanText_of_not_endsAt hplace hdelimiter (not_endsAt_addReturns hends), if_neg hopen,
        LineScan.addReturns_push scan hnewline]

/-- The text behind an empty line is an end of the text. -/
theorem afterEmptyLine?_suffix {text behind : List Char} (h : afterEmptyLine? text = some behind) :
    behind <:+ text := by
  obtain ⟨taken, htakes, _⟩ := afterEmptyLine?_takesLines h
  exact ⟨taken, htakes.split.symm⟩

/-- A line break that stands for a newline does not start a comment. -/
theorem head?_addReturns_ne_comment {dialect : Dialect} (hvalid : dialect.Valid) {first : Char}
    (hcomment : first ≠ dialect.comment) (rest : List Char) :
    (addReturns (first :: rest)).head? ≠ some dialect.comment := by
  rw [ne_eq, head?_addReturns_eq_iff hvalid.comment_return hvalid.comment_newline]
  simpa using hcomment

/-- Reading a text with the carriage returns finds the same line with its own. -/
theorem readText_addReturns {dialect : Dialect} (hvalid : dialect.Valid) (skipEmpty : Bool)
    (line : Nat) {text : List Char} (hbare : BareNewlines text) :
    readText dialect skipEmpty line (addReturns text) =
      (readText dialect skipEmpty line text).addReturns := by
  fun_induction readText dialect skipEmpty line text with
  | case1 line => simp [TextReading.addReturns]
  | case2 line rest ih =>
      rw [← ih (hbare.suffix (afterLine_suffix _)), ← afterLine_addReturns,
        addReturns_cons hvalid.comment_newline, readText_comment]
  | case3 line first rest hcomment behind hempty hskip ih =>
      have hhead := head?_addReturns_ne_comment hvalid hcomment rest
      have hafter := afterEmptyLine?_addReturns hbare
      rw [hempty, Option.map_some] at hafter
      rw [readText_empty skipEmpty line hhead hafter, if_pos hskip,
        ih (hbare.suffix (afterEmptyLine?_suffix hempty))]
  | case4 line first rest hcomment behind hempty hkeep =>
      have hhead := head?_addReturns_ne_comment hvalid hcomment rest
      have hafter := afterEmptyLine?_addReturns hbare
      rw [hempty, Option.map_some] at hafter
      rw [readText_empty skipEmpty line hhead hafter, if_neg hkeep]
      rfl
  | case5 line first rest hcomment hempty scanned =>
      have hhead := head?_addReturns_ne_comment hvalid hcomment rest
      have hafter := afterEmptyLine?_addReturns hbare
      have hscan := scanText_addReturns hvalid {} hbare
      have hne : addReturns (first :: rest) ≠ [] := by
        rw [ne_eq, ← List.isEmpty_iff, isEmpty_addReturns]
        simp
      rw [hempty, Option.map_none] at hafter
      rw [LineScan.addReturns_empty] at hscan
      rw [readText_logical skipEmpty line hhead hafter hne, hscan]
      rfl

/-- The field holds a newline only if it opened with a quote. -/
def Field.NewlinesQuoted (field : Field) : Prop :=
  '\n' ∈ field.text.toList → field.quoted = true

/-- No field that a scan has found holds a newline unless it opened with a quote. -/
structure LineScan.NewlinesQuoted (scan : LineScan) : Prop where
  fields : ∀ field ∈ scan.fields, field.NewlinesQuoted
  field : scan.field.NewlinesQuoted
  place : scan.place = .quoted → scan.field.quoted = true

namespace LineScan.NewlinesQuoted

variable {scan : LineScan}

/-- Nothing was found. -/
theorem empty : ({} : LineScan).NewlinesQuoted :=
  ⟨by simp, fun h ↦ absurd h (by simp), by simp⟩

/-- Text may be added between quotes. -/
theorem push_quoted (h : scan.NewlinesQuoted) (hplace : scan.place = .quoted) (char : Char) :
    (scan.push char .quoted).NewlinesQuoted :=
  ⟨h.fields, fun _ ↦ h.place hplace, fun _ ↦ h.place hplace⟩

/-- Any character but the newline may be added outside quotes. -/
theorem push_plain (h : scan.NewlinesQuoted) {char : Char} (hchar : char ≠ '\n') :
    (scan.push char .plain).NewlinesQuoted := by
  refine ⟨h.fields, fun hmem ↦ h.field ?_, by simp [push]⟩
  simpa [push, Field.push, hchar.symm] using hmem

/-- A field may be completed. -/
theorem nextField (h : scan.NewlinesQuoted) : scan.nextField.NewlinesQuoted := by
  refine ⟨fun field hfield ↦ ?_, fun hmem ↦ absurd hmem (by simp [LineScan.nextField]),
    by simp [LineScan.nextField]⟩
  rcases Array.mem_push.mp hfield with hdone | rfl
  · exact h.fields field hdone
  · exact h.field

/-- No field of the line that ends here holds a newline unless it opened with a quote. -/
theorem allFields (h : scan.NewlinesQuoted) : ∀ field ∈ scan.allFields, field.NewlinesQuoted := by
  intro field hfield
  rcases List.mem_append.mp hfield with hdone | hlast
  · exact h.fields field (Array.mem_toList_iff.mp hdone)
  · exact List.mem_singleton.mp hlast ▸ h.field

end LineScan.NewlinesQuoted

/-- A scan finds newlines only in fields that opened with a quote. -/
theorem scanText_newlinesQuoted (dialect : Dialect) {scan : LineScan} (h : scan.NewlinesQuoted)
    (text : List Char) :
    ∀ field ∈ (scanText dialect scan text).fields, field.NewlinesQuoted := by
  fun_induction scanText dialect scan text with
  | case1 | case7 | case8 | case9 => exact h.allFields
  | case2 scan hplace rest ih => exact ih (h.push_quoted hplace quote)
  | case3 scan hplace rest hrest ih => exact ih ⟨h.fields, h.field, by simp [LineScan.closeQuote]⟩
  | case4 scan rest hplace opened hchar ih =>
      have hpush := h.push_quoted hplace '\n'
      exact ih ⟨hpush.fields, hpush.field, hpush.place⟩
  | case5 scan char rest hplace hchar hnewline ih => exact ih (h.push_quoted hplace char)
  | case6 scan rest hplace ih => exact ih h.nextField
  | case10 scan char rest hplace hdelimiter hnewline hreturn hcomment hopen ih =>
      exact ih ⟨h.fields, fun _ ↦ rfl, fun _ ↦ rfl⟩
  | case11 scan char rest hplace hdelimiter hnewline hreturn hcomment hopen ih =>
      exact ih (h.push_plain hnewline)

/-- A read finds newlines only in fields that opened with a quote. -/
theorem readText_newlinesQuoted (dialect : Dialect) (skipEmpty : Bool) (line : Nat)
    (text : List Char) :
    ∀ field ∈ (readText dialect skipEmpty line text).fields?.getD [], field.NewlinesQuoted := by
  fun_induction readText dialect skipEmpty line text with
  | case1 | case4 => simp
  | case2 _ _ ih => exact ih
  | case3 _ _ _ _ _ _ _ ih => exact ih
  | case5 line first rest hcomment hempty scanned =>
      exact scanText_newlinesQuoted dialect .empty (first :: rest)

/-- Trimming adds no character. -/
theorem mem_of_mem_trimChars {char : Char} {text : List Char} (h : char ∈ Text.trimChars text) :
    char ∈ text := by
  rw [Text.trimChars, List.mem_reverse] at h
  have hfront := (List.dropWhile_suffix _).mem h
  exact (List.dropWhile_suffix _).mem (List.mem_reverse.mp hfront)

/-- The token of a field with the carriage returns is its token with the carriage returns. -/
theorem Field.NewlinesQuoted.token_addReturns {field : Field} (h : field.NewlinesQuoted)
    (trim : Bool) : field.addReturns.token trim = returned (field.token trim) := by
  obtain ⟨text, quoted⟩ := field
  cases quoted with
  | true => simp [Field.token, Field.addReturns]
  | false =>
      -- there is no newline, so nothing is added before or after trimming
      have hnone : '\n' ∉ text.toList := fun hmem ↦ absurd (h hmem) (by simp)
      have htext : returned text = text := by
        rw [returned, addReturns_eq_self hnone, String.ofList_toList]
      have htrimmed : returned (Text.trim text) = Text.trim text := by
        rw [returned, Text.toList_trim,
          addReturns_eq_self (fun hmem ↦ hnone (mem_of_mem_trimChars hmem)), Text.trim]
      cases trim <;> simp [Field.token, Field.addReturns, htext, htrimmed]

variable {σ τ : Type} [CharSource σ] [CharSource τ]

/-- The second reader stands in front of the text that the first one stands in front of, with a
carriage return in front of every newline. -/
structure Reader.FacesReturned (first : Reader σ) (second : Reader τ) : Prop where
  options : second.options = first.options
  valid : first.options.Valid
  line : second.line = first.line
  unread : unread second.source = addReturns (unread first.source)
  bare : BareNewlines (CharSource.unread first.source)

namespace Reader.FacesReturned

variable {first : Reader σ} {second : Reader τ}

/-- A read finds the same line, with the carriage returns. -/
theorem view_readFields (h : first.FacesReturned second) (skipEmpty : Bool) :
    (second.readFields skipEmpty).view = (first.readFields skipEmpty).view.addReturns := by
  rw [readFields_view, readFields_view, h.options, h.line, h.unread]
  exact readText_addReturns h.valid.dialect skipEmpty first.line h.bare

/-- A read finds newlines only in fields that opened with a quote. -/
theorem newlinesQuoted_readFields (first : Reader σ) (skipEmpty : Bool) :
    ∀ field ∈ (first.readFields skipEmpty).fields?.getD [], field.NewlinesQuoted := by
  rw [fields?_readFields]
  exact readText_newlinesQuoted _ _ _ _

/-- The tokens have got their carriage returns. -/
theorem tokens?_readFields (h : first.FacesReturned second) (skipEmpty trim : Bool) :
    (second.readFields skipEmpty).tokens? trim =
      ((first.readFields skipEmpty).tokens? trim).map (List.map returned) := by
  have hfields : (second.readFields skipEmpty).fields? =
      (first.readFields skipEmpty).fields?.map (List.map Field.addReturns) :=
    congrArg TextReading.fields? (h.view_readFields skipEmpty)
  have hquoted := newlinesQuoted_readFields first skipEmpty
  rw [Reading.tokens?, Reading.tokens?, hfields, Option.map_map, Option.map_map]
  cases hfirst : (first.readFields skipEmpty).fields? with
  | none => rfl
  | some fields =>
      rw [hfirst, Option.getD_some] at hquoted
      simp only [Option.map_some, Function.comp_apply, List.map_map, Option.some.injEq]
      exact List.map_congr_left fun field hfield ↦ (hquoted field hfield).token_addReturns trim

/-- A read leaves both readers in front of the same text, with the carriage returns and without. -/
theorem readFields (h : first.FacesReturned second) (skipEmpty : Bool) :
    (first.readFields skipEmpty).reader.FacesReturned (second.readFields skipEmpty).reader where
  options := by rw [options_readFields, options_readFields, h.options]
  valid := by rw [options_readFields]; exact h.valid
  line := congrArg TextReading.line (h.view_readFields skipEmpty)
  unread := congrArg TextReading.rest (h.view_readFields skipEmpty)
  bare := by
    obtain ⟨taken, htakes, _⟩ := readText_takesLines h.valid.dialect.delimiter_newline skipEmpty
      first.line (CharSource.unread first.source)
    rw [unread_readFields]
    exact h.bare.suffix ⟨taken, htakes.split.symm⟩

/-- Reads go on in lockstep: the tokens get their carriage returns and the lines stay. -/
theorem lockstep : Lockstep returned id (fun _ ↦ True) (FacesReturned (σ := σ) (τ := τ)) where
  skipEmpty h := by rw [h.options]
  trim h := by rw [h.options]
  line h := h.line
  tokens h skipEmpty trim _ := h.tokens?_readFields skipEmpty trim
  readFields h skipEmpty := h.readFields skipEmpty

/-- A way of reading on is answered in the same way. -/
theorem answer (h : first.FacesReturned second) (call : ReadCall) :
    (second.serve call.request).answer = (first.serve call.request).answer.shown returned id ∧
      (first.serve call.request).reader.FacesReturned (second.serve call.request).reader := by
  cases call with
  | line skipEmpty trim => exact lockstep.serve_line h skipEmpty trivial
  | records count => exact lockstep.serve_records h trivial count

/-- Ways of reading on are answered in the same way. -/
theorem answers (h : first.FacesReturned second) (calls : List ReadCall) :
    (replies serve second (calls.map ReadCall.request)).map Reply.answer =
      (replies serve first (calls.map ReadCall.request)).map fun reply ↦
        reply.answer.shown returned id := by
  induction calls generalizing first second with
  | nil => rfl
  | cons call calls ih =>
      obtain ⟨hanswer, hnext⟩ := h.answer call
      simp only [List.map_cons, replies, hanswer, ih hnext]

end Reader.FacesReturned

/-- Let no newline of a text stand behind a carriage return. With valid options, the text with a
carriage return in front of every newline is read like the text itself, by whatever ways of reading:
the statuses, the line counters and the numbers of tokens are the same, and so are the tokens, but
for a carriage return in front of every newline that they hold. Only fields that opened with a quote
hold one. -/
theorem answers_addReturns {source : σ} {behindReturns : τ} {options : Options}
    (hvalid : options.Valid) (hbare : BareNewlines (unread source))
    (hunread : unread behindReturns = addReturns (unread source)) (calls : List ReadCall) :
    let reader : Reader σ := { source, options }
    let other : Reader τ := { source := behindReturns, options }
    (replies Reader.serve other (calls.map ReadCall.request)).map Reply.answer =
        (replies Reader.serve reader (calls.map ReadCall.request)).map (fun reply ↦
          reply.answer.shown returned id) ∧
      ∀ (skipEmpty : Bool),
        let reading := (reader.after (calls.map ReadCall.request)).readFields skipEmpty
        ∀ field ∈ reading.fields?.getD [], '\n' ∈ field.text.toList → field.quoted = true := by
  intro reader other
  have hfaces : reader.FacesReturned other := ⟨rfl, hvalid, rfl, hunread, hbare⟩
  exact ⟨hfaces.answers calls, fun skipEmpty ↦ Reader.FacesReturned.newlinesQuoted_readFields _ _⟩

/-- Five kinds of line ends get their carriage returns: an empty line, a comment, the end of a line
behind a closing quote, a trailing comment behind a lone carriage return, and newlines in a field that
is never closed. -/
theorem answers_addReturns_of_five_line_ends :
    let source := TextSource.ofText "\n#a\n\"b\nc\"\nd\r#e\n\"f\n\n"
    let behindReturns := TextSource.ofText "\r\n#a\r\n\"b\r\nc\"\r\nd\r#e\r\n\"f\r\n\r\n"
    let calls : List ReadCall := [.line false true, .records 2, .line true false, .line true true]
    Options.Valid {} ∧ BareNewlines (unread source) ∧
      unread behindReturns = addReturns (unread source) ∧
      (replies Reader.serve ({ source := behindReturns } : Reader TextSource)
          (calls.map ReadCall.request)).map Reply.answer =
        [.line .line [] 1,
          .records [{ line := 4, fields := ["b\r\nc"] }, { line := 5, fields := ["d\r"] }] 5,
          .line .line ["f\r\n\r\n"] 7, .line .endOfStream [] 7] := by
  intro source behindReturns calls
  have hvalid : Options.Valid {} := by decide
  have hbare : BareNewlines (unread source) := by decide +kernel
  have hunread : unread behindReturns = addReturns (unread source) := by decide +kernel
  refine ⟨hvalid, hbare, hunread, ?_⟩
  exact (answers_addReturns hvalid hbare hunread calls).1.trans (by decide +kernel)

end Delimited
