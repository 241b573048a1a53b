import Delimited.Proofs.PhysicalLines

/-!
# Reading a renamed text

A scan looks at a character only to compare it with a few others. So it commutes with a renaming of
characters under which these comparisons come out the same: `scanText_map`. Outside quotes there are
two questions, whether the character is the delimiter and, if not, whether the line ends there
(`Dialect.EndsAt`). For which of its roles it ends there makes no difference, since the text behind
the line is the same: `scanText_of_endsAt`.
-/

namespace Delimited

/-- A field with its characters renamed. -/
def Field.map (rename : Char → Char) (field : Field) : Field :=
  { field with text := field.text.map rename }

/-- What a scan has found, with its characters renamed. -/
def LineScan.map (rename : Char → Char) (scan : LineScan) : LineScan :=
  { scan with fields := scan.fields.map (Field.map rename), field := scan.field.map rename }

/-- A scanned line and the text behind it, with their characters renamed. -/
def ScannedText.map (rename : Char → Char) (scanned : ScannedText) : ScannedText :=
  { scanned with
    fields := scanned.fields.map (Field.map rename), rest := scanned.rest.map rename }

/-- The outcome of a read, with its characters renamed. -/
def TextReading.map (rename : Char → Char) (reading : TextReading) : TextReading :=
  { reading with
    fields? := reading.fields?.map (List.map (Field.map rename)), rest := reading.rest.map rename }

section Map

variable (rename : Char → Char)

@[simp] theorem Field.map_empty : ({} : Field).map rename = {} := by
  simp [Field.map]

/-- Nothing is renamed. -/
@[simp] theorem Field.map_id : Field.map id = id := by
  funext field
  simp [Field.map]

@[simp] theorem LineScan.map_empty : ({} : LineScan).map rename = {} := by
  simp [LineScan.map]

/-- Nothing is renamed. -/
@[simp] theorem LineScan.map_id (scan : LineScan) : scan.map id = scan := by
  simp [LineScan.map]

/-- Nothing is renamed. -/
@[simp] theorem ScannedText.map_id (scanned : ScannedText) : scanned.map id = scanned := by
  simp [ScannedText.map]

/-- Nothing is renamed. -/
@[simp] theorem TextReading.map_id (reading : TextReading) : reading.map id = reading := by
  simp [TextReading.map]

@[simp] theorem LineScan.place_map (scan : LineScan) : (scan.map rename).place = scan.place := rfl

@[simp] theorem LineScan.continuations_map (scan : LineScan) :
    (scan.map rename).continuations = scan.continuations := rfl

/-- A character is added renamed. -/
theorem LineScan.map_push (scan : LineScan) (char : Char) (place : Place) :
    (scan.push char place).map rename = (scan.map rename).push (rename char) place := by
  simp [LineScan.map, push, Field.map, Field.push, ← String.toList_inj]

@[simp] theorem LineScan.map_nextField (scan : LineScan) :
    scan.nextField.map rename = (scan.map rename).nextField := by
  simp [LineScan.map, nextField]

@[simp] theorem LineScan.map_openQuote (scan : LineScan) :
    scan.openQuote.map rename = (scan.map rename).openQuote := rfl

@[simp] theorem LineScan.map_closeQuote (scan : LineScan) :
    scan.closeQuote.map rename = (scan.map rename).closeQuote := rfl

@[simp] theorem LineScan.map_stop (scan : LineScan) (rest : List Char) :
    (scan.stop rest).map rename = (scan.map rename).stop (rest.map rename) := by
  simp [LineScan.map, stop, ScannedText.map, allFields]

end Map

/-- A scan outside quotes that comes to a character other than the delimiter ends its line there. -/
def Dialect.EndsAt (dialect : Dialect) (char : Char) (rest : List Char) : Prop :=
  char = '\n' ∨ char = '\r' ∧ rest.head? = some '\n' ∨ char = dialect.comment

section Plain

variable {dialect : Dialect} {scan : LineScan} {char : Char} {rest : List Char}

/-- Outside quotes the delimiter ends the field. -/
theorem scanText_delimiter (hplace : scan.place ≠ .quoted) (hdelimiter : char = dialect.delimiter) :
    scanText dialect scan (char :: rest) = scanText dialect scan.nextField rest := by
  rw [scanText_plain dialect hplace, if_pos hdelimiter]

/-- Where the line ends it is dropped as a whole, whatever role of the character ends it. -/
theorem scanText_of_endsAt (hplace : scan.place ≠ .quoted) (hdelimiter : char ≠ dialect.delimiter)
    (hends : dialect.EndsAt char rest) :
    scanText dialect scan (char :: rest) = scan.stop (afterLine (char :: rest)) := by
  rw [scanText_plain dialect hplace, if_neg hdelimiter]
  by_cases hnewline : char = '\n'
  · rw [if_pos hnewline, afterLine, if_pos hnewline]
  · rw [if_neg hnewline, afterLine, if_neg hnewline]
    split
    · -- the newline behind a carriage return is the end of the physical line
      rename_i hreturn
      obtain ⟨behind, rfl⟩ := List.head?_eq_some_iff.mp hreturn.2
      rw [afterLine, if_pos rfl, List.tail_cons]
    · rename_i hreturn
      rw [if_pos ((hends.resolve_left hnewline).resolve_left hreturn)]

/-- Where the line goes on, a quote at the start of a field opens quoted text and everything else is
text. -/
theorem scanText_of_not_endsAt (hplace : scan.place ≠ .quoted)
    (hdelimiter : char ≠ dialect.delimiter) (hends : ¬ dialect.EndsAt char rest) :
    scanText dialect scan (char :: rest) =
      if char = quote ∧ scan.place = .fieldStart then scanText dialect scan.openQuote rest
      else scanText dialect (scan.push char .plain) rest := by
  obtain ⟨hnewline, hreturn, hcomment⟩ : char ≠ '\n' ∧ ¬ (char = '\r' ∧ rest.head? = some '\n') ∧
      char ≠ dialect.comment := by
    simpa only [Dialect.EndsAt, not_or] using hends
  rw [scanText_plain dialect hplace, if_neg hdelimiter, if_neg hnewline, if_neg hreturn,
    if_neg hcomment]

end Plain

/-- Under a renaming of characters the comparisons that a scan of a text can make come out the same,
in the one dialect before it and in the other one behind it. -/
structure Renames (rename : Char → Char) (dialect renamed : Dialect) (text : List Char) : Prop where
  delimiter : ∀ char ∈ text, rename char = renamed.delimiter ↔ char = dialect.delimiter
  quote : ∀ char ∈ text, rename char = quote ↔ char = quote
  newline : ∀ char ∈ text, rename char = '\n' ↔ char = '\n'
  ends : ∀ char rest, char :: rest <:+ text → char ≠ dialect.delimiter →
    (renamed.EndsAt (rename char) (rest.map rename) ↔ dialect.EndsAt char rest)

namespace Renames

variable {rename : Char → Char} {dialect renamed : Dialect} {text rest : List Char} {char : Char}

/-- What holds of a text holds of its ends. -/
theorem suffix (h : Renames rename dialect renamed text) (hsuffix : rest <:+ text) :
    Renames rename dialect renamed rest where
  delimiter char hchar := h.delimiter char (hsuffix.mem hchar)
  quote char hchar := h.quote char (hsuffix.mem hchar)
  newline char hchar := h.newline char (hsuffix.mem hchar)
  ends char behind hbehind := h.ends char behind (hbehind.trans hsuffix)

/-- What holds of a text holds of it without its first character. -/
theorem tail (h : Renames rename dialect renamed (char :: rest)) :
    Renames rename dialect renamed rest :=
  h.suffix (List.suffix_cons char rest)

/-- The text behind a line is renamed like the line. -/
theorem afterLine_map (h : Renames rename dialect renamed text) :
    afterLine (text.map rename) = (afterLine text).map rename := by
  induction text with
  | nil => rfl
  | cons char rest ih =>
      simp only [List.map_cons, afterLine, h.newline char List.mem_cons_self]
      split
      · rfl
      · exact ih h.tail

/-- A line that ends outside quotes ends there renamed. -/
theorem stop_map (h : Renames rename dialect renamed (char :: rest)) {scan : LineScan}
    (hplace : scan.place ≠ .quoted) (hdelimiter : char ≠ dialect.delimiter)
    (hends : dialect.EndsAt char rest) :
    scanText renamed (scan.map rename) ((char :: rest).map rename) =
      (scan.stop (afterLine (char :: rest))).map rename := by
  rw [LineScan.map_stop, ← h.afterLine_map, List.map_cons]
  refine scanText_of_endsAt hplace ?_ ((h.ends char rest List.suffix_rfl hdelimiter).mpr hends)
  rwa [ne_eq, h.delimiter char List.mem_cons_self]

/-- A line that goes on outside quotes goes on renamed. -/
theorem goesOn_map (h : Renames rename dialect renamed (char :: rest)) {scan : LineScan}
    (hplace : scan.place ≠ .quoted) (hdelimiter : char ≠ dialect.delimiter)
    (hends : ¬ dialect.EndsAt char rest) :
    scanText renamed (scan.map rename) ((char :: rest).map rename) =
      if char = Delimited.quote ∧ scan.place = .fieldStart then
        scanText renamed (scan.map rename).openQuote (rest.map rename)
      else scanText renamed ((scan.map rename).push (rename char) .plain) (rest.map rename) := by
  have hsame := h.ends char rest List.suffix_rfl hdelimiter
  have hother : rename char ≠ renamed.delimiter := by
    rwa [ne_eq, h.delimiter char List.mem_cons_self]
  rw [← LineScan.place_map rename] at hplace ⊢
  rw [List.map_cons, scanText_of_not_endsAt hplace hother (fun hmap ↦ hends (hsame.mp hmap))]
  simp only [h.quote char List.mem_cons_self]

end Renames

/-- Scanning commutes with a renaming of characters under which the comparisons come out the same. -/
theorem scanText_map {rename : Char → Char} {dialect renamed : Dialect} {text : List Char}
    (h : Renames rename dialect renamed text) (scan : LineScan) :
    scanText renamed (scan.map rename) (text.map rename) =
      (scanText dialect scan text).map rename := by
  fun_induction scanText dialect scan text with
  | case1 scan => simp [scanText]
  | case2 scan hplace rest ih =>
      rw [← LineScan.place_map rename] at hplace
      have hquote : rename quote = quote := (h.quote quote List.mem_cons_self).mpr rfl
      have hpair := scanText_pair renamed hplace (rest.map rename)
      rw [← ih h.tail.tail, LineScan.map_push, hquote, ← hpair]
      have htext : (quote :: '"' :: rest).map rename = quote :: quote :: rest.map rename := by
        rw [List.map_cons, List.map_cons, show rename '"' = quote from hquote, hquote]
      rw [htext]
  | case3 scan hplace rest hrest ih =>
      rw [← LineScan.place_map rename] at hplace
      have hquote : rename quote = quote := (h.quote quote List.mem_cons_self).mpr rfl
      have hahead : (rest.map rename).head? ≠ some quote := by
        cases rest with
        | nil => simp
        | cons second behind =>
            have hsecond : second ≠ quote := by
              rintro rfl
              exact hrest behind rfl
            simpa [h.quote second (by simp)] using hsecond
      rw [← ih h.tail, List.map_cons, hquote, LineScan.map_closeQuote]
      exact scanText_close renamed hplace hahead
  | case4 scan rest hplace opened hchar ih =>
      rw [← LineScan.place_map rename] at hplace
      have hnewline : rename '\n' = '\n' := (h.newline '\n' List.mem_cons_self).mpr rfl
      rw [← ih h.tail, List.map_cons, hnewline, scanText_quoted renamed hplace hchar, if_pos rfl,
        List.isEmpty_map]
      have hpush := LineScan.map_push rename scan '\n' .quoted
      rw [hnewline] at hpush
      rw [← hpush]
      rfl
  | case5 scan char rest hplace hquote hnewline ih =>
      rw [← LineScan.place_map rename] at hplace
      rw [← ih h.tail, List.map_cons,
        scanText_quoted renamed hplace (by rwa [ne_eq, h.quote char List.mem_cons_self]),
        if_neg (by rwa [h.newline char List.mem_cons_self]), LineScan.map_push]
  | case6 scan rest hplace ih =>
      rw [← LineScan.place_map rename] at hplace
      rw [← ih h.tail, List.map_cons, LineScan.map_nextField]
      exact scanText_delimiter hplace ((h.delimiter _ List.mem_cons_self).mpr rfl)
  | case7 scan rest hplace hdelimiter =>
      rw [h.stop_map hplace hdelimiter (.inl rfl), afterLine, if_pos rfl]
  | case8 scan char rest hplace hdelimiter hnewline hreturn =>
      obtain ⟨behind, rfl⟩ := List.head?_eq_some_iff.mp hreturn.2
      rw [h.stop_map hplace hdelimiter (.inr (.inl hreturn)), afterLine, if_neg hnewline, afterLine,
        if_pos rfl, List.tail_cons]
  | case9 scan rest hplace hdelimiter hnewline hreturn =>
      rw [h.stop_map hplace hdelimiter (.inr (.inr rfl)), afterLine, if_neg hnewline]
  | case10 scan char rest hplace hdelimiter hnewline hreturn hcomment hquote ih =>
      have hends : ¬ dialect.EndsAt char rest :=
        not_or.mpr ⟨hnewline, not_or.mpr ⟨hreturn, hcomment⟩⟩
      rw [h.goesOn_map hplace hdelimiter hends, if_pos hquote,
        ← LineScan.map_openQuote, ih h.tail]
  | case11 scan char rest hplace hdelimiter hnewline hreturn hcomment hquote ih =>
      have hends : ¬ dialect.EndsAt char rest :=
        not_or.mpr ⟨hnewline, not_or.mpr ⟨hreturn, hcomment⟩⟩
      rw [h.goesOn_map hplace hdelimiter hends, if_neg hquote,
        ← LineScan.map_push, ih h.tail]

/-- Reading a line that is no comment commutes with such a renaming, if it does not turn the line into
a comment or an empty line or out of one. -/
theorem readText_map {rename : Char → Char} {dialect renamed : Dialect} {text : List Char}
    (h : Renames rename dialect renamed text) (hcomment : text.head? ≠ some dialect.comment)
    (hrenamed : (text.map rename).head? ≠ some renamed.comment)
    (hempty : afterEmptyLine? (text.map rename) = (afterEmptyLine? text).map (List.map rename))
    (line : Nat) :
    readText renamed false line (text.map rename) =
      (readText dialect false line text).map rename := by
  by_cases htext : text = []
  · simp [htext, TextReading.map]
  cases hafter : afterEmptyLine? text with
  | some behind =>
      rw [hafter, Option.map_some] at hempty
      rw [readText_empty false line hcomment hafter, readText_empty false line hrenamed hempty]
      rfl
  | none =>
      rw [hafter, Option.map_none] at hempty
      have hscan := scanText_map h {}
      rw [LineScan.map_empty] at hscan
      rw [readText_logical false line hcomment hafter htext,
        readText_logical false line hrenamed hempty (by simpa using htext), hscan]
      rfl

end Delimited
