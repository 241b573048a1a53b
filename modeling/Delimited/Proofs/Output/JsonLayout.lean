import Delimited.Proofs.Output.JsonText

/-!
# White space around JSON

`squeeze` takes the white space out of a text, except inside its strings. What is left of a string is
the string itself, with its escaped quotes, and what is left of a collection is the collection laid out
without white space: `Squeezes` says what is left of a text wherever it stands, so that parts of a text
are put together.
-/

namespace Delimited.Json

/-- Where in a text a character stands. -/
inductive Place where
  /-- Outside all strings. -/
  | outside
  /-- In a string. -/
  | inside
  /-- In a string, behind a backslash. -/
  | escaped
  deriving DecidableEq, Repr

/-- Take the white space outside strings out of a text. -/
def squeeze : Place → List Char → List Char
  | _, [] => []
  | .outside, char :: rest =>
      if char = '"' then char :: squeeze .inside rest
      else if isBlank char then squeeze .outside rest
      else char :: squeeze .outside rest
  | .inside, char :: rest =>
      if char = '"' then char :: squeeze .outside rest
      else if char = '\\' then char :: squeeze .escaped rest
      else char :: squeeze .inside rest
  | .escaped, char :: rest => char :: squeeze .inside rest

/-- What is left of a text outside strings, whatever stands behind it. -/
def Squeezes (text left : List Char) : Prop :=
  ∀ rest, squeeze .outside (text ++ rest) = left ++ squeeze .outside rest

theorem squeezes_nil : Squeezes [] [] := fun _ ↦ rfl

theorem Squeezes.append {text left more leftMore : List Char} (h : Squeezes text left)
    (hmore : Squeezes more leftMore) : Squeezes (text ++ more) (left ++ leftMore) := by
  intro rest
  rw [List.append_assoc, h, hmore, List.append_assoc]

/-- Of white space nothing is left. -/
theorem Blank.squeezes {blanks : List Char} (h : Blank blanks) : Squeezes blanks [] := by
  induction blanks with
  | nil => exact squeezes_nil
  | cons char blanks ih =>
      obtain ⟨hchar, hblanks⟩ := List.forall_mem_cons.mp h
      have hquote : char ≠ '"' := by
        rintro rfl
        exact absurd hchar (by decide)
      intro rest
      rw [List.cons_append, squeeze, if_neg hquote, if_pos hchar]
      exact ih hblanks rest

/-- Text without white space and without strings is left as it is. -/
theorem squeezes_plain {text : List Char}
    (h : ∀ char ∈ text, isBlank char = false ∧ char ≠ '"') : Squeezes text text := by
  induction text with
  | nil => exact squeezes_nil
  | cons char text ih =>
      obtain ⟨⟨hblank, hquote⟩, htext⟩ := List.forall_mem_cons.mp h
      intro rest
      rw [List.cons_append, squeeze, if_neg hquote, hblank, if_neg Bool.false_ne_true, ih htext rest,
        List.cons_append]

/-- The digits of a number are left. -/
theorem squeezes_digits (number : Nat) :
    Squeezes (Nat.toDigits 10 number) (Nat.toDigits 10 number) := by
  refine squeezes_plain fun digit hmem ↦ ?_
  have hdigit := isDigit_of_mem hmem
  exact ⟨isBlank_of_isDigit hdigit, ne_of_isDigit hdigit rfl⟩

/-- What a character is written as in a string is left, and the string goes on behind it. -/
theorem squeeze_escapeChar (char : Char) (rest : List Char) :
    squeeze .inside (escapeChar char ++ rest) = escapeChar char ++ squeeze .inside rest := by
  have hplain (digits : List Char) (h : ∀ digit ∈ digits, digit ≠ '"' ∧ digit ≠ '\\') :
      squeeze .inside (digits ++ rest) = digits ++ squeeze .inside rest := by
    induction digits with
    | nil => rfl
    | cons digit digits ih =>
        obtain ⟨⟨hquote, hslash⟩, hdigits⟩ := List.forall_mem_cons.mp h
        rw [List.cons_append, squeeze, if_neg hquote, if_neg hslash, ih hdigits, List.cons_append]
  obtain ⟨hself, hquote, hslash, _⟩ | ⟨letter, digits, hescaped⟩ := escapeChar_cases char
  · rw [hself]
    exact hplain [char] (by simp [hquote, hslash])
  · -- behind the backslash the letter is passed over, even if it is a quote or a backslash itself
    rw [hescaped.eq, List.cons_append, List.cons_append, squeeze, if_neg (by decide), if_pos rfl,
      squeeze, hplain digits hescaped.digits_plain]
    rfl

/-- A string is left as it is. -/
theorem squeezes_string (text : String) : Squeezes (string text).toList (string text).toList := by
  have hinside (chars rest : List Char) :
      squeeze .inside (chars.flatMap escapeChar ++ '"' :: rest) =
        chars.flatMap escapeChar ++ '"' :: squeeze .outside rest := by
    induction chars with
    | nil => rw [List.flatMap_nil, List.nil_append, squeeze, if_pos rfl, List.nil_append]
    | cons char chars ih =>
        rw [List.flatMap_cons, List.append_assoc, squeeze_escapeChar, ih, List.append_assoc]
  intro rest
  rw [toList_string_append, squeeze, if_pos rfl, hinside, toList_string_append]

/-- A comma or a bracket is left. -/
theorem squeezes_mark {mark : Char} (h : mark ∈ [',', ':', '[', ']', '\x7b', '\x7d']) :
    Squeezes [mark] [mark] := by
  refine squeezes_plain ?_
  simp only [List.mem_cons, List.not_mem_nil, or_false] at h
  rcases h with rfl | rfl | rfl | rfl | rfl | rfl
  all_goals simp [isBlank]

/-- Between the texts of a collection the commas are left. -/
theorem squeezes_intercalate {front : List Char} (hfront : Blank front)
    {texts left : List (List Char)} (h : List.Forall₂ Squeezes texts left) :
    Squeezes ([','].intercalate (texts.map (front ++ ·)))
      ([','].intercalate (left.map ([] ++ ·))) := by
  induction h with
  | nil => exact squeezes_nil
  | cons htext htexts ih =>
      have hone := hfront.squeezes.append htext
      cases htexts with
      | nil =>
          rw [List.map_singleton, List.map_singleton, List.intercalate_singleton,
            List.intercalate_singleton]
          exact hone
      | cons =>
          simp only [List.map_cons, List.intercalate_cons_cons] at ih ⊢
          exact (hone.append (squeezes_mark (by decide))).append ih

/-- Of a collection the collection without white space is left. -/
theorem squeezes_laid {opening closing : Char}
    (hopening : opening ∈ [',', ':', '[', ']', '\x7b', '\x7d'])
    (hclosing : closing ∈ [',', ':', '[', ']', '\x7b', '\x7d']) {front behind : List Char}
    (hfront : Blank front) (hbehind : Blank behind) {texts left : List (List Char)}
    (h : List.Forall₂ Squeezes texts left) :
    Squeezes (laid opening closing front behind texts) (laid opening closing [] [] left) := by
  have hopen := squeezes_mark hopening
  have hclose := squeezes_mark hclosing
  unfold laid
  cases h with
  | nil => exact hopen.append hclose
  | cons htext htexts =>
      have hinside := squeezes_intercalate hfront (.cons htext htexts)
      rw [if_neg (by simp), if_neg (by simp)]
      exact hopen.append (hinside.append (hbehind.squeezes.append hclose))

/-- Of an entry the entry without white space is left. -/
theorem squeezes_entryText (key : String) {blanks text left : List Char} (hblanks : Blank blanks)
    (h : Squeezes text left) : Squeezes (entryText key blanks text) (entryText key [] left) := by
  have hcolon : Squeezes [':'] [':'] := squeezes_mark (by decide)
  exact (squeezes_string key).append (hcolon.append (hblanks.squeezes.append h))

end Delimited.Json
