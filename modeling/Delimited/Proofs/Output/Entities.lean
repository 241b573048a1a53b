import Delimited.Output.Tag

/-!
# Entities

The characters that could be taken for markup are replaced one after the other. Since the ampersand
comes first, no replacement touches what another one wrote: `escapeChars_eq_flatMap` says that all of
them make a single pass over the text. `unescape` undoes a single pass, and `Escaped` says what the
result of one looks like.

`replaced` keeps account of who wrote the characters that the replacements take away.
`written_of_mem_replaced` says which orders of replacements leave alone what they wrote themselves,
and `escape_eq_single_pass` puts this together for the order in which they are made.
-/

namespace Delimited.Tag

/-- What stands for a character behind a single pass. -/
def entity : Char → List Char
  | '&' => "&amp;".toList
  | '<' => "&lt;".toList
  | '>' => "&gt;".toList
  | '"' => "&quot;".toList
  | '\'' => "&apos;".toList
  | char => [char]

/-- The entities of the characters that could be taken for markup. -/
def entities : List (List Char) :=
  ['&', '<', '>', '"', '\''].map entity

/-- Undo the entities from left to right, each once. -/
def unescape : List Char → List Char
  | '&' :: 'a' :: 'm' :: 'p' :: ';' :: rest => '&' :: unescape rest
  | '&' :: 'l' :: 't' :: ';' :: rest => '<' :: unescape rest
  | '&' :: 'g' :: 't' :: ';' :: rest => '>' :: unescape rest
  | '&' :: 'q' :: 'u' :: 'o' :: 't' :: ';' :: rest => '"' :: unescape rest
  | '&' :: 'a' :: 'p' :: 'o' :: 's' :: ';' :: rest => '\'' :: unescape rest
  | char :: rest => char :: unescape rest
  | [] => []

/-- No character of the text could be taken for markup, and each ampersand starts an entity. -/
structure Escaped (text : List Char) : Prop where
  markup_notMem : ∀ char ∈ ['<', '>', '"', '\''], char ∉ text
  entity_of_ampersand : ∀ before rest, text = before ++ '&' :: rest →
    ∃ entity ∈ entities, entity <+: '&' :: rest

/-- A character is one of those with an entity of their own, or it stands for itself. -/
theorem entity_cases (char : Char) :
    char ∈ ['&', '<', '>', '"', '\''] ∨
      char ∉ ['&', '<', '>', '"', '\''] ∧ entity char = [char] := by
  by_cases h : char ∈ ['&', '<', '>', '"', '\'']
  · exact .inl h
  · refine .inr ⟨h, ?_⟩
    simp only [List.mem_cons, not_or] at h
    unfold entity
    split <;> simp_all

/-- Replacing goes character by character. -/
theorem replaceChar_flatMap (char : Char) (written : List Char) (text : List Char)
    (replace : Char → List Char) :
    replaceChar char written (text.flatMap replace) =
      text.flatMap fun other ↦ replaceChar char written (replace other) :=
  List.flatMap_assoc

/-- Another character is left alone. -/
theorem replaceChar_of_ne {char other : Char} (h : other ≠ char) (written : List Char) :
    replaceChar char written [other] = [other] := by
  simp [replaceChar, h]

/-- The replacements, one after the other, put the entity of each character in its place. -/
theorem escapeChars_eq_flatMap (text : List Char) : escapeChars text = text.flatMap entity := by
  have hsplit : escapeChars text = text.flatMap fun char ↦ escapeChars [char] := by
    rw [escapeChars, replaceChar.eq_1 '&']
    simp only [replaceChar_flatMap]
    simp [escapeChars, replaceChar.eq_1 '&']
  have hentity : (fun char ↦ escapeChars [char]) = entity := by
    funext char
    obtain hmem | ⟨hnot, hself⟩ := entity_cases char
    · simp only [List.mem_cons, List.not_mem_nil, or_false] at hmem
      rcases hmem with rfl | rfl | rfl | rfl | rfl <;> rfl
    · rw [hself]
      simp only [List.mem_cons, not_or] at hnot
      obtain ⟨hampersand, hless, hgreater, hquote, hapostrophe, _⟩ := hnot
      rw [escapeChars, replaceChar_of_ne hampersand, replaceChar_of_ne hless,
        replaceChar_of_ne hgreater, replaceChar_of_ne hquote, replaceChar_of_ne hapostrophe]
  rw [hsplit, hentity]

/-- Behind the entity of a character the undoing goes on. -/
theorem unescape_entity_append (char : Char) (rest : List Char) :
    unescape (entity char ++ rest) = char :: unescape rest := by
  obtain hmem | ⟨hnot, hself⟩ := entity_cases char
  · simp only [List.mem_cons, List.not_mem_nil, or_false] at hmem
    rcases hmem with rfl | rfl | rfl | rfl | rfl <;> rfl
  · simp only [List.mem_cons, not_or] at hnot
    rw [hself, List.singleton_append, unescape]
    all_goals simp [hnot]

/-- Undoing the entities of an escaped text gives the text back. -/
theorem unescape_escapeChars (text : List Char) : unescape (escapeChars text) = text := by
  rw [escapeChars_eq_flatMap]
  induction text with
  | nil => rfl
  | cons char rest ih => rw [List.flatMap_cons, unescape_entity_append, ih]

/-- What stands for a character holds no markup, and an ampersand only in front, where it is that of an
entity. -/
theorem entity_shape (char : Char) :
    ∃ first others, entity char = first :: others ∧ '&' ∉ others ∧
      (first = '&' → entity char ∈ entities) ∧
      ∀ other ∈ ['<', '>', '"', '\''], other ∉ entity char := by
  obtain hmem | ⟨hnot, hself⟩ := entity_cases char
  · have hentities : entity char ∈ entities := List.mem_map_of_mem hmem
    simp only [List.mem_cons, List.not_mem_nil, or_false] at hmem
    rcases hmem with rfl | rfl | rfl | rfl | rfl
    all_goals
      refine ⟨'&', _, rfl, by decide, fun _ ↦ hentities, ?_⟩
      simp only [List.forall_mem_cons]
      exact ⟨by decide, by decide, by decide, by decide, by simp⟩
  · refine ⟨char, [], hself, List.not_mem_nil, ?_, ?_⟩
    · rintro rfl
      simp at hnot
    · intro other hother hsame
      rw [hself, List.mem_singleton] at hsame
      exact hnot (List.mem_cons_of_mem _ (hsame ▸ hother))

/-- The entity of a character in front of an escaped text keeps it escaped. -/
theorem Escaped.entity_append {text : List Char} (h : Escaped text) (char : Char) :
    Escaped (entity char ++ text) := by
  obtain ⟨first, others, hentity, hothers, hfirst, hmarkup⟩ := entity_shape char
  refine ⟨?_, ?_⟩
  · intro other hother hmem
    rcases List.mem_append.mp hmem with hfront | hback
    · exact hmarkup other hother hfront
    · exact h.markup_notMem other hother hback
  · intro before rest hsplit
    cases before with
    | nil =>
        rw [List.nil_append] at hsplit
        rw [hentity, List.cons_append] at hsplit
        obtain ⟨rfl, hrest⟩ := List.cons.inj hsplit
        exact ⟨entity char, hfirst rfl, text, by rw [hentity, List.cons_append, hrest]⟩
    | cons head before =>
        rw [hentity, List.cons_append, List.cons_append] at hsplit
        obtain ⟨_, hbehind⟩ := List.cons.inj hsplit
        -- the ampersand stands behind the entity, since the entity has none but in front
        rcases List.append_eq_append_iff.mp hbehind with ⟨more, _, hmore⟩ | ⟨more, hmore, hrest⟩
        · exact h.entity_of_ampersand more rest hmore
        · cases more with
          | nil => exact h.entity_of_ampersand [] rest hrest.symm
          | cons head' more =>
              obtain ⟨rfl, _⟩ := List.cons.inj hrest
              exact absurd (by simp [hmore]) hothers

/-- An escaped text holds no markup and no ampersand of its own. -/
theorem escaped_escapeChars (text : List Char) : Escaped (escapeChars text) := by
  rw [escapeChars_eq_flatMap]
  induction text with
  | nil => exact ⟨by simp, by simp⟩
  | cons char rest ih => exact ih.entity_append char

/-- A replacement: a character and what is put in its place. -/
structure Pass where
  char : Char
  entity : List Char

/-- The replacements, in the order in which they are made. -/
def passes : List Pass :=
  [⟨'&', "&amp;".toList⟩, ⟨'<', "&lt;".toList⟩, ⟨'>', "&gt;".toList⟩, ⟨'"', "&quot;".toList⟩,
    ⟨'\'', "&apos;".toList⟩]

/-- A character of a text that replacements run over. -/
structure Glyph where
  char : Char
  /-- A replacement wrote the character. -/
  written : Bool := false
  deriving DecidableEq

/-- Make a replacement wherever its character stands, whoever wrote it. -/
def Pass.apply (pass : Pass) (text : List Glyph) : List Glyph :=
  text.flatMap fun glyph ↦
    if glyph.char = pass.char then pass.entity.map fun char ↦ { char, written := true }
    else [glyph]

/-- What some replacements, one after the other, make of a text. -/
def applyAll (passes : List Pass) (text : List Glyph) : List Glyph :=
  passes.foldl (fun text pass ↦ pass.apply text) text

/-- What some replacements, one after the other, take away from a text. -/
def replaced : List Pass → List Glyph → List Glyph
  | [], _ => []
  | pass :: later, text =>
      text.filter (·.char = pass.char) ++ replaced later (pass.apply text)

/-- Who wrote the characters makes no difference to a replacement. -/
theorem map_char_apply (pass : Pass) (text : List Glyph) :
    (pass.apply text).map Glyph.char = replaceChar pass.char pass.entity (text.map Glyph.char) := by
  induction text with
  | nil => rfl
  | cons glyph text ih =>
      simp only [Pass.apply, replaceChar, List.flatMap_cons, List.map_append, List.map_cons] at ih ⊢
      rw [ih]
      split <;> simp [Function.comp_def]

/-- The replacements, run over the characters of a text, escape it. -/
theorem map_char_applyAll (text : List Char) :
    (applyAll passes (text.map fun char ↦ { char })).map Glyph.char = escapeChars text := by
  have htext : (text.map fun char ↦ ({ char } : Glyph)).map Glyph.char = text := by
    simp [Function.comp_def]
  simp only [applyAll, passes, List.foldl_cons, List.foldl_nil, map_char_apply, htext]
  rfl

/-- Nothing that a replacement wrote is taken away if no replacement writes the character of a later
one. What was written before must not hold the character of any. -/
theorem written_of_mem_replaced {passes : List Pass}
    (horder : passes.Pairwise fun earlier later ↦ later.char ∉ earlier.entity) {text : List Glyph}
    (htext : ∀ glyph ∈ text, glyph.written = true → ∀ pass ∈ passes, glyph.char ≠ pass.char) :
    ∀ glyph ∈ replaced passes text, glyph.written = false := by
  induction passes generalizing text with
  | nil => simp [replaced]
  | cons pass later ih =>
      obtain ⟨hpass, hlater⟩ := List.pairwise_cons.mp horder
      intro glyph hglyph
      rcases List.mem_append.mp hglyph with hfirst | hrest
      · obtain ⟨hmem, hchar⟩ := List.mem_filter.mp hfirst
        rw [Bool.eq_false_iff]
        intro hwritten
        exact htext glyph hmem hwritten pass List.mem_cons_self (by simpa using hchar)
      · refine ih hlater ?_ glyph hrest
        intro other hother hwritten next hnext
        -- a written character is from this replacement or from before
        obtain ⟨origin, horigin, hfrom⟩ := List.mem_flatMap.mp hother
        split at hfrom
        · obtain ⟨char, hchar, rfl⟩ := List.mem_map.mp hfrom
          rintro rfl
          exact hpass next hnext hchar
        · obtain rfl := List.mem_singleton.mp hfrom
          exact htext other horigin hwritten next (List.mem_cons_of_mem _ hnext)

/-- With the ampersand last, the ampersand of an entity would be taken away. -/
example : { char := '&', written := true } ∈ replaced passes.reverse [{ char := '<' }] := by decide

/-- Escaping makes a single pass over a text, in which each character is written as its entity. The
replacements that make it up take nothing away but characters of the text itself. So texts are
escaped piece by piece, and undoing the entities from left to right gives the text back. -/
theorem escape_eq_single_pass (text more : String) :
    escape text = String.join (text.toList.map fun char ↦ String.ofList (entity char)) ∧
      (let own : List Glyph := text.toList.map fun char ↦ { char }
       (applyAll passes own).map Glyph.char = (escape text).toList ∧
         ∀ glyph ∈ replaced passes own, glyph.written = false) ∧
      escape (text ++ more) = escape text ++ escape more ∧
      unescape (escape text).toList = text.toList := by
  have hescape (text : String) : (escape text).toList = text.toList.flatMap entity := by
    rw [escape, String.toList_ofList, escapeChars_eq_flatMap]
  refine ⟨?_, ⟨?_, ?_⟩, ?_, ?_⟩
  · rw [← String.toList_inj, hescape, String.toList_join, List.flatMap_map]
    simp only [String.toList_ofList]
  · rw [map_char_applyAll, escape, String.toList_ofList]
  · refine written_of_mem_replaced (by decide) ?_
    intro glyph hglyph hwritten
    obtain ⟨char, _, rfl⟩ := List.mem_map.mp hglyph
    simp at hwritten
  · rw [← String.toList_inj, String.toList_append, hescape, hescape, hescape, String.toList_append,
      List.flatMap_append]
  · rw [escape, String.toList_ofList, unescape_escapeChars]

/-- The ampersand of what looks like an entity is the first character that is taken away. -/
theorem escape_eq_single_pass_of_entity :
    let first : Glyph := { char := '&' }
    first ∈ replaced passes ("&lt;\"".toList.map fun char ↦ { char }) ∧ first.written = false ∧
      escape ("&lt;\"" ++ "<") = "&amp;lt;&quot;" ++ "&lt;" ∧
      unescape "&amp;lt;&quot;".toList = "&lt;\"".toList := by
  intro first
  have hfirst : first ∈ replaced passes ("&lt;\"".toList.map fun char ↦ { char }) := by decide
  obtain ⟨hpass, ⟨_, hreplaced⟩, happend, hundone⟩ := escape_eq_single_pass "&lt;\"" "<"
  have hescape : escape "&lt;\"" = "&amp;lt;&quot;" := hpass.trans (by decide)
  have hmore : escape "<" = "&lt;" := by decide
  rw [hescape] at hundone
  exact ⟨hfirst, hreplaced first hfirst, by rw [happend, hescape, hmore], hundone⟩

end Delimited.Tag
