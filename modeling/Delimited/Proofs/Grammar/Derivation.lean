import Delimited.Proofs.Grammar.Syntax
import Mathlib.Logic.ExistsUnique

/-!
# Every text has exactly one derivation

The grammar of a document is total and unambiguous: `existsUnique_derivation`. Both halves go rule by
rule. A rule that looks ahead says what it stops in front of (`StopsPlain`, `StopsBody`); what it
stops in front of fixes where it ends, so two trees of one rule that stand in front of the same text
are the same tree.
-/

namespace Delimited

/-- The delimiter and the comment character have no fixed role, and they differ. -/
structure Dialect.Valid (dialect : Dialect) : Prop where
  delimiter_quote : dialect.delimiter ≠ quote
  delimiter_newline : dialect.delimiter ≠ '\n'
  delimiter_return : dialect.delimiter ≠ '\r'
  comment_quote : dialect.comment ≠ quote
  comment_newline : dialect.comment ≠ '\n'
  comment_return : dialect.comment ≠ '\r'
  differ : dialect.comment ≠ dialect.delimiter

/-- Valid options ask for a valid dialect. -/
theorem Options.Valid.dialect {options : Options} (h : options.Valid) : options.dialect.Valid := by
  obtain ⟨hdelimiter, hcomment, hdiffer⟩ := Options.valid_iff.mp h
  simp only [isReserved, Bool.or_eq_false_iff, beq_eq_false_iff_ne] at hdelimiter hcomment
  exact ⟨hdelimiter.1.1, hdelimiter.1.2, hdelimiter.2, hcomment.1.1, hcomment.1.2, hcomment.2,
    hdiffer⟩

namespace Grammar

variable {dialect : Dialect} {rest behind : List Char}

/-- Plain text ends in front of this text. -/
def StopsPlain (dialect : Dialect) (rest : List Char) : Prop :=
  rest = [] ∨ rest.head? = some dialect.delimiter ∨ rest.head? = some dialect.comment ∨
    ∃ lineBreak : LineBreak, lineBreak.chars <+: rest

/-- What stands between quotes ends in front of this text. -/
def StopsBody (rest : List Char) : Prop :=
  rest = [] ∨ ∃ behind, rest = quote :: behind ∧ behind.head? ≠ some quote

/-- Plain text does not start where plain text ends. -/
theorem PlainText.not_stops {char : Char} {text : List Char}
    (h : PlainText dialect (char :: text) rest) :
    ¬ StopsPlain dialect (char :: (text ++ rest)) := by
  obtain ⟨hdelimiter, hcomment, hnewline, hreturn, _⟩ := h
  rintro (hnil | hhead | hhead | ⟨lineBreak, hbreak⟩)
  · exact absurd hnil (by simp)
  · exact hdelimiter (by simpa using hhead)
  · exact hcomment (by simpa using hhead)
  · obtain ⟨behind, hbehind⟩ := hbreak
    cases lineBreak with
    | newline => exact hnewline (List.cons.inj hbehind).1.symm
    | returnNewline =>
        obtain ⟨hchar, htext⟩ := List.cons.inj hbehind
        exact hreturn ⟨hchar.symm, by simp [← htext]⟩

/-- Plain text ends where it has to stop. -/
theorem PlainText.unique {text other : List Char} (h : PlainText dialect text rest)
    (hstops : StopsPlain dialect rest) (hother : PlainText dialect other behind)
    (hbehind : StopsPlain dialect behind) (hchars : text ++ rest = other ++ behind) :
    text = other := by
  induction text generalizing other with
  | nil =>
      cases other with
      | nil => rfl
      | cons char other =>
          -- the longer text goes on where the shorter one has to stop
          rw [List.nil_append, List.cons_append] at hchars
          exact absurd (hchars ▸ hstops) hother.not_stops
  | cons char text ih =>
      cases other with
      | nil =>
          rw [List.nil_append, List.cons_append] at hchars
          exact absurd (hchars ▸ hbehind) h.not_stops
      | cons first other =>
          obtain ⟨rfl, htail⟩ := List.cons.inj hchars
          rw [ih h.2.2.2.2 hother.2.2.2.2 htail]

/-- Every text starts with plain text that stops where it has to. -/
theorem exists_plainText (dialect : Dialect) (text : List Char) :
    ∃ plain rest, text = plain ++ rest ∧ PlainText dialect plain rest ∧
      StopsPlain dialect rest := by
  induction text with
  | nil => exact ⟨[], [], rfl, trivial, Or.inl rfl⟩
  | cons char text ih =>
      by_cases hstops : StopsPlain dialect (char :: text)
      · exact ⟨[], char :: text, rfl, trivial, hstops⟩
      obtain ⟨plain, rest, rfl, hplain, hrest⟩ := ih
      refine ⟨char :: plain, rest, rfl, ⟨?_, ?_, ?_, ?_, hplain⟩, hrest⟩
      · rintro rfl
        exact hstops (Or.inr (Or.inl rfl))
      · rintro rfl
        exact hstops (Or.inr (Or.inr (Or.inl rfl)))
      · rintro rfl
        exact hstops (Or.inr (Or.inr (Or.inr ⟨.newline, _, rfl⟩)))
      · rintro ⟨rfl, hhead⟩
        obtain ⟨behind, hbehind⟩ := List.head?_eq_some_iff.mp hhead
        refine hstops (Or.inr (Or.inr (Or.inr ⟨.returnNewline, behind, ?_⟩)))
        simp [hbehind, LineBreak.chars]

/-- A part of a body does not start where a body ends. -/
theorem BodyPart.not_stopsBody {part : BodyPart} (hpart : part ≠ .single quote) (more : List Char) :
    ¬ StopsBody (part.chars ++ more) := by
  cases part with
  | single char =>
      rintro (hnil | ⟨behind, hbehind, _⟩)
      · exact absurd hnil (by simp [BodyPart.chars])
      · exact hpart (by rw [(List.cons.inj hbehind).1])
  | pair =>
      rintro (hnil | ⟨behind, hbehind, hhead⟩)
      · exact absurd hnil (by simp [BodyPart.chars])
      · exact hhead (by simp [← (List.cons.inj hbehind).2])

/-- The parts of a body are told apart by their first characters. -/
theorem BodyPart.unique {part other : BodyPart} (h : part ≠ .single quote)
    (hother : other ≠ .single quote) (hchars : part.chars ++ rest = other.chars ++ behind) :
    part = other ∧ rest = behind := by
  cases part with
  | single char =>
      cases other with
      | single char' => simpa [BodyPart.chars] using hchars
      | pair => exact absurd (by rw [(List.cons.inj hchars).1]) h
  | pair =>
      cases other with
      | single char' => exact absurd (by rw [(List.cons.inj hchars).1]) hother
      | pair => exact ⟨rfl, by simpa [BodyPart.chars] using hchars⟩

/-- A body ends where it has to stop. -/
theorem body_unique {body other : List BodyPart} (h : BodyPart.single quote ∉ body)
    (hstops : StopsBody rest) (hother : BodyPart.single quote ∉ other) (hbehind : StopsBody behind)
    (hchars : body.flatMap BodyPart.chars ++ rest = other.flatMap BodyPart.chars ++ behind) :
    body = other ∧ rest = behind := by
  induction body generalizing other with
  | nil =>
      cases other with
      | nil => exact ⟨rfl, hchars⟩
      | cons part other =>
          have hpart : part ≠ .single quote := fun h ↦ hother (by simp [h])
          rw [List.flatMap_cons, List.append_assoc] at hchars
          exact absurd ((show rest = _ from hchars) ▸ hstops) (BodyPart.not_stopsBody hpart _)
  | cons part body ih =>
      have hpart : part ≠ .single quote := fun h' ↦ h (by simp [h'])
      cases other with
      | nil =>
          rw [List.flatMap_cons, List.append_assoc] at hchars
          exact absurd ((show behind = _ from hchars.symm) ▸ hbehind)
            (BodyPart.not_stopsBody hpart _)
      | cons first other =>
          have hfirst : first ≠ .single quote := fun h' ↦ hother (by simp [h'])
          simp only [List.flatMap_cons, List.append_assoc] at hchars
          obtain ⟨rfl, htail⟩ := BodyPart.unique hpart hfirst hchars
          obtain ⟨rfl, hrest⟩ := ih (fun h' ↦ h (List.mem_cons_of_mem _ h'))
            (fun h' ↦ hother (List.mem_cons_of_mem _ h')) htail
          exact ⟨rfl, hrest⟩

/-- A body that a quote closes is told apart from one that only the end of the text ends. -/
theorem closed_ne_unclosed {body other : List BodyPart} {after : List Char}
    (h : BodyPart.single quote ∉ body) (hclose : after.head? ≠ some quote)
    (hother : BodyPart.single quote ∉ other) :
    body.flatMap BodyPart.chars ++ quote :: after ≠ other.flatMap BodyPart.chars := by
  intro hchars
  have hrest := body_unique h (Or.inr ⟨after, rfl, hclose⟩) hother (Or.inl rfl)
    (hchars.trans (List.append_nil _).symm)
  exact absurd hrest.2 (by simp)

/-- Every text starts with a body that stops where it has to. -/
theorem exists_body : ∀ text : List Char, ∃ (body : List BodyPart) (rest : List Char),
    text = body.flatMap BodyPart.chars ++ rest ∧ BodyPart.single quote ∉ body ∧ StopsBody rest
  | [] => ⟨[], [], rfl, by simp, Or.inl rfl⟩
  | char :: text => by
      by_cases hquote : char = quote
      · subst hquote
        -- one more character decides whether the quote closes the body
        match text with
        | [] => exact ⟨[], [quote], rfl, by simp, Or.inr ⟨[], rfl, by simp⟩⟩
        | second :: more =>
            by_cases hsecond : second = quote
            · subst hsecond
              obtain ⟨body, rest, hmore, hbody, hstops⟩ := exists_body more
              exact ⟨.pair :: body, rest, by simp [hmore, BodyPart.chars], by simp [hbody], hstops⟩
            · exact ⟨[], quote :: second :: more, rfl, by simp,
                Or.inr ⟨second :: more, rfl, by simpa using hsecond⟩⟩
      · obtain ⟨body, rest, htext, hbody, hstops⟩ := exists_body text
        refine ⟨.single char :: body, rest, by simp [htext, BodyPart.chars], ?_, hstops⟩
        simp [hbody, Ne.symm hquote]

/-- Plain text does not end in front of a quote. -/
theorem StopsPlain.head?_ne_quote (hvalid : dialect.Valid) (h : StopsPlain dialect rest) :
    rest.head? ≠ some quote := by
  intro hquote
  obtain ⟨behind, rfl⟩ := List.head?_eq_some_iff.mp hquote
  rcases h with hnil | hhead | hhead | ⟨lineBreak, more, hbreak⟩
  · exact absurd hnil (by simp)
  · exact hvalid.delimiter_quote (Option.some.inj hhead).symm
  · exact hvalid.comment_quote (Option.some.inj hhead).symm
  · cases lineBreak <;> exact absurd (List.cons.inj hbreak).1 (by decide)

/-- A plain field does not start with a quote, nor does what follows it if it is empty. -/
theorem head?_plain_ne_quote (hvalid : dialect.Valid) {text : List Char}
    (htext : text.head? ≠ some quote) (hstops : StopsPlain dialect rest) :
    (text ++ rest).head? ≠ some quote := by
  cases text with
  | nil => exact hstops.head?_ne_quote hvalid
  | cons char text => simpa using htext

/-- Where a field ends is fixed by the text it stands in front of. -/
theorem WrittenField.unique (hvalid : dialect.Valid) {field other : WrittenField}
    (h : field.Allowed dialect rest) (hstops : StopsPlain dialect rest)
    (hother : other.Allowed dialect behind) (hbehind : StopsPlain dialect behind)
    (hchars : field.chars ++ rest = other.chars ++ behind) : field = other ∧ rest = behind := by
  suffices hfield : field = other by
    subst hfield
    exact ⟨rfl, List.append_cancel_left hchars⟩
  cases field with
  | plain text =>
      have hhead := head?_plain_ne_quote hvalid h.1 hstops
      cases other with
      | plain text' => rw [h.2.unique hstops hother.2 hbehind hchars]
      | quoted | unclosed => exact absurd (congrArg List.head? hchars) hhead
  | quoted body tail =>
      obtain ⟨hbody, hclose, htail⟩ := h
      cases other with
      | plain text =>
          have hhead := head?_plain_ne_quote hvalid hother.1 hbehind
          exact absurd (congrArg List.head? hchars).symm hhead
      | quoted body' tail' =>
          obtain ⟨hbody', hclose', htail'⟩ := hother
          simp only [chars, List.cons_append, List.append_assoc, List.cons.injEq, true_and]
            at hchars
          obtain ⟨rfl, hrest⟩ := body_unique hbody (Or.inr ⟨_, rfl, hclose⟩) hbody'
            (Or.inr ⟨_, rfl, hclose'⟩) hchars
          rw [htail.unique hstops htail' hbehind (List.cons.inj hrest).2]
      | unclosed body' =>
          obtain ⟨hbody', rfl⟩ := hother
          exact absurd (by simpa [chars] using hchars) (closed_ne_unclosed hbody hclose hbody')
  | unclosed body =>
      obtain ⟨hbody, rfl⟩ := h
      cases other with
      | plain text =>
          have hhead := head?_plain_ne_quote hvalid hother.1 hbehind
          exact absurd (congrArg List.head? hchars).symm hhead
      | quoted body' tail' =>
          obtain ⟨hbody', hclose', _⟩ := hother
          exact absurd (by simpa [chars] using hchars.symm)
            (closed_ne_unclosed hbody' hclose' hbody)
      | unclosed body' =>
          obtain ⟨hbody', rfl⟩ := hother
          simp only [chars, List.cons_append, List.cons.injEq, true_and] at hchars
          rw [(body_unique hbody (Or.inl rfl) hbody' (Or.inl rfl) hchars).1]

/-- Every text starts with a field that stops where it has to. -/
theorem exists_field (dialect : Dialect) (text : List Char) :
    ∃ (field : WrittenField) (rest : List Char), text = field.chars ++ rest ∧
      field.Allowed dialect rest ∧ StopsPlain dialect rest := by
  by_cases hquote : text.head? = some quote
  · obtain ⟨text, rfl⟩ := List.head?_eq_some_iff.mp hquote
    obtain ⟨body, rest, rfl, hbody, hstops⟩ := exists_body text
    rcases hstops with rfl | ⟨behind, rfl, hclose⟩
    · exact ⟨.unclosed body, [], by simp [WrittenField.chars], ⟨hbody, rfl⟩, Or.inl rfl⟩
    · obtain ⟨tail, rest, rfl, htail, hrest⟩ := exists_plainText dialect behind
      exact ⟨.quoted body tail, rest, by simp [WrittenField.chars], ⟨hbody, hclose, htail⟩, hrest⟩
  · obtain ⟨plain, rest, rfl, hplain, hrest⟩ := exists_plainText dialect text
    refine ⟨.plain plain, rest, rfl, ⟨?_, hplain⟩, hrest⟩
    intro hhead
    obtain ⟨more, rfl⟩ := List.head?_eq_some_iff.mp hhead
    exact hquote rfl

/-- What stands behind the text of a comment starts with a newline, if with anything. -/
theorem Remark.Allowed.takeWhile_eq {remark : Remark} (h : remark.Allowed rest) :
    (remark.text ++ ((if remark.terminated then ['\n'] else []) ++ rest)).takeWhile (· ≠ '\n') =
      remark.text := by
  have htext : ∀ char ∈ remark.text, decide (char ≠ '\n') = true := by
    intro char hchar
    have hne : char ≠ '\n' := fun hnewline ↦ h.text (hnewline ▸ hchar)
    simpa using hne
  rw [List.takeWhile_append_of_pos htext]
  cases hterminated : remark.terminated with
  | true => simp
  | false => simp [h.unterminated hterminated]

/-- Where a comment ends is fixed by the text it stands in front of. -/
theorem Remark.unique {remark other : Remark} (h : remark.Allowed rest)
    (hother : other.Allowed behind)
    (hchars : remark.chars dialect ++ rest = other.chars dialect ++ behind) :
    remark = other ∧ rest = behind := by
  simp only [chars, List.cons_append, List.append_assoc, List.cons.injEq, true_and] at hchars
  have htext : remark.text = other.text := by
    rw [← h.takeWhile_eq, hchars, hother.takeWhile_eq]
  rw [htext] at hchars
  have hrest := List.append_cancel_left hchars
  obtain ⟨text, terminated⟩ := remark
  obtain ⟨text', terminated'⟩ := other
  obtain rfl : text = text' := htext
  cases terminated with
  | true =>
      cases terminated' with
      | true => simpa using hrest
      | false => simp [hother.unterminated rfl] at hrest
  | false =>
      cases terminated' with
      | true => simp [h.unterminated rfl] at hrest
      | false => exact ⟨rfl, hrest⟩

/-- Behind a comment character there is a comment. -/
theorem exists_remark (dialect : Dialect) (text : List Char) :
    ∃ (remark : Remark) (rest : List Char),
      dialect.comment :: text = remark.chars dialect ++ rest ∧ remark.Allowed rest := by
  by_cases hnewline : '\n' ∈ text
  · obtain ⟨front, rest, rfl, hfront⟩ := List.eq_append_cons_of_mem hnewline
    exact ⟨{ text := front, terminated := true }, rest, by simp [Remark.chars],
      ⟨hfront, by simp⟩⟩
  · exact ⟨{ text, terminated := false }, [], by simp [Remark.chars], ⟨hnewline, fun _ ↦ rfl⟩⟩

/-- The kinds of line breaks are told apart by their first characters. -/
theorem LineBreak.unique {lineBreak other : LineBreak}
    (hchars : lineBreak.chars ++ rest = other.chars ++ behind) :
    lineBreak = other ∧ rest = behind := by
  cases lineBreak <;> cases other <;> simp_all [LineBreak.chars]

/-- A line break does not start like a comment. -/
theorem LineBreak.head?_ne_comment (hvalid : dialect.Valid) (lineBreak : LineBreak)
    (rest : List Char) : (lineBreak.chars ++ rest).head? ≠ some dialect.comment := by
  cases lineBreak with
  | newline => simpa [LineBreak.chars] using hvalid.comment_newline.symm
  | returnNewline => simpa [LineBreak.chars] using hvalid.comment_return.symm

/-- Plain text ends in front of an ending. -/
theorem Ending.Allowed.stopsPlain {ending : Ending} (h : ending.Allowed rest) :
    StopsPlain dialect (ending.chars dialect ++ rest) := by
  cases ending with
  | newline lineBreak => exact Or.inr (Or.inr (Or.inr ⟨lineBreak, rest, rfl⟩))
  | comment remark => exact Or.inr (Or.inr (Or.inl rfl))
  | endOfText => exact Or.inl h

/-- An ending does not start with a delimiter. -/
theorem Ending.Allowed.head?_ne_delimiter (hvalid : dialect.Valid) {ending : Ending}
    (h : ending.Allowed rest) : (ending.chars dialect ++ rest).head? ≠ some dialect.delimiter := by
  cases ending with
  | newline lineBreak =>
      cases lineBreak with
      | newline => simpa [Ending.chars, LineBreak.chars] using hvalid.delimiter_newline.symm
      | returnNewline => simpa [Ending.chars, LineBreak.chars] using hvalid.delimiter_return.symm
  | comment remark => simpa [Ending.chars, Remark.chars] using hvalid.differ
  | endOfText => simp [Ending.chars, show rest = [] from h]

/-- Where an ending ends is fixed by the text it stands in front of. -/
theorem Ending.unique (hvalid : dialect.Valid) {ending other : Ending} (h : ending.Allowed rest)
    (hother : other.Allowed behind)
    (hchars : ending.chars dialect ++ rest = other.chars dialect ++ behind) :
    ending = other ∧ rest = behind := by
  cases ending with
  | newline lineBreak =>
      cases other with
      | newline lineBreak' =>
          obtain ⟨rfl, hrest⟩ := LineBreak.unique hchars
          exact ⟨rfl, hrest⟩
      | comment remark =>
          exact absurd (congrArg List.head? hchars) (lineBreak.head?_ne_comment hvalid rest)
      | endOfText =>
          obtain rfl : behind = [] := hother
          cases lineBreak <;> simp [Ending.chars, LineBreak.chars] at hchars
  | comment remark =>
      cases other with
      | newline lineBreak =>
          exact absurd (congrArg List.head? hchars).symm (lineBreak.head?_ne_comment hvalid behind)
      | comment remark' =>
          obtain ⟨rfl, hrest⟩ := Remark.unique h hother hchars
          exact ⟨rfl, hrest⟩
      | endOfText =>
          obtain rfl : behind = [] := hother
          simp [Ending.chars, Remark.chars] at hchars
  | endOfText =>
      obtain rfl : rest = [] := h
      cases other with
      | newline lineBreak => cases lineBreak <;> simp [Ending.chars, LineBreak.chars] at hchars
      | comment remark => simp [Ending.chars, Remark.chars] at hchars
      | endOfText => exact ⟨rfl, hchars⟩

/-- Where plain text ends there is a delimiter or an ending. -/
theorem exists_ending {text : List Char} (hstops : StopsPlain dialect text)
    (hdelimiter : text.head? ≠ some dialect.delimiter) :
    ∃ (ending : Ending) (rest : List Char), text = ending.chars dialect ++ rest ∧
      ending.Allowed rest := by
  rcases hstops with rfl | hhead | hhead | ⟨lineBreak, rest, rfl⟩
  · exact ⟨.endOfText, [], rfl, rfl⟩
  · exact absurd hhead hdelimiter
  · obtain ⟨text, rfl⟩ := List.head?_eq_some_iff.mp hhead
    obtain ⟨remark, rest, htext, hremark⟩ := exists_remark dialect text
    exact ⟨.comment remark, rest, htext, hremark⟩
  · exact ⟨.newline lineBreak, rest, rfl, trivial⟩

/-- Where a logical line ends is fixed by the text it stands in front of. -/
theorem Line.unique (hvalid : dialect.Valid) {line other : Line} (h : line.Allowed dialect rest)
    (hother : other.Allowed dialect behind)
    (hchars : line.chars dialect ++ rest = other.chars dialect ++ behind) :
    line = other ∧ rest = behind := by
  have hstops : ∀ more, StopsPlain dialect (dialect.delimiter :: more) := fun _ ↦
    Or.inr (Or.inl rfl)
  induction line generalizing other with
  | last field ending =>
      obtain ⟨hfield, hending⟩ := h
      cases other with
      | last field' ending' =>
          obtain ⟨hfield', hending'⟩ := hother
          simp only [Line.chars, List.append_assoc] at hchars
          obtain ⟨rfl, htail⟩ := WrittenField.unique hvalid hfield hending.stopsPlain hfield'
            hending'.stopsPlain hchars
          obtain ⟨rfl, hrest⟩ := Ending.unique hvalid hending hending' htail
          exact ⟨rfl, hrest⟩
      | more field' line' =>
          -- the same field cannot stand in front of an ending and of a delimiter
          simp only [Line.chars, List.append_assoc, List.cons_append] at hchars
          have htail :=
            WrittenField.unique hvalid hfield hending.stopsPlain hother.1 (hstops _) hchars
          exact absurd (congrArg List.head? htail.2) (hending.head?_ne_delimiter hvalid)
  | more field line ih =>
      obtain ⟨hfield, hline⟩ := h
      cases other with
      | last field' ending' =>
          obtain ⟨hfield', hending'⟩ := hother
          simp only [Line.chars, List.append_assoc, List.cons_append] at hchars
          have htail :=
            WrittenField.unique hvalid hfield (hstops _) hfield' hending'.stopsPlain hchars
          exact absurd (congrArg List.head? htail.2).symm (hending'.head?_ne_delimiter hvalid)
      | more field' line' =>
          obtain ⟨hfield', hline'⟩ := hother
          simp only [Line.chars, List.append_assoc, List.cons_append] at hchars
          obtain ⟨rfl, htail⟩ :=
            WrittenField.unique hvalid hfield (hstops _) hfield' (hstops _) hchars
          obtain ⟨rfl, hrest⟩ := ih hline hline' (List.cons.inj htail).2
          exact ⟨rfl, hrest⟩

/-- Every text starts with a logical line. -/
theorem exists_line (dialect : Dialect) (text : List Char) :
    ∃ (line : Line) (rest : List Char), text = line.chars dialect ++ rest ∧
      line.Allowed dialect rest := by
  obtain ⟨field, behind, htext, hfield, hstops⟩ := exists_field dialect text
  by_cases hdelimiter : behind.head? = some dialect.delimiter
  · obtain ⟨more, rfl⟩ := List.head?_eq_some_iff.mp hdelimiter
    -- the delimiter is taken, so what the other fields stand in is shorter
    obtain ⟨line, rest, rfl, hline⟩ := exists_line dialect more
    exact ⟨.more field line, rest, by simp [htext, Line.chars], hfield, hline⟩
  · obtain ⟨ending, rest, rfl, hending⟩ := exists_ending hstops hdelimiter
    exact ⟨.last field ending, rest, by simp [htext, Line.chars], hfield, hending⟩
termination_by text.length
decreasing_by
  have hlength := congrArg List.length htext
  simp only [List.length_append, List.length_cons] at hlength
  omega

/-- A logical line takes something unless it stands at the end of the text. -/
theorem Line.Allowed.chars_ne_nil {line : Line} (h : line.Allowed dialect rest)
    (hrest : rest ≠ []) : line.chars dialect ≠ [] := by
  cases line with
  | last field ending =>
      intro hnil
      have hending := (List.append_eq_nil_iff.mp hnil).2
      cases ending with
      | newline lineBreak => cases lineBreak <;> simp [Ending.chars, LineBreak.chars] at hending
      | comment remark => simp [Ending.chars, Remark.chars] at hending
      | endOfText => exact hrest h.2
  | more field line => simp [Line.chars]

/-- A part of a document takes something of a text. -/
theorem Item.Allowed.chars_ne_nil {item : Item} (h : item.Allowed dialect rest) :
    item.chars dialect ≠ [] := by
  cases item with
  | comment remark => simp [Item.chars, Remark.chars]
  | empty lineBreak => cases lineBreak <;> simp [Item.chars, LineBreak.chars]
  | logical line =>
      by_cases hrest : rest = []
      · subst hrest
        simpa [Item.chars] using h.2.nonempty
      · exact h.1.chars_ne_nil hrest

/-- Where a part of a document ends is fixed by the text it stands in front of. -/
theorem Item.unique (hvalid : dialect.Valid) {item other : Item} (h : item.Allowed dialect rest)
    (hother : other.Allowed dialect behind)
    (hchars : item.chars dialect ++ rest = other.chars dialect ++ behind) :
    item = other ∧ rest = behind := by
  cases item with
  | comment remark =>
      cases other with
      | comment remark' =>
          obtain ⟨rfl, hrest⟩ := Remark.unique h hother hchars
          exact ⟨rfl, hrest⟩
      | empty lineBreak =>
          exact absurd (congrArg List.head? hchars).symm (lineBreak.head?_ne_comment hvalid behind)
      | logical line => exact absurd (congrArg List.head? hchars).symm hother.2.comment
  | empty lineBreak =>
      cases other with
      | comment remark =>
          exact absurd (congrArg List.head? hchars) (lineBreak.head?_ne_comment hvalid rest)
      | empty lineBreak' =>
          obtain ⟨rfl, hrest⟩ := LineBreak.unique hchars
          exact ⟨rfl, hrest⟩
      | logical line => exact absurd ⟨rest, hchars⟩ (hother.2.lineBreak lineBreak)
  | logical line =>
      obtain ⟨hline, hstart⟩ := h
      cases other with
      | comment remark => exact absurd (congrArg List.head? hchars) hstart.comment
      | empty lineBreak => exact absurd ⟨behind, hchars.symm⟩ (hstart.lineBreak lineBreak)
      | logical line' =>
          obtain ⟨rfl, hrest⟩ := Line.unique hvalid hline hother.1 hchars
          exact ⟨rfl, hrest⟩

/-- Every text that is not empty starts with a part of a document. -/
theorem exists_item (dialect : Dialect) {text : List Char} (htext : text ≠ []) :
    ∃ (item : Item) (rest : List Char), text = item.chars dialect ++ rest ∧
      item.Allowed dialect rest := by
  by_cases hcomment : text.head? = some dialect.comment
  · obtain ⟨text, rfl⟩ := List.head?_eq_some_iff.mp hcomment
    obtain ⟨remark, rest, hchars, hremark⟩ := exists_remark dialect text
    exact ⟨.comment remark, rest, hchars, hremark⟩
  by_cases hempty : ∃ lineBreak : LineBreak, lineBreak.chars <+: text
  · obtain ⟨lineBreak, rest, rfl⟩ := hempty
    exact ⟨.empty lineBreak, rest, rfl, trivial⟩
  · obtain ⟨line, rest, rfl, hline⟩ := exists_line dialect text
    exact ⟨.logical line, rest, rfl, hline, htext, hcomment, not_exists.mp hempty⟩

/-- A text has at most one derivation. -/
theorem Document.Derives.unique (hvalid : dialect.Valid) {document other : Document}
    {text : List Char} (h : document.Derives dialect text) (hother : other.Derives dialect text) :
    document = other := by
  induction document generalizing other text with
  | nil =>
      cases other with
      | nil => rfl
      | cons item items =>
          have hnil : item.chars dialect ++ Document.chars dialect items = [] :=
            hother.chars.trans h.chars.symm
          exact absurd (List.append_eq_nil_iff.mp hnil).1 hother.allowed.1.chars_ne_nil
  | cons item items ih =>
      cases other with
      | nil =>
          have hnil : item.chars dialect ++ Document.chars dialect items = [] :=
            h.chars.trans hother.chars.symm
          exact absurd (List.append_eq_nil_iff.mp hnil).1 h.allowed.1.chars_ne_nil
      | cons first others =>
          obtain ⟨rfl, hrest⟩ := Item.unique hvalid h.allowed.1 hother.allowed.1
            (h.chars.trans hother.chars.symm)
          rw [ih ⟨hrest, h.allowed.2⟩ ⟨rfl, hother.allowed.2⟩]

/-- Every text has a derivation. -/
theorem exists_derivation (dialect : Dialect) (text : List Char) :
    ∃ document : Document, document.Derives dialect text := by
  by_cases htext : text = []
  · exact ⟨[], htext.symm, trivial⟩
  · obtain ⟨item, rest, hchars, hitem⟩ := exists_item dialect htext
    -- every part of a document takes something, so what is left is shorter
    obtain ⟨items, hitems, hallowed⟩ := exists_derivation dialect rest
    subst hitems
    exact ⟨item :: items, hchars.symm, hitem, hallowed⟩
termination_by text.length
decreasing_by
  have hpos := List.length_pos_iff.mpr hitem.chars_ne_nil
  have hlength := congrArg List.length hchars
  simp only [List.length_append] at hlength
  omega

/-- Every text has exactly one derivation. -/
theorem existsUnique_derivation (hvalid : dialect.Valid) (text : List Char) :
    ∃! document : Document, document.Derives dialect text := by
  obtain ⟨document, hdocument⟩ := exists_derivation dialect text
  exact ⟨document, hdocument, fun _ hother ↦ hother.unique hvalid hdocument⟩

end Grammar

end Delimited
