import Delimited.Proofs.Walk
import Mathlib.Data.List.Basic

/-!
# The newline at the end of a text

A newline behind a text that stops in the middle of a line changes nothing that a read can see,
unless it falls between quotes. The proof is one on trees. `Document.withNewline` ends the last line
of a document with a newline, and is a derivation of the longer text: `Document.Derives.withNewline`.
It has the lines that the document has, `Document.lines_withNewline`, and every way of reading walks
along those.

Only the last part of a document meets the newline. For those before it `Item.Allowed.congr` is
enough: what may stand in front of a text depends on the first character of the text.
-/

namespace Delimited

open CharSource (unread)

namespace Grammar

/-- The comment, ended by a newline. -/
def Remark.withNewline (remark : Remark) : Remark :=
  { remark with terminated := true }

/-- The ending with a newline at its end. -/
def Ending.withNewline : Ending → Ending
  | .newline lineBreak => .newline lineBreak
  | .comment remark => .comment remark.withNewline
  | .endOfText => .newline .newline

/-- The logical line with a newline at its end. -/
def Line.withNewline : Line → Line
  | .last field ending => .last field ending.withNewline
  | .more field line => .more field line.withNewline

/-- The part of a document with a newline at its end. -/
def Item.withNewline : Item → Item
  | .comment remark => .comment remark.withNewline
  | .empty lineBreak => .empty lineBreak
  | .logical line => .logical line.withNewline

/-- The document with a newline at its end. -/
def Document.withNewline : Document → Document
  | [] => []
  | [item] => [item.withNewline]
  | item :: next :: items => item :: Document.withNewline (next :: items)

/-- The quotes of the field are never closed. -/
def WrittenField.isOpen : WrittenField → Bool
  | .unclosed _ => true
  | _ => false

/-- The logical line ends between quotes. -/
def Line.endsOpen : Line → Bool
  | .last field _ => field.isOpen
  | .more _ line => line.endsOpen

/-- The part of a document ends between quotes. -/
def Item.endsOpen : Item → Bool
  | .logical line => line.endsOpen
  | _ => false

/-- The document ends between quotes. -/
def Document.endsOpen (document : Document) : Bool :=
  document.getLast?.any Item.endsOpen

/-- The text ends neither with a newline nor with a carriage return, which would make a line break
with a newline behind it. -/
structure Unended (text : List Char) : Prop where
  newline : text.getLast? ≠ some '\n'
  carriageReturn : text.getLast? ≠ some '\r'

/-- Whether a text has no line break at its end is found out at its last character. -/
instance (text : List Char) : Decidable (Unended text) :=
  decidable_of_iff (text.getLast? ≠ some '\n' ∧ text.getLast? ≠ some '\r')
    ⟨fun h ↦ ⟨h.1, h.2⟩, fun h ↦ ⟨h.1, h.2⟩⟩

/-- How a text ends is seen at its back. -/
theorem Unended.back {front back : List Char} (h : Unended (front ++ back)) : Unended back where
  newline hlast := h.newline (List.mem_getLast?_append_of_mem_getLast? hlast)
  carriageReturn hlast := h.carriageReturn (List.mem_getLast?_append_of_mem_getLast? hlast)

/-- Behind a text without a newline at its end, a newline ends the last line and opens no other. -/
theorem physicalLines_append_newline {text : List Char} (htext : text ≠ []) (h : Unended text) :
    physicalLines (text ++ ['\n']) = physicalLines text := by
  simp [physicalLines, htext, h.newline]

variable {dialect : Dialect}

section Chars

/-- A comment that does not end with a newline gets one. -/
theorem Remark.chars_withNewline {remark : Remark} (h : Unended (remark.chars dialect)) :
    remark.withNewline.chars dialect = remark.chars dialect ++ ['\n'] := by
  obtain ⟨text, terminated⟩ := remark
  cases terminated with
  | false => simp [withNewline, chars]
  | true =>
      rw [chars, if_pos rfl, ← List.cons_append] at h
      exact absurd rfl h.back.newline

/-- No line break is without a newline at its end. -/
theorem LineBreak.not_unended (lineBreak : LineBreak) : ¬ Unended lineBreak.chars := by
  intro h
  cases lineBreak <;> exact h.newline rfl

/-- An ending that does not end with a newline gets one. -/
theorem Ending.chars_withNewline {ending : Ending} (h : Unended (ending.chars dialect)) :
    ending.withNewline.chars dialect = ending.chars dialect ++ ['\n'] := by
  cases ending with
  | newline lineBreak => exact absurd h lineBreak.not_unended
  | comment remark => exact Remark.chars_withNewline h
  | endOfText => rfl

/-- A logical line that does not end with a newline gets one. -/
theorem Line.chars_withNewline {line : Line} (h : Unended (line.chars dialect)) :
    line.withNewline.chars dialect = line.chars dialect ++ ['\n'] := by
  induction line with
  | last field ending =>
      simp only [withNewline, chars, Ending.chars_withNewline h.back, List.append_assoc]
  | more field line ih =>
      have hline : Unended (line.chars dialect) := by
        rw [chars, List.append_cons] at h
        exact h.back
      simp only [withNewline, chars, ih hline, List.append_assoc, List.cons_append]

/-- A part of a document that does not end with a newline gets one. -/
theorem Item.chars_withNewline {item : Item} (h : Unended (item.chars dialect)) :
    item.withNewline.chars dialect = item.chars dialect ++ ['\n'] := by
  cases item with
  | comment remark => exact Remark.chars_withNewline h
  | empty lineBreak => exact absurd h lineBreak.not_unended
  | logical line => exact Line.chars_withNewline h

/-- A document that does not end with a newline gets one. -/
theorem Document.chars_withNewline {document : Document} (hne : document ≠ [])
    (h : Unended (document.chars dialect)) :
    document.withNewline.chars dialect = document.chars dialect ++ ['\n'] := by
  fun_induction withNewline document with
  | case1 => exact absurd rfl hne
  | case2 item =>
      simp only [chars_cons, chars_nil, List.append_nil] at h ⊢
      exact Item.chars_withNewline h
  | case3 item next items ih =>
      rw [chars_cons, ih (List.cons_ne_nil next items) h.back, chars_cons dialect item,
        List.append_assoc]

end Chars

section Ahead

variable {rest other : List Char}

/-- Texts that start alike are both empty or both not. -/
theorem eq_nil_of_head?_eq (h : rest.head? = other.head?) (hrest : rest = []) : other = [] := by
  rw [hrest] at h
  exact List.head?_eq_none_iff.mp h.symm

/-- What follows a text is seen at its first character only. -/
theorem head?_append_congr (h : rest.head? = other.head?) (text : List Char) :
    (text ++ rest).head? = (text ++ other).head? := by
  rw [List.head?_append, List.head?_append, h]

/-- Whether a comment may stand in front of a text is seen at the start of the text. -/
theorem Remark.Allowed.congr {remark : Remark} (h : remark.Allowed rest)
    (hhead : rest.head? = other.head?) : remark.Allowed other :=
  ⟨h.text, fun hterminated ↦ eq_nil_of_head?_eq hhead (h.unterminated hterminated)⟩

/-- Whether plain text may stand in front of a text is seen at the start of the text. -/
theorem PlainText.congr {text : List Char} (h : PlainText dialect text rest)
    (hhead : rest.head? = other.head?) : PlainText dialect text other := by
  induction text with
  | nil => trivial
  | cons char text ih =>
      obtain ⟨hdelimiter, hcomment, hnewline, hreturn, htext⟩ := h
      rw [head?_append_congr hhead] at hreturn
      exact ⟨hdelimiter, hcomment, hnewline, hreturn, ih htext⟩

/-- Whether a field may stand in front of a text is seen at the start of the text. -/
theorem WrittenField.Allowed.congr {field : WrittenField} (h : field.Allowed dialect rest)
    (hhead : rest.head? = other.head?) : field.Allowed dialect other := by
  cases field with
  | plain text => exact ⟨h.1, h.2.congr hhead⟩
  | quoted body tail =>
      obtain ⟨hbody, hclose, htail⟩ := h
      exact ⟨hbody, head?_append_congr hhead tail ▸ hclose, htail.congr hhead⟩
  | unclosed body => exact ⟨h.1, eq_nil_of_head?_eq hhead h.2⟩

/-- Whether an ending may stand in front of a text is seen at the start of the text. -/
theorem Ending.Allowed.congr {ending : Ending} (h : ending.Allowed rest)
    (hhead : rest.head? = other.head?) : ending.Allowed other := by
  cases ending with
  | newline lineBreak => trivial
  | comment remark => exact Remark.Allowed.congr h hhead
  | endOfText => exact eq_nil_of_head?_eq hhead h

/-- Whether a logical line may stand in front of a text is seen at the start of the text. -/
theorem Line.Allowed.congr {line : Line} (h : line.Allowed dialect rest)
    (hhead : rest.head? = other.head?) : line.Allowed dialect other := by
  induction line with
  | last field ending =>
      exact ⟨h.1.congr (head?_append_congr hhead _), Ending.Allowed.congr h.2 hhead⟩
  | more field line ih => exact ⟨h.1.congr rfl, ih h.2⟩

/-- A logical line starts with any character but a comment character, and but a line break. -/
theorem startsLogical_cons_iff {first : Char} {text : List Char} :
    StartsLogical dialect (first :: text) ↔ first ≠ dialect.comment ∧ first ≠ '\n' ∧
      ¬ (first = '\r' ∧ text.head? = some '\n') := by
  constructor
  · intro h
    refine ⟨fun hcomment ↦ h.comment (congrArg some hcomment), ?_, ?_⟩
    · rintro rfl
      exact h.lineBreak .newline ⟨text, rfl⟩
    · rintro ⟨rfl, hhead⟩
      obtain ⟨behind, rfl⟩ := List.head?_eq_some_iff.mp hhead
      exact h.lineBreak .returnNewline ⟨behind, rfl⟩
  · rintro ⟨hcomment, hnewline, hreturn⟩
    refine ⟨List.cons_ne_nil first text, fun hhead ↦ hcomment (Option.some.inj hhead), ?_⟩
    rintro lineBreak ⟨behind, hbehind⟩
    cases lineBreak with
    | newline => exact hnewline (List.head_eq_of_cons_eq hbehind).symm
    | returnNewline =>
        obtain ⟨rfl, rfl⟩ := List.cons_eq_cons.mp hbehind
        exact hreturn ⟨rfl, rfl⟩

/-- Whether a text starts with a logical line is seen at what stands in front, and the first
character behind it. -/
theorem StartsLogical.congr {front : List Char} (h : StartsLogical dialect (front ++ rest))
    (hfront : front ≠ []) (hhead : rest.head? = other.head?) :
    StartsLogical dialect (front ++ other) := by
  obtain ⟨first, text, rfl⟩ := List.exists_cons_of_ne_nil hfront
  rw [List.cons_append, startsLogical_cons_iff] at h ⊢
  rwa [← head?_append_congr hhead]

/-- Whether a part of a document may stand in front of a text is seen at the start of the text. -/
theorem Item.Allowed.congr {item : Item} (h : item.Allowed dialect rest)
    (hhead : rest.head? = other.head?) : item.Allowed dialect other := by
  have hne := h.chars_ne_nil
  cases item with
  | comment remark => exact Remark.Allowed.congr h hhead
  | empty lineBreak => trivial
  | logical line => exact ⟨h.1.congr hhead, h.2.congr hne hhead⟩

end Ahead

section AtTheEnd

/-- A comment with a newline at its end may stand anywhere. -/
theorem Remark.Allowed.withNewline {remark : Remark} {rest other : List Char}
    (h : remark.Allowed rest) : remark.withNewline.Allowed other :=
  ⟨h.text, fun hterminated ↦ nomatch hterminated⟩

/-- Plain text at the end of a text may stand in front of a newline, unless it would make a line
break with it. -/
theorem PlainText.newline {text : List Char} (h : PlainText dialect text []) (hend : Unended text) :
    PlainText dialect text ['\n'] := by
  induction text with
  | nil => trivial
  | cons char text ih =>
      obtain ⟨hdelimiter, hcomment, hnewline, hreturn, htext⟩ := h
      have hback : Unended ([char] ++ text) := hend
      refine ⟨hdelimiter, hcomment, hnewline, ?_, ih htext hback.back⟩
      cases text with
      | nil => exact fun hbreak ↦ hend.carriageReturn (congrArg some hbreak.1)
      | cons next text => exact hreturn

/-- A field at the end of a text may stand in front of a newline, unless its quotes are open. -/
theorem WrittenField.Allowed.newline {field : WrittenField} (h : field.Allowed dialect [])
    (hclosed : field.isOpen = false) (hend : Unended field.chars) :
    field.Allowed dialect ['\n'] := by
  cases field with
  | plain text => exact ⟨h.1, h.2.newline hend⟩
  | quoted body tail =>
      obtain ⟨hbody, hclose, htail⟩ := h
      have hback : Unended tail := by
        rw [chars, List.append_cons, ← List.cons_append] at hend
        exact hend.back
      refine ⟨hbody, ?_, htail.newline hback⟩
      cases tail with
      | nil => simp [quote]
      | cons char tail => exact hclose
  | unclosed body => exact absurd hclosed (by simp [isOpen])

/-- A logical line at the end of a text may stand there with a newline. -/
theorem Line.Allowed.withNewline {line : Line} (h : line.Allowed dialect [])
    (hclosed : line.endsOpen = false) (hend : Unended (line.chars dialect)) :
    line.withNewline.Allowed dialect [] := by
  induction line with
  | last field ending =>
      obtain ⟨hfield, hending⟩ := h
      cases ending with
      | newline lineBreak => exact absurd hend.back lineBreak.not_unended
      | comment remark => exact ⟨hfield.congr rfl, Remark.Allowed.withNewline hending⟩
      | endOfText =>
          have hback : Unended field.chars := by simpa [chars, Ending.chars] using hend
          exact ⟨hfield.newline hclosed hback, trivial⟩
  | more field line ih =>
      have hback : Unended (line.chars dialect) := by
        rw [chars, List.append_cons] at hend
        exact hend.back
      exact ⟨h.1.congr rfl, ih h.2 hclosed hback⟩

/-- A text that starts with a logical line does so with a newline at its end. -/
theorem StartsLogical.newline {text : List Char} (h : StartsLogical dialect text)
    (hend : Unended text) : StartsLogical dialect (text ++ ['\n']) := by
  obtain ⟨first, text, rfl⟩ := List.exists_cons_of_ne_nil h.nonempty
  rw [List.cons_append, startsLogical_cons_iff]
  obtain ⟨hcomment, hnewline, hreturn⟩ := startsLogical_cons_iff.mp h
  refine ⟨hcomment, hnewline, ?_⟩
  cases text with
  | nil => exact fun hbreak ↦ hend.carriageReturn (congrArg some hbreak.1)
  | cons second text => exact hreturn

/-- The last part of a document may stand at the end with a newline. -/
theorem Item.Allowed.withNewline {item : Item} (h : item.Allowed dialect [])
    (hclosed : item.endsOpen = false) (hend : Unended (item.chars dialect)) :
    item.withNewline.Allowed dialect [] := by
  cases item with
  | comment remark => exact Remark.Allowed.withNewline h
  | empty lineBreak => trivial
  | logical line =>
      obtain ⟨hline, hstart⟩ := h
      refine ⟨hline.withNewline hclosed hend, ?_⟩
      rw [List.append_nil] at hstart ⊢
      rw [Line.chars_withNewline hend]
      exact hstart.newline hend

end AtTheEnd

/-- The parts of a document may stand in their order if the last one has a newline at its end. -/
theorem Document.Allowed.withNewline {document : Document} (h : document.Allowed dialect)
    (hclosed : document.endsOpen = false) (hend : Unended (document.chars dialect)) :
    document.withNewline.Allowed dialect := by
  fun_induction Document.withNewline document with
  | case1 => trivial
  | case2 item =>
      simp only [chars_cons, chars_nil, List.append_nil] at hend
      exact ⟨h.1.withNewline (by simpa [endsOpen] using hclosed) hend, trivial⟩
  | case3 item next items ih =>
      obtain ⟨hitem, hitems⟩ := h
      rw [chars_cons] at hend
      refine ⟨hitem.congr ?_, ih hitems (by simpa [endsOpen] using hclosed) hend.back⟩
      -- the item looks at the start of the next one, which is not empty
      obtain ⟨first, text, htext⟩ := List.exists_cons_of_ne_nil hitems.1.chars_ne_nil
      rw [chars_withNewline (List.cons_ne_nil next items) hend.back, chars_cons, htext]
      rfl

/-- The derivation of a text derives the text with a newline at its end once it has one. -/
theorem Document.Derives.withNewline {document : Document} {text : List Char}
    (h : document.Derives dialect text) (htext : text ≠ []) (hclosed : document.endsOpen = false)
    (hend : Unended text) : document.withNewline.Derives dialect (text ++ ['\n']) := by
  obtain ⟨rfl, hallowed⟩ := h
  refine ⟨chars_withNewline ?_ hend, hallowed.withNewline hclosed hend⟩
  rintro rfl
  exact htext rfl

/-- A logical line has the same fields with a newline at its end. -/
@[simp] theorem Line.fields_withNewline (line : Line) :
    line.withNewline.fields = line.fields := by
  induction line with
  | last field ending => rfl
  | more field line ih => simp only [withNewline, fields, ih]

/-- A part of a document is reported likewise with a newline at its end. -/
@[simp] theorem Item.fields?_withNewline (item : Item) (skipEmpty : Bool) :
    item.withNewline.fields? skipEmpty = item.fields? skipEmpty := by
  cases item with
  | comment remark => rfl
  | empty lineBreak => rfl
  | logical line => simp [withNewline, fields?]

/-- A document has the same lines with a newline at its end. -/
theorem Document.lines_withNewline {document : Document} (h : document.Allowed dialect)
    (hend : Unended (document.chars dialect)) (skipEmpty : Bool) (before : List Char) :
    document.withNewline.lines dialect skipEmpty before =
      document.lines dialect skipEmpty before := by
  fun_induction Document.withNewline document generalizing before with
  | case1 => rfl
  | case2 item =>
      simp only [chars_cons, chars_nil, List.append_nil] at hend
      have hlast := List.getLast?_append_of_ne_nil before h.1.chars_ne_nil
      have hupTo : Unended (before ++ item.chars dialect) :=
        ⟨hlast ▸ hend.newline, hlast ▸ hend.carriageReturn⟩
      have hne : before ++ item.chars dialect ≠ [] := by simp [h.1.chars_ne_nil]
      simp only [lines, Item.fields?_withNewline, Item.chars_withNewline hend,
        ← List.append_assoc, physicalLines_append_newline hne hupTo]
  | case3 item next items ih =>
      rw [chars_cons] at hend
      simp only [lines, ih h.2 hend.back]

/-- The lines of a text are those of its derivation. -/
theorem Document.Allowed.textLines_eq (hvalid : dialect.Valid) {text before : List Char}
    {document : Document} (h : document.Allowed dialect)
    (htakes : TakesLines text before (document.chars dialect)) :
    textLines dialect (physicalLines before) (document.chars dialect) =
      document.lines dialect false before := by
  induction document generalizing before with
  | nil => rw [chars_nil, textLines_nil, lines]
  | cons item items ih =>
      obtain ⟨hitem, hitems⟩ := h
      obtain ⟨htaken, hread⟩ := hitem.readText_eq hvalid false (physicalLines before)
      have hothers := ih hitems (htakes.trans htaken)
      rw [← htakes.physicalLines_trans htaken] at hread
      rw [chars_cons, textLines_eq_readText, hread, lines, ← hothers]
      cases item.fields? false with
      | none => exact (textLines_eq_readText dialect _ _).symm
      | some fields => rfl

end Grammar

open Grammar

variable {σ τ : Type} [CharSource σ] [CharSource τ]

/-- A fresh reader stands where the walk along the lines of a derivation of its text starts. -/
theorem Reader.OnWalk.fresh {source : σ} {options : Options} (hvalid : options.Valid)
    {document : Document} (h : document.Derives options.dialect (unread source)) :
    Reader.OnWalk options (unread source)
      { ahead := document.lines options.dialect false [], line := 0 }
      ({ source, options } : Reader σ) where
  options_eq := rfl
  counts := .fresh rfl hvalid
  ahead := by
    rw [← h.allowed.textLines_eq hvalid.dialect (.refl _), h.chars]
    rfl
  line := rfl

/-- The newline at the end of a text is optional. Take a text that is not empty, that ends neither
with a newline nor with a carriage return, and whose last line does not end between quotes. Any
mixture of reads, up to the end and beyond it, is answered alike over the text and over the text with
a newline behind it. -/
theorem answers_final_newline {source : σ} {ended : τ} {options : Options}
    (hvalid : options.Valid) (htext : unread source ≠ []) (hend : Unended (unread source))
    {document : Document} (hderives : document.Derives options.dialect (unread source))
    (hclosed : document.endsOpen = false) (hunread : unread ended = unread source ++ ['\n'])
    (calls : List ReadCall) :
    (replies Reader.serve ({ source := ended, options } : Reader τ)
        (calls.map ReadCall.request)).map Reply.answer =
      (replies Reader.serve ({ source, options } : Reader σ)
        (calls.map ReadCall.request)).map Reply.answer := by
  have hlonger := hderives.withNewline htext hclosed hend
  rw [← hunread] at hlonger
  have hlines : document.withNewline.lines options.dialect false [] =
      document.lines options.dialect false [] := by
    rw [← hderives.chars] at hend
    exact Document.lines_withNewline hderives.allowed hend false []
  have htotal : physicalLines (unread ended) = physicalLines (unread source) := by
    rw [hunread, physicalLines_append_newline htext hend]
  rw [(Reader.OnWalk.fresh hvalid hlonger).answers calls,
    (Reader.OnWalk.fresh hvalid hderives).answers calls, hlines, htotal]

/-- Text behind a closing quote, a quote within plain text, a quoted newline, and a comment behind the
last field. -/
theorem answers_final_newline_behind_comment :
    let text := "\"a\"b,c\"\n#d\n\"e\nf\",#g"
    let source := TextSource.ofText text
    let ended := TextSource.ofText (text ++ "\n")
    let document : Document :=
      [.logical (.more (.quoted [.single 'a'] ['b']) (.last (.plain ['c', '"']) (.newline .newline))),
        .comment { text := ['d'], terminated := true },
        .logical (.more (.quoted [.single 'e', .single '\n', .single 'f'] [])
          (.last (.plain []) (.comment { text := ['g'], terminated := false })))]
    let calls : List ReadCall := [.line false true, .records 3, .line true false]
    Options.Valid {} ∧ unread source ≠ [] ∧ Unended (unread source) ∧
      document.Derives (Options.dialect {}) (unread source) ∧ document.endsOpen = false ∧
      unread ended = unread source ++ ['\n'] ∧
      (replies Reader.serve ({ source := ended } : Reader TextSource)
          (calls.map ReadCall.request)).map Reply.answer =
        [.line .line ["ab", "c\""] 1, .records [{ line := 4, fields := ["e\nf", ""] }] 4,
          .line .endOfStream [] 4] := by
  intro text source ended document calls
  have hvalid : Options.Valid {} := by decide
  have htext : unread source ≠ [] := by decide +kernel
  have hend : Unended (unread source) := by decide +kernel
  have hderives : document.Derives (Options.dialect {}) (unread source) := by decide
  have hclosed : document.endsOpen = false := rfl
  have hunread : unread ended = unread source ++ ['\n'] := String.toList_append
  refine ⟨hvalid, htext, hend, hderives, hclosed, hunread, ?_⟩
  exact (answers_final_newline hvalid htext hend hderives hclosed hunread calls).trans
    (by decide +kernel)

end Delimited
