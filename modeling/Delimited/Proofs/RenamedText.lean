import Delimited.Proofs.Invariants
import Delimited.Proofs.Lockstep
import Delimited.Proofs.Renaming
import Delimited.Proofs.Segments
import Mathlib.Logic.Equiv.Basic

/-!
# Only the configured characters are special

A renaming that keeps the quote, the newline and the carriage return, and no two characters of which
get the same name, keeps all comparisons that reading makes, once the delimiter and the comment
characters are renamed as well. So a renamed text is read like the text itself: `answers_renamed`. It
does not matter how many bytes a character has before and behind the renaming, or which kind of
source hands it out.

Trimming asks one more thing of a character, whether it is white space, so a renaming has to keep
that too for reads that trim.
-/

namespace Delimited

open CharSource (unread)

/-- No two characters get the same name, and the three characters with a fixed role keep theirs. -/
structure KeepsRoles (rename : Char → Char) : Prop where
  injective : Function.Injective rename
  quote : rename quote = quote
  newline : rename '\n' = '\n'
  carriageReturn : rename '\r' = '\r'

/-- The two characters that split lines, renamed. -/
def Dialect.map (rename : Char → Char) (dialect : Dialect) : Dialect :=
  { delimiter := rename dialect.delimiter, comment := rename dialect.comment }

/-- The same flags with the delimiter and the comment character renamed. -/
def Options.map (rename : Char → Char) (options : Options) : Options :=
  { options with delimiter := rename options.delimiter, comment := rename options.comment }

/-- The same request, with the comment character renamed that it sets. -/
def ReaderRequest.map (rename : Char → Char) : ReaderRequest → ReaderRequest
  | .setComment comment => .setComment (rename comment)
  | request => request

/-- The request trims fields of a reader with these options. -/
def ReaderRequest.Trims (options : Options) : ReaderRequest → Prop
  | .line _ trim => trim = true
  | .records _ => options.trim = true
  | .setComment _ => False

/-- The answer with the characters of its tokens renamed, or the comment character that it gives. -/
def Answer.map (rename : Char → Char) : Answer → Answer
  | .comment given => .comment (rename given)
  | answer => answer.shown (String.map rename) id

@[simp] theorem Options.dialect_map (rename : Char → Char) (options : Options) :
    (options.map rename).dialect = options.dialect.map rename := rfl

namespace KeepsRoles

variable {rename : Char → Char}

/-- A character that keeps its name is not the name of another one. -/
theorem eq_iff (h : KeepsRoles rename) {fixed : Char} (hfixed : rename fixed = fixed)
    (char : Char) : rename char = fixed ↔ char = fixed := by
  conv => lhs; rw [← hfixed]
  exact h.injective.eq_iff

/-- A newline comes first where it came first before. -/
theorem head?_map_eq_newline (h : KeepsRoles rename) (rest : List Char) :
    (rest.map rename).head? = some '\n' ↔ rest.head? = some '\n' := by
  cases rest with
  | nil => simp
  | cons first behind => simp [h.eq_iff h.newline]

/-- Whether a line ends at a character is decided by comparisons that come out the same. -/
theorem endsAt_iff (h : KeepsRoles rename) (dialect : Dialect) (char : Char) (rest : List Char) :
    (dialect.map rename).EndsAt (rename char) (rest.map rename) ↔ dialect.EndsAt char rest := by
  have hcomment : rename char = (dialect.map rename).comment ↔ char = dialect.comment :=
    h.injective.eq_iff
  simp only [Dialect.EndsAt, h.eq_iff h.newline, h.eq_iff h.carriageReturn,
    h.head?_map_eq_newline, hcomment]

/-- The comparisons that a scan can make come out the same in any text. -/
theorem renames (h : KeepsRoles rename) (dialect : Dialect) (text : List Char) :
    Renames rename dialect (dialect.map rename) text where
  delimiter _ _ := h.injective.eq_iff
  quote char _ := h.eq_iff h.quote char
  newline char _ := h.eq_iff h.newline char
  ends char rest _ _ := h.endsAt_iff dialect char rest

/-- An empty line stays empty, and no other line gets empty. -/
theorem afterEmptyLine?_map (h : KeepsRoles rename) (text : List Char) :
    afterEmptyLine? (text.map rename) = (afterEmptyLine? text).map (List.map rename) := by
  cases text with
  | nil => rfl
  | cons first rest =>
      simp only [List.map_cons, afterEmptyLine?_cons, h.eq_iff h.newline,
        h.eq_iff h.carriageReturn, h.head?_map_eq_newline]
      split
      · rfl
      · split
        · rw [Option.map_some, List.map_tail]
        · rfl

/-- The first character is a comment character renamed if it was one before. -/
theorem head?_map_ne_comment (h : KeepsRoles rename) {dialect : Dialect} {first : Char}
    (hcomment : first ≠ dialect.comment) (rest : List Char) :
    ((first :: rest).map rename).head? ≠ some (dialect.map rename).comment := by
  simpa [Dialect.map, h.injective.eq_iff] using hcomment

/-- Reading commutes with the renaming. -/
theorem readText_map (h : KeepsRoles rename) (dialect : Dialect) (skipEmpty : Bool) (line : Nat)
    (text : List Char) :
    readText (dialect.map rename) skipEmpty line (text.map rename) =
      (readText dialect skipEmpty line text).map rename := by
  fun_induction readText dialect skipEmpty line text with
  | case1 line => simp [TextReading.map]
  | case2 line rest ih =>
      rw [← ih, ← (h.renames dialect _).afterLine_map, List.map_cons]
      exact readText_comment (dialect.map rename) skipEmpty line (rest.map rename)
  | case3 line first rest hcomment behind hempty hskip ih =>
      have hhead := h.head?_map_ne_comment hcomment rest
      have hafter := h.afterEmptyLine?_map (first :: rest)
      rw [hempty, Option.map_some] at hafter
      rw [readText_empty skipEmpty line hhead hafter, if_pos hskip, ih]
  | case4 line first rest hcomment behind hempty hkeep =>
      have hhead := h.head?_map_ne_comment hcomment rest
      have hafter := h.afterEmptyLine?_map (first :: rest)
      rw [hempty, Option.map_some] at hafter
      rw [readText_empty skipEmpty line hhead hafter, if_neg hkeep]
      rfl
  | case5 line first rest hcomment hempty scanned =>
      have hhead := h.head?_map_ne_comment hcomment rest
      have hafter := h.afterEmptyLine?_map (first :: rest)
      have hscan := scanText_map (h.renames dialect (first :: rest)) {}
      rw [hempty, Option.map_none] at hafter
      rw [LineScan.map_empty] at hscan
      rw [readText_logical skipEmpty line hhead hafter (by simp), hscan]
      rfl

/-- Only characters without a fixed role are named like one. -/
theorem isReserved_eq (h : KeepsRoles rename) (char : Char) :
    isReserved (rename char) = isReserved char := by
  rw [Bool.eq_iff_iff]
  simp [isReserved, h.eq_iff h.quote, h.eq_iff h.newline, h.eq_iff h.carriageReturn]

/-- Valid options stay valid. -/
theorem valid_map (h : KeepsRoles rename) {options : Options} (hvalid : options.Valid) :
    (options.map rename).Valid := by
  obtain ⟨hdelimiter, hcomment, hdiffer⟩ := Options.valid_iff.mp hvalid
  refine Options.valid_iff.mpr ⟨?_, ?_, ?_⟩
  · exact (h.isReserved_eq options.delimiter).trans hdelimiter
  · exact (h.isReserved_eq options.comment).trans hcomment
  · exact fun heq ↦ hdiffer (h.injective heq)

end KeepsRoles

/-- White space is named like white space, and other characters are not. -/
def KeepsSpace (rename : Char → Char) : Prop :=
  ∀ char, Text.isWhitespace (rename char) = Text.isWhitespace char

namespace KeepsSpace

variable {rename : Char → Char}

/-- Trimming commutes with the renaming. -/
theorem trim_map (h : KeepsSpace rename) (text : String) :
    Text.trim (text.map rename) = (Text.trim text).map rename := by
  have hspace : Text.isWhitespace ∘ rename = Text.isWhitespace := funext h
  rw [← String.toList_inj]
  simp only [Text.toList_trim, String.toList_map, Text.trimChars, List.dropWhile_map, hspace,
    ← List.map_reverse]

end KeepsSpace

/-- The token of a renamed field is its token renamed. -/
theorem Field.token_map {rename : Char → Char} (field : Field) {trim : Bool}
    (hspace : trim = true → KeepsSpace rename) :
    (field.map rename).token trim = (field.token trim).map rename := by
  obtain ⟨text, quoted⟩ := field
  cases trim with
  | false => simp [Field.token, Field.map]
  | true =>
      cases quoted with
      | true => simp [Field.token, Field.map]
      | false => simp [Field.token, Field.map, (hspace rfl).trim_map]

variable {σ τ : Type} [CharSource σ] [CharSource τ]

/-- The second reader stands in front of the text that the first one stands in front of, renamed,
and has its options renamed. -/
structure Reader.FacesRenamed (rename : Char → Char) (first : Reader σ) (second : Reader τ) :
    Prop where
  options : second.options = first.options.map rename
  line : second.line = first.line
  unread : unread second.source = (unread first.source).map rename

namespace Reader.FacesRenamed

variable {rename : Char → Char} {first : Reader σ} {second : Reader τ}

/-- A read finds the same line, renamed. -/
theorem view_readFields (hrename : KeepsRoles rename) (h : first.FacesRenamed rename second)
    (skipEmpty : Bool) :
    (second.readFields skipEmpty).view = (first.readFields skipEmpty).view.map rename := by
  rw [readFields_view, readFields_view, h.options, h.line, h.unread]
  exact hrename.readText_map first.options.dialect skipEmpty first.line _

/-- Reads go on in lockstep: the tokens are renamed and the lines stay. -/
theorem lockstep (hrename : KeepsRoles rename) :
    Lockstep (String.map rename) id (fun trim ↦ trim = true → KeepsSpace rename)
      (FacesRenamed (σ := σ) (τ := τ) rename) where
  skipEmpty h := by rw [h.options]; rfl
  trim h := by rw [h.options]; rfl
  line h := h.line
  tokens {first second} h skipEmpty trim hspace := by
    have hfields : (second.readFields skipEmpty).fields? =
        (first.readFields skipEmpty).fields?.map (List.map (Field.map rename)) :=
      congrArg TextReading.fields? (h.view_readFields hrename skipEmpty)
    rw [Reading.tokens?, Reading.tokens?, hfields]
    cases (first.readFields skipEmpty).fields? <;> simp [Field.token_map _ hspace]
  readFields {first second} h skipEmpty :=
    { options := by rw [options_readFields, options_readFields, h.options]
      line := congrArg TextReading.line (h.view_readFields hrename skipEmpty)
      unread := congrArg TextReading.rest (h.view_readFields hrename skipEmpty) }

/-- A request is answered with the answer renamed. -/
theorem serve (hrename : KeepsRoles rename) (h : first.FacesRenamed rename second)
    (request : ReaderRequest) (hspace : request.Trims first.options → KeepsSpace rename) :
    (second.serve (request.map rename)).answer = (first.serve request).answer.map rename ∧
      (first.serve request).reader.FacesRenamed rename
        (second.serve (request.map rename)).reader := by
  cases request with
  | line skipEmpty trim => exact (lockstep hrename).serve_line h skipEmpty hspace
  | records count =>
      obtain ⟨hanswer, hnext⟩ := (lockstep hrename).serve_records h hspace count
      refine ⟨?_, hnext⟩
      rw [(first.serve_records count).1] at hanswer ⊢
      exact hanswer
  | setComment comment =>
      refine ⟨rfl, ?_, h.line, h.unread⟩
      show ({ second.options with comment := rename comment } : Options) = _
      rw [h.options]
      rfl

/-- Requests are answered with the answers renamed. -/
theorem answers (hrename : KeepsRoles rename) (h : first.FacesRenamed rename second)
    (requests : List ReaderRequest)
    (hspace : ∀ request ∈ requests, request.Trims first.options → KeepsSpace rename) :
    (replies Reader.serve second (requests.map (ReaderRequest.map rename))).map Reply.answer =
      (replies Reader.serve first requests).map fun reply ↦ reply.answer.map rename := by
  induction requests generalizing first second with
  | nil => rfl
  | cons request requests ih =>
      obtain ⟨hanswer, hnext⟩ := h.serve hrename request (hspace request List.mem_cons_self)
      -- the flags stay, so the same requests trim
      have hflags := (optionsBut_invariant first.options).serve rfl request
      have hothers := ih hnext fun later hlater htrims ↦
        hspace later (List.mem_cons_of_mem _ hlater) (by
          rw [hflags] at htrims
          cases later <;> exact htrims)
      simp only [List.map_cons, replies, hanswer, hothers]

end Reader.FacesRenamed

/-- Let a renaming keep the roles of characters, and white space too if the session trims. Then the
renamed text is read with the renamed options and comment characters as the text itself is read with
its own, whatever sources hand them out and whatever comment characters are set: the statuses and
the line counters are the same, and the tokens are renamed. -/
theorem answers_renamed {source : σ} {renamed : τ} {rename : Char → Char}
    (hrename : KeepsRoles rename) {options : Options} {reader : Reader σ}
    (hbind : Reader.ofOptions source options = .ok reader)
    (hunread : unread renamed = (unread source).map rename) (requests : List ReaderRequest)
    (hspace : ∀ request ∈ requests, request.Trims options → KeepsSpace rename) :
    ∃ other : Reader τ, Reader.ofOptions renamed (options.map rename) = .ok other ∧
      (replies Reader.serve other (requests.map (ReaderRequest.map rename))).map Reply.answer =
        (replies Reader.serve reader requests).map fun reply ↦ reply.answer.map rename := by
  obtain ⟨rfl, hvalid⟩ := Reader.ofOptions_eq_ok_iff.mp hbind
  refine ⟨{ source := renamed, options := options.map rename }, ?_, ?_⟩
  · exact Reader.ofOptions_eq_ok_iff.mpr ⟨rfl, hrename.valid_map hvalid⟩
  · have hfaces : Reader.FacesRenamed rename ({ source, options } : Reader σ)
        ({ source := renamed, options := options.map rename } : Reader τ) := ⟨rfl, rfl, hunread⟩
    exact hfaces.answers hrename requests hspace

/-- The comma and the number sign change places with characters of two and three bytes, which cut
chunks and a small buffer take apart: the comma and the number sign are text from then on. -/
theorem answers_renamed_longer_characters :
    let rename : Char → Char := (Equiv.swap ',' 'é').trans (Equiv.swap '#' '漢')
    let source := TextSource.ofText "a,é ,\" b漢\"#c\n漢d,e\n"
    let renamed := LineSource.ofEvents 2
      [.data [0x61, 0xC3, 0xA9, 0x2C, 0x20, 0xC3], .interruption,
        .data [0xA9, 0x22, 0x20, 0x62, 0x23, 0x22, 0xE6, 0xBC], .data [0xA2, 0x63, 0x0A],
        .data [0x23, 0x64, 0xC3, 0xA9, 0x65, 0x0A]]
    let requests : List ReaderRequest := [.line true true, .setComment '漢', .records 1]
    KeepsRoles rename ∧ Reader.ofOptions source {} = .ok { source } ∧
      unread renamed = (unread source).map rename ∧
      (∀ request ∈ requests, request.Trims {} → KeepsSpace rename) ∧
      ∃ other, Reader.ofOptions renamed { delimiter := 'é', comment := '漢' } = .ok other ∧
        (replies Reader.serve other [.line true true, .setComment '#', .records 1]).map
            Reply.answer =
          [.line .line ["a", ",", " b#"] 1, .comment '#', .records [] 2] := by
  intro rename source renamed requests
  have hrename : KeepsRoles rename := ⟨Equiv.injective _, by decide, by decide, by decide⟩
  have hbind : Reader.ofOptions source {} = .ok { source } := rfl
  have hunread : unread renamed = (unread source).map rename :=
    (LineSource.unread_ofEvents (by decide) _).trans (by decide +kernel)
  have hkeeps : KeepsSpace rename := by
    intro char
    simp only [rename, Equiv.trans_apply, Equiv.swap_apply_def]
    split_ifs <;> simp_all <;> decide
  have hspace : ∀ request ∈ requests, request.Trims {} → KeepsSpace rename :=
    fun _ _ _ ↦ hkeeps
  refine ⟨hrename, hbind, hunread, hspace, ?_⟩
  obtain ⟨other, hother, hanswers⟩ := answers_renamed hrename hbind hunread requests hspace
  exact ⟨other, hother, hanswers.trans (by decide +kernel)⟩

end Delimited
