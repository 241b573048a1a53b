import Delimited.Proofs.Grammar.Derivation

/-!
# Reading a text follows the grammar

Scanning a logical line of the grammar finds its fields, and a read in front of a document finds its
first line and stands in front of a document with the others: `Document.Allowed.readText_eq`. The
proofs go through the trees. A scan that comes to a tree leaves it with what the tree stands for,
whatever it found before.
-/

namespace Delimited

/-- The scan `next` goes on from `scan` with a longer text in the field that is being read. -/
structure LineScan.Adds (scan next : LineScan) (text : List Char) : Prop where
  fields : next.fields = scan.fields
  text : next.field.text = scan.field.text ++ String.ofList text
  quoted : next.field.quoted = scan.field.quoted

namespace LineScan.Adds

variable {scan next : LineScan} {text : List Char}

/-- Nothing is added. -/
theorem refl (scan : LineScan) : scan.Adds scan [] :=
  ⟨rfl, by simp, rfl⟩

/-- A character is added in front of more text. -/
theorem push (char : Char) (place : Place) (h : (scan.push char place).Adds next text) :
    scan.Adds next (char :: text) :=
  ⟨h.fields, by rw [h.text]; simp [LineScan.push, Field.push, String.ext_iff], h.quoted⟩

end LineScan.Adds

namespace Grammar

variable {dialect : Dialect} {rest : List Char}

/-- A scan takes plain text as it stands. -/
theorem PlainText.scanText_eq {text : List Char} (h : PlainText dialect text rest)
    (scan : LineScan) (hplace : scan.place ≠ .quoted)
    (hstart : scan.place = .fieldStart → text.head? ≠ some quote) :
    ∃ next : LineScan, scan.Adds next text ∧ next.place ≠ .quoted ∧
      scanText dialect scan (text ++ rest) = scanText dialect next rest := by
  induction text generalizing scan with
  | nil => exact ⟨scan, .refl scan, hplace, rfl⟩
  | cons char text ih =>
      obtain ⟨hdelimiter, hcomment, hnewline, hreturn, htext⟩ := h
      -- only the first character could open a quote, and it is none
      have hquote : ¬ (char = quote ∧ scan.place = .fieldStart) := fun ⟨hchar, hfirst⟩ ↦
        hstart hfirst (by simp [hchar])
      obtain ⟨next, hadds, hnext, hscan⟩ :=
        ih htext (scan.push char .plain) (by simp [LineScan.push]) (by simp [LineScan.push])
      refine ⟨next, .push char .plain hadds, hnext, ?_⟩
      rw [List.cons_append, scanText_plain dialect hplace, if_neg hdelimiter, if_neg hnewline,
        if_neg hreturn, if_neg hcomment, if_neg hquote, hscan]

/-- A scan between quotes takes what the body stands for. -/
theorem scanText_body {body : List BodyPart} (hbody : BodyPart.single quote ∉ body)
    (scan : LineScan) (hplace : scan.place = .quoted) (rest : List Char) :
    ∃ next : LineScan, scan.Adds next (body.map BodyPart.decoded) ∧ next.place = .quoted ∧
      scanText dialect scan (body.flatMap BodyPart.chars ++ rest) = scanText dialect next rest := by
  induction body generalizing scan with
  | nil => exact ⟨scan, .refl scan, hplace, rfl⟩
  | cons part body ih =>
      have htail : BodyPart.single quote ∉ body := fun h ↦ hbody (List.mem_cons_of_mem _ h)
      cases part with
      | single char =>
          have hquote : char ≠ quote := fun h ↦ hbody (by simp [h])
          -- a newline may be counted, which leaves the field alone
          obtain ⟨counted, hcounted⟩ : ∃ counted,
              scanText dialect scan (char :: (body.flatMap BodyPart.chars ++ rest)) =
                scanText dialect { scan.push char .quoted with continuations := counted }
                  (body.flatMap BodyPart.chars ++ rest) := by
            rw [scanText_quoted dialect hplace hquote]
            split
            · exact ⟨_, rfl⟩
            · exact ⟨scan.continuations, rfl⟩
          obtain ⟨next, hadds, hnext, hscan⟩ :=
            ih htail { scan.push char .quoted with continuations := counted } rfl
          refine ⟨next, .push char .quoted ?_, hnext, hcounted.trans hscan⟩
          exact ⟨hadds.fields, hadds.text, hadds.quoted⟩
      | pair =>
          obtain ⟨next, hadds, hnext, hscan⟩ := ih htail (scan.push quote .quoted) rfl
          refine ⟨next, .push quote .quoted hadds, hnext, ?_⟩
          rw [List.flatMap_cons, List.append_assoc]
          exact (scanText_pair dialect hplace _).trans hscan

/-- A quote at the start of a field opens quoted text. -/
theorem scanText_open (hdelimiter : dialect.delimiter ≠ quote) (hcomment : dialect.comment ≠ quote)
    {scan : LineScan} (hplace : scan.place = .fieldStart) (more : List Char) :
    scanText dialect scan (quote :: more) = scanText dialect scan.openQuote more := by
  rw [scanText_plain dialect (by simp [hplace]), if_neg hdelimiter.symm, if_neg (by decide),
    if_neg (by simp [quote]), if_neg hcomment.symm, if_pos ⟨rfl, hplace⟩]

/-- A scan that comes to a field leaves it with what the field stands for. It is between quotes
behind the field only if the text is at its end. -/
theorem WrittenField.Allowed.scanText_eq (hvalid : dialect.Valid) {field : WrittenField}
    (h : field.Allowed dialect rest) (scan : LineScan) (hplace : scan.place = .fieldStart)
    (hfield : scan.field = {}) :
    ∃ next : LineScan, next.fields = scan.fields ∧ next.field = field.field ∧
      (next.place = .quoted → rest = []) ∧
      scanText dialect scan (field.chars ++ rest) = scanText dialect next rest := by
  cases field with
  | plain text =>
      obtain ⟨next, hadds, hnext, hscan⟩ :=
        h.2.scanText_eq scan (by simp [hplace]) (fun _ ↦ h.1)
      refine ⟨next, hadds.fields, ?_, fun hquoted ↦ absurd hquoted hnext, hscan⟩
      have htext := hadds.text
      have hquoted := hadds.quoted
      rw [hfield] at htext hquoted
      exact Field.ext (by simpa [WrittenField.field] using htext) hquoted
  | quoted body tail =>
      obtain ⟨hbody, hclose, htail⟩ := h
      obtain ⟨inside, hadds, hinside, hscan⟩ :=
        scanText_body hbody scan.openQuote rfl (quote :: (tail ++ rest))
      obtain ⟨next, hadds', hnext, hscan'⟩ :=
        htail.scanText_eq inside.closeQuote (by simp [LineScan.closeQuote])
          (by simp [LineScan.closeQuote])
      refine ⟨next, hadds'.fields.trans hadds.fields, ?_, fun hquoted ↦ absurd hquoted hnext, ?_⟩
      · have htext := hadds'.text
        simp only [LineScan.closeQuote, hadds.text, LineScan.openQuote, hfield] at htext
        refine Field.ext (htext.trans ?_) (hadds'.quoted.trans hadds.quoted)
        simp [WrittenField.field]
      · simp only [WrittenField.chars, List.cons_append, List.append_assoc]
        rw [scanText_open hvalid.delimiter_quote hvalid.comment_quote hplace, hscan,
          scanText_close dialect hinside hclose, hscan']
  | unclosed body =>
      obtain ⟨hbody, rfl⟩ := h
      obtain ⟨next, hadds, _, hscan⟩ := scanText_body hbody scan.openQuote rfl []
      refine ⟨next, hadds.fields, ?_, fun _ ↦ rfl, ?_⟩
      · have htext := hadds.text
        simp only [LineScan.openQuote, hfield] at htext
        exact Field.ext (htext.trans (by simp [WrittenField.field])) hadds.quoted
      · exact (scanText_open hvalid.delimiter_quote hvalid.comment_quote hplace _).trans hscan

/-- Behind a comment stands what dropping its line leaves. -/
theorem Remark.Allowed.afterLine_eq (hvalid : dialect.Valid) {remark : Remark}
    (h : remark.Allowed rest) : afterLine (remark.chars dialect ++ rest) = rest := by
  obtain ⟨text, terminated⟩ := remark
  have htext : '\n' ∉ dialect.comment :: text := by
    simpa [hvalid.comment_newline.symm] using h.text
  rw [chars, ← List.cons_append, List.append_assoc]
  generalize dialect.comment :: text = front at htext
  induction front with
  | nil =>
      cases terminated with
      | true => simp [afterLine]
      | false => simp [afterLine, h.unterminated rfl]
  | cons char front ih =>
      have hne : char ≠ '\n' := fun hnewline ↦ htext (by simp [hnewline])
      rw [List.cons_append, afterLine, if_neg hne]
      exact ih (fun hmem ↦ htext (List.mem_cons_of_mem _ hmem))

/-- A scan that comes to an ending stops behind it. -/
theorem Ending.Allowed.scanText_eq (hvalid : dialect.Valid) {ending : Ending}
    (h : ending.Allowed rest) (scan : LineScan)
    (hplace : scan.place = .quoted → ending.chars dialect ++ rest = []) :
    scanText dialect scan (ending.chars dialect ++ rest) = scan.stop rest := by
  cases ending with
  | newline lineBreak =>
      have hplain : scan.place ≠ .quoted := by
        intro hquoted
        cases lineBreak <;> simp [chars, LineBreak.chars] at hplace <;> exact hplace hquoted
      cases lineBreak with
      | newline =>
          simp only [chars, LineBreak.chars, List.singleton_append]
          rw [scanText_plain dialect hplain, if_neg hvalid.delimiter_newline.symm, if_pos rfl]
      | returnNewline =>
          simp only [chars, LineBreak.chars, List.cons_append, List.nil_append]
          rw [scanText_plain dialect hplain, if_neg hvalid.delimiter_return.symm,
            if_neg (by decide), if_pos ⟨rfl, rfl⟩, List.tail_cons]
  | comment remark =>
      have hplain : scan.place ≠ .quoted := by
        intro hquoted
        simp [chars, Remark.chars, hquoted] at hplace
      have hafter := Remark.Allowed.afterLine_eq hvalid h
      simp only [Remark.chars, List.cons_append, afterLine, if_neg hvalid.comment_newline] at hafter
      simp only [chars, Remark.chars, List.cons_append]
      rw [scanText_plain dialect hplain, if_neg hvalid.differ, if_neg hvalid.comment_newline,
        if_neg (fun hreturn ↦ hvalid.comment_return hreturn.1), if_pos rfl, hafter]
  | endOfText =>
      obtain rfl : rest = [] := h
      rfl

/-- Scanning a logical line finds its fields, and stops behind it. -/
theorem Line.Allowed.scanText_eq (hvalid : dialect.Valid) {line : Line}
    (h : line.Allowed dialect rest) (scan : LineScan) (hplace : scan.place = .fieldStart)
    (hfield : scan.field = {}) :
    (scanText dialect scan (line.chars dialect ++ rest)).fields =
        scan.fields.toList ++ line.fields ∧
      (scanText dialect scan (line.chars dialect ++ rest)).rest = rest := by
  induction line generalizing scan with
  | last field ending =>
      obtain ⟨hallowed, hending⟩ := h
      obtain ⟨next, hfields, hnext, hquoted, hscan⟩ :=
        hallowed.scanText_eq hvalid scan hplace hfield
      rw [chars, List.append_assoc, hscan, hending.scanText_eq hvalid next hquoted]
      simp [LineScan.stop, LineScan.allFields, hfields, hnext, fields]
  | more field line ih =>
      obtain ⟨hallowed, hline⟩ := h
      obtain ⟨next, hfields, hnext, hquoted, hscan⟩ :=
        hallowed.scanText_eq hvalid scan hplace hfield
      have hplain : next.place ≠ .quoted := fun h ↦ absurd (hquoted h) (by simp)
      obtain ⟨hfound, hrest⟩ := ih hline next.nextField rfl rfl
      rw [chars, List.append_assoc, List.cons_append, hscan, scanText_plain dialect hplain,
        if_pos rfl]
      exact ⟨hfound.trans (by simp [LineScan.nextField, hfields, hnext, fields]), hrest⟩

/-- A comment is one physical line. -/
theorem Remark.Allowed.takesLines (hvalid : dialect.Valid) {remark : Remark}
    (h : remark.Allowed rest) :
    TakesLines (remark.chars dialect ++ rest) (remark.chars dialect) rest ∧
      physicalLines (remark.chars dialect) = 1 := by
  obtain ⟨taken, _, htakes, hone⟩ :=
    afterLine_takesLines (List.cons_ne_nil dialect.comment (_ ++ rest))
  have hafter : afterLine (dialect.comment :: (_ ++ rest)) = rest := h.afterLine_eq hvalid
  rw [hafter] at htakes
  obtain rfl : taken = remark.chars dialect := htakes.taken_eq
  exact ⟨htakes, hone⟩

/-- A line break is one physical line, which is empty. -/
theorem LineBreak.takesLines (lineBreak : LineBreak) (rest : List Char) :
    TakesLines (lineBreak.chars ++ rest) lineBreak.chars rest ∧
      physicalLines lineBreak.chars = 1 ∧
      afterEmptyLine? (lineBreak.chars ++ rest) = some rest := by
  cases lineBreak with
  | newline => exact ⟨⟨rfl, Or.inr (Or.inl rfl)⟩, rfl, rfl⟩
  | returnNewline => exact ⟨⟨rfl, Or.inr (Or.inl rfl)⟩, rfl, rfl⟩

/-- Where a logical line starts there is no empty line. -/
theorem StartsLogical.afterEmptyLine?_eq_none {text : List Char}
    (h : StartsLogical dialect text) : afterEmptyLine? text = none := by
  unfold afterEmptyLine?
  split
  · exact absurd ⟨_, rfl⟩ (h.lineBreak .newline)
  · exact absurd ⟨_, rfl⟩ (h.lineBreak .returnNewline)
  · rfl

/-- A read that comes to a logical line finds its fields, and takes its characters, which are whole
physical lines. -/
theorem Line.Allowed.readText_eq (hvalid : dialect.Valid) {logicalLine : Line}
    (h : logicalLine.Allowed dialect rest)
    (hstart : StartsLogical dialect (logicalLine.chars dialect ++ rest)) (skipEmpty : Bool)
    (line : Nat) :
    TakesLines (logicalLine.chars dialect ++ rest) (logicalLine.chars dialect) rest ∧
      readText dialect skipEmpty line (logicalLine.chars dialect ++ rest) =
        { fields? := some logicalLine.fields
          line := line + physicalLines (logicalLine.chars dialect)
          rest } := by
  obtain ⟨hfields, hrest⟩ := h.scanText_eq hvalid {} rfl rfl
  have hread := readText_logical skipEmpty line hstart.comment hstart.afterEmptyLine?_eq_none
    hstart.nonempty
  -- what a read takes is made of whole lines, and here it is the characters of the tree
  obtain ⟨taken, htakes, hcount⟩ := readText_takesLines hvalid.delimiter_newline skipEmpty line
    (logicalLine.chars dialect ++ rest)
  rw [hread, hrest] at htakes
  obtain rfl : taken = logicalLine.chars dialect := htakes.taken_eq
  refine ⟨htakes, ?_⟩
  simp only [hread] at hcount
  simp [hread, hrest, hcount, hfields]

/-- A part of a document takes whole physical lines. A read that comes to it reports it, or goes on
behind it. -/
theorem Item.Allowed.readText_eq (hvalid : dialect.Valid) {item : Item}
    (h : item.Allowed dialect rest) (skipEmpty : Bool) (line : Nat) :
    TakesLines (item.chars dialect ++ rest) (item.chars dialect) rest ∧
      readText dialect skipEmpty line (item.chars dialect ++ rest) =
        match item.fields? skipEmpty with
        | some fields =>
            { fields? := some fields, line := line + physicalLines (item.chars dialect), rest }
        | none =>
            readText dialect skipEmpty (line + physicalLines (item.chars dialect)) rest := by
  cases item with
  | comment remark =>
      have hallowed : remark.Allowed rest := h
      obtain ⟨htakes, hone⟩ := hallowed.takesLines hvalid
      refine ⟨htakes, ?_⟩
      simp only [fields?, chars, hone]
      conv => rhs; rw [← hallowed.afterLine_eq hvalid]
      exact readText_comment dialect skipEmpty line _
  | empty lineBreak =>
      obtain ⟨htakes, hone, hafter⟩ := lineBreak.takesLines rest
      refine ⟨htakes, ?_⟩
      simp only [fields?, chars, hone]
      rw [readText_empty skipEmpty line (lineBreak.head?_ne_comment hvalid rest) hafter]
      cases skipEmpty <;> rfl
  | logical logicalLine =>
      exact h.1.readText_eq hvalid h.2 skipEmpty line

/-- A read in front of a document finds the first of its lines, and stands in front of a document
with the others. -/
theorem Document.Allowed.readText_eq (hvalid : dialect.Valid) {text before : List Char}
    {document : Document} (h : document.Allowed dialect)
    (htakes : TakesLines text before (document.chars dialect)) (skipEmpty : Bool) :
    let reading := readText dialect skipEmpty (physicalLines before) (document.chars dialect)
    ∃ (after : List Char) (items : Document), items.Allowed dialect ∧
      TakesLines text after (items.chars dialect) ∧
      reading.rest = items.chars dialect ∧ reading.line = physicalLines after ∧
      items.lines dialect skipEmpty after = (document.lines dialect skipEmpty before).tail ∧
      (document.lines dialect skipEmpty before).head? =
        reading.fields?.map fun fields ↦ { fields, line := reading.line } := by
  induction document generalizing before with
  | nil =>
      exact ⟨before, [], trivial, htakes, by simp [Document.lines]⟩
  | cons item items ih =>
      obtain ⟨hitem, hitems⟩ := h
      obtain ⟨htaken, hread⟩ := hitem.readText_eq hvalid skipEmpty (physicalLines before)
      have hbehind := htakes.trans htaken
      rw [← htakes.physicalLines_trans htaken] at hread
      rw [Document.chars_cons, hread, Document.lines]
      cases hfields : item.fields? skipEmpty with
      | none => exact ih hitems hbehind
      | some fields => exact ⟨_, items, hitems, hbehind, rfl, rfl, rfl, rfl⟩

end Grammar

end Delimited
