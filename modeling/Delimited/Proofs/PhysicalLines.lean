import Delimited.Proofs.TextReading

/-!
# Physical lines

A physical line ends behind a newline, or where the text ends. `physicalLines` counts those of a
text. A read takes whole physical lines off the front of the unread text, and raises the line counter
by their number: `readText_takesLines`. The counter is raised in two places, once for the first
character of each line and once for each quoted newline that something follows, while newlines are
taken in many; `TakesLines` is what all of them have in common.
-/

namespace Delimited

/-- The number of physical lines of a text: one for each newline, and one for what stands behind the
last newline, if anything does. -/
def physicalLines (text : List Char) : Nat :=
  text.count '\n' + if text = [] ∨ text.getLast? = some '\n' then 0 else 1

@[simp] theorem physicalLines_nil : physicalLines [] = 0 := rfl

@[simp] theorem physicalLines_singleton (char : Char) : physicalLines [char] = 1 := by
  by_cases h : char = '\n' <;> simp [physicalLines, h]

/-- A character in front of a text is on its first line, unless it is a newline. -/
theorem physicalLines_cons (char : Char) {text : List Char} (htext : text ≠ []) :
    physicalLines (char :: text) = physicalLines text + if char = '\n' then 1 else 0 := by
  obtain ⟨first, rest, rfl⟩ := List.exists_cons_of_ne_nil htext
  by_cases h : char = '\n'
  · simp only [physicalLines, h, List.getLast?_cons_cons, List.count_cons_self, reduceCtorEq,
      false_or, if_true]
    omega
  · simp [physicalLines, h, List.getLast?_cons_cons]

/-- The lines of two texts add up if the first one ends with a line. -/
theorem physicalLines_append {front : List Char} (hfront : front = [] ∨ front.getLast? = some '\n')
    (back : List Char) :
    physicalLines (front ++ back) = physicalLines front + physicalLines back := by
  cases back with
  | nil => simp
  | cons first rest =>
      rcases hfront with rfl | hlast
      · simp
      · have hback : (front ++ first :: rest).getLast? = (first :: rest).getLast? := by
          simp [List.getLast?_append, List.getLast?_cons]
        have hfront : front ≠ [] := by
          rintro rfl
          simp at hlast
        simp only [physicalLines, List.count_append, hback, hlast, List.append_eq_nil_iff, hfront,
          reduceCtorEq, false_and, false_or, or_true, if_true, Nat.add_zero, Nat.add_assoc]

/-- A text has no more lines than characters. -/
theorem physicalLines_le_length (text : List Char) : physicalLines text ≤ text.length := by
  induction text with
  | nil => simp
  | cons char rest ih =>
      by_cases hrest : rest = []
      · simp [hrest]
      · rw [physicalLines_cons char hrest, List.length_cons]
        split <;> omega

/-- The text `taken` stands in front of `rest` in `text` and is made of whole physical lines. -/
structure TakesLines (text taken rest : List Char) : Prop where
  split : text = taken ++ rest
  whole : taken = [] ∨ taken.getLast? = some '\n' ∨ rest = []

namespace TakesLines

variable {text taken rest more behind : List Char}

/-- Nothing is no line. -/
theorem refl (text : List Char) : TakesLines text [] text :=
  ⟨rfl, Or.inl rfl⟩

/-- Lines taken after lines are lines. -/
theorem trans (h : TakesLines text taken rest) (hmore : TakesLines rest more behind) :
    TakesLines text (taken ++ more) behind := by
  refine ⟨by rw [h.split, hmore.split, List.append_assoc], ?_⟩
  rcases hmore.whole with rfl | hlast | hbehind
  · rcases h.whole with htaken | htaken | hrest
    · exact Or.inl (by simp [htaken])
    · exact Or.inr (Or.inl (by simpa using htaken))
    · exact Or.inr (Or.inr (by simpa [hrest] using hmore.split))
  · exact Or.inr (Or.inl (by simp [List.getLast?_append, hlast]))
  · exact Or.inr (Or.inr hbehind)

/-- Lines taken after lines add up. -/
theorem physicalLines_trans (h : TakesLines text taken rest)
    (hmore : TakesLines rest more behind) :
    physicalLines (taken ++ more) = physicalLines taken + physicalLines more := by
  rcases h.whole with htaken | htaken | hrest
  · exact physicalLines_append (Or.inl htaken) more
  · exact physicalLines_append (Or.inr htaken) more
  · -- nothing is left to take behind a line that the end of the text ends
    have hnil : more ++ behind = [] := by rw [← hmore.split, hrest]
    simp [(List.append_eq_nil_iff.mp hnil).1]

/-- The lines taken are the text in front of what is left. -/
theorem taken_eq {front : List Char} (h : TakesLines (front ++ rest) taken rest) : taken = front :=
  (List.append_cancel_right h.split).symm

/-- A line in front of counted lines is counted with them. -/
theorem count_succ {line last : Nat} (h : TakesLines text taken rest)
    (hone : physicalLines taken = 1)
    (hmore : ∃ more, TakesLines rest more behind ∧ last = line + 1 + physicalLines more) :
    ∃ all, TakesLines text all behind ∧ last = line + physicalLines all := by
  obtain ⟨more, hmore, hlast⟩ := hmore
  refine ⟨taken ++ more, h.trans hmore, ?_⟩
  rw [hlast, h.physicalLines_trans hmore, hone, Nat.add_assoc]

/-- A character in front of lines is on the first of them. -/
theorem cons (h : TakesLines text taken rest) (htaken : text ≠ [] → taken ≠ []) (char : Char) :
    TakesLines (char :: text) (char :: taken) rest := by
  refine ⟨by rw [h.split, List.cons_append], Or.inr ?_⟩
  cases taken with
  | nil =>
      have htext : text = [] := Classical.byContradiction fun hne ↦ htaken hne rfl
      exact Or.inr (by simpa [htext] using h.split)
  | cons first others =>
      rw [List.getLast?_cons_cons]
      exact h.whole.resolve_left (by simp)

end TakesLines

/-- Dropping a line takes one. -/
theorem afterLine_takesLines {text : List Char} (htext : text ≠ []) :
    ∃ taken, taken ≠ [] ∧ TakesLines text taken (afterLine text) ∧ physicalLines taken = 1 := by
  induction text with
  | nil => exact absurd rfl htext
  | cons char rest ih =>
      rw [afterLine]
      by_cases hnewline : char = '\n'
      · rw [if_pos hnewline]
        exact ⟨[char], by simp, ⟨rfl, Or.inr (Or.inl (by simp [hnewline]))⟩, by simp⟩
      · rw [if_neg hnewline]
        by_cases hrest : rest = []
        · subst hrest
          exact ⟨[char], by simp, ⟨rfl, Or.inr (Or.inr rfl)⟩, by simp⟩
        · obtain ⟨taken, hne, htakes, hcount⟩ := ih hrest
          refine ⟨char :: taken, by simp, htakes.cons (fun _ ↦ hne) char, ?_⟩
          rw [physicalLines_cons char hne, hcount, if_neg hnewline]

/-- Dropping an empty line takes one. -/
theorem afterEmptyLine?_takesLines {text behind : List Char}
    (h : afterEmptyLine? text = some behind) :
    ∃ taken, TakesLines text taken behind ∧ physicalLines taken = 1 := by
  unfold afterEmptyLine? at h
  split at h
  · rename_i rest
    obtain rfl := Option.some.inj h
    exact ⟨['\n'], ⟨rfl, Or.inr (Or.inl rfl)⟩, rfl⟩
  · rename_i rest
    obtain rfl := Option.some.inj h
    exact ⟨['\r', '\n'], ⟨rfl, Or.inr (Or.inl rfl)⟩, rfl⟩
  · exact absurd h (by simp)

/-- A scan of a text that ends with this result has taken whole lines, and has counted those that
it entered after the one it started in. -/
def LineScan.Counts (scan : LineScan) (text : List Char) (result : ScannedText) : Prop :=
  ∃ taken, TakesLines text taken result.rest ∧ (text ≠ [] → taken ≠ []) ∧
    physicalLines taken + scan.continuations =
      result.continuations + if text = [] then 0 else 1

namespace LineScan.Counts

/-- A scan that goes on after a character counts a newline that something follows. -/
theorem step {scan next : LineScan} {rest : List Char} {result : ScannedText}
    (h : next.Counts rest result) (char : Char)
    (hnext : next.continuations =
      scan.continuations + if char = '\n' ∧ rest ≠ [] then 1 else 0) :
    scan.Counts (char :: rest) result := by
  obtain ⟨taken, htakes, htaken, hcount⟩ := h
  refine ⟨char :: taken, htakes.cons htaken char, by simp, ?_⟩
  by_cases hrest : rest = []
  · have hnil : taken = [] := by
      have hsplit := htakes.split
      rw [hrest] at hsplit
      exact (List.append_eq_nil_iff.mp hsplit.symm).1
    simp only [hrest, hnil, physicalLines_nil, physicalLines_singleton, ne_eq, not_true_eq_false,
      and_false, if_true, if_false, reduceCtorEq] at hcount hnext ⊢
    omega
  · rw [physicalLines_cons char (htaken hrest)]
    simp only [hrest, if_false, ne_eq, not_false_eq_true, and_true, reduceCtorEq] at hcount hnext ⊢
    omega

/-- A scan that stops behind a line has taken that line. -/
theorem stop (scan : LineScan) {text taken rest : List Char} (htext : text ≠ [])
    (htakes : TakesLines text taken rest) (hcount : physicalLines taken = 1) :
    scan.Counts text (scan.stop rest) := by
  refine ⟨taken, htakes, ?_, ?_⟩
  · rintro - rfl
    simp at hcount
  · rw [hcount, if_neg htext, Nat.add_comm]
    rfl

end LineScan.Counts

/-- A scan takes whole lines, and counts those it enters. -/
theorem scanText_counts {dialect : Dialect} (hdelimiter : dialect.delimiter ≠ '\n')
    (scan : LineScan) (text : List Char) : scan.Counts text (scanText dialect scan text) := by
  fun_induction scanText dialect scan text with
  | case1 scan => exact ⟨[], .refl [], by simp, by simp [LineScan.stop]⟩
  -- two quotes are two characters of the same line
  | case2 scan hplace rest ih => exact (ih.step quote rfl).step quote (by simp [quote])
  | case3 scan hplace rest hrest ih => exact ih.step quote (by simp [quote, LineScan.closeQuote])
  | case4 scan rest hplace opened hquote ih =>
      refine ih.step '\n' ?_
      cases rest <;> simp [opened]
  | case5 scan char rest hplace hquote hnewline ih =>
      exact ih.step char (by simp [hnewline, LineScan.push])
  | case6 scan rest hplace ih =>
      exact ih.step _ (by simp [hdelimiter, LineScan.nextField])
  | case7 scan rest hplace hne =>
      have htakes : TakesLines ('\n' :: rest) ['\n'] rest := ⟨rfl, Or.inr (Or.inl rfl)⟩
      exact .stop scan (by simp) htakes rfl
  | case8 scan char rest hplace hne hnewline hreturn =>
      obtain ⟨rfl, hhead⟩ := hreturn
      obtain ⟨behind, rfl⟩ := List.head?_eq_some_iff.mp hhead
      have htakes : TakesLines ('\r' :: '\n' :: behind) ['\r', '\n'] behind :=
        ⟨rfl, Or.inr (Or.inl rfl)⟩
      exact .stop scan (by simp) htakes rfl
  | case9 scan rest hplace hdelim hnewline hreturn =>
      have hafter : afterLine (dialect.comment :: rest) = afterLine rest := by
        rw [afterLine, if_neg hnewline]
      obtain ⟨taken, _, htakes, hcount⟩ :=
        afterLine_takesLines (List.cons_ne_nil dialect.comment rest)
      exact .stop scan (by simp) (hafter ▸ htakes) hcount
  | case10 scan char rest hplace hdelim hnewline hreturn hcomment hquote ih =>
      exact ih.step char (by simp [hnewline, LineScan.openQuote])
  | case11 scan char rest hplace hdelim hnewline hreturn hcomment hquote ih =>
      exact ih.step char (by simp [hnewline, LineScan.push])

/-- A read takes whole lines, and counts them. -/
theorem readText_takesLines {dialect : Dialect} (hdelimiter : dialect.delimiter ≠ '\n')
    (skipEmpty : Bool) (line : Nat) (text : List Char) :
    ∃ taken, TakesLines text taken (readText dialect skipEmpty line text).rest ∧
      (readText dialect skipEmpty line text).line = line + physicalLines taken := by
  fun_induction readText dialect skipEmpty line text with
  | case1 line => exact ⟨[], .refl [], rfl⟩
  | case2 line rest ih =>
      obtain ⟨taken, _, htakes, hone⟩ :=
        afterLine_takesLines (List.cons_ne_nil dialect.comment rest)
      exact htakes.count_succ hone ih
  | case3 line first rest hcomment behind hempty hskip ih =>
      obtain ⟨taken, htakes, hone⟩ := afterEmptyLine?_takesLines hempty
      exact htakes.count_succ hone ih
  | case4 line first rest hcomment behind hempty hkeep =>
      obtain ⟨taken, htakes, hone⟩ := afterEmptyLine?_takesLines hempty
      exact ⟨taken, htakes, by rw [hone]⟩
  | case5 line first rest hcomment hempty scanned =>
      obtain ⟨taken, htakes, _, hcount⟩ := scanText_counts hdelimiter {} (first :: rest)
      refine ⟨taken, htakes, ?_⟩
      simp only [Nat.add_zero, reduceCtorEq, if_false] at hcount
      rw [hcount, Nat.add_comm scanned.continuations, Nat.add_assoc]

/-- A read that finds no line finds the text at its end. -/
theorem rest_eq_nil_of_readText {dialect : Dialect} {skipEmpty : Bool} {line : Nat}
    {text : List Char} (h : (readText dialect skipEmpty line text).fields? = none) :
    (readText dialect skipEmpty line text).rest = [] := by
  fun_induction readText dialect skipEmpty line text with
  | case1 => rfl
  | case2 _ _ ih => exact ih h
  | case3 _ _ _ _ _ _ _ ih => exact ih h
  | case4 => simp at h
  | case5 => simp at h

/-- A read never lowers the counter. -/
theorem le_line_readText (dialect : Dialect) (skipEmpty : Bool) (line : Nat) (text : List Char) :
    line ≤ (readText dialect skipEmpty line text).line := by
  fun_induction readText dialect skipEmpty line text with
  | case1 => exact Nat.le_refl _
  | case2 _ _ ih => exact Nat.le_of_succ_le ih
  | case3 _ _ _ _ _ _ _ ih => exact Nat.le_of_succ_le ih
  | case4 line => exact Nat.le_succ line
  | case5 line => exact Nat.le_trans (Nat.le_succ line) (Nat.le_add_right _ _)

/-- A read that finds a line raises the counter. -/
theorem lt_line_readText {dialect : Dialect} {skipEmpty : Bool} {line : Nat} {text : List Char}
    (h : (readText dialect skipEmpty line text).fields?.isSome) :
    line < (readText dialect skipEmpty line text).line := by
  fun_induction readText dialect skipEmpty line text with
  | case1 => simp at h
  | case2 _ _ ih => exact Nat.lt_of_succ_lt (ih h)
  | case3 _ _ _ _ _ _ _ ih => exact Nat.lt_of_succ_lt (ih h)
  | case4 line => exact Nat.lt_succ_self line
  | case5 line => exact Nat.lt_of_lt_of_le (Nat.lt_succ_self line) (Nat.le_add_right _ _)

end Delimited
