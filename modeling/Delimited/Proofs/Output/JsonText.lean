import Delimited.Json.Parser
import Delimited.Json.Printer
import Mathlib.Data.List.Forall2
import Mathlib.Data.List.TakeWhile

/-!
# JSON texts read back

What a text made of strings, whole numbers, arrays and tables stands for, whatever white space is laid
out around its commas, colons and brackets. `Reads` says that a value is read from the front of a text
and that what stands behind it is left over; there is one lemma for each kind of value, so a text is
read back by putting them together the way the text was put together.
-/

namespace Delimited.Json

/-- The characters are white space. -/
def Blank (chars : List Char) : Prop :=
  ∀ char ∈ chars, isBlank char = true

/-- Only the end, white space, a comma or a bracket stands behind a value. -/
def Follows (rest : List Char) : Prop :=
  ∀ char ∈ rest.head?, isBlank char = true ∨ char ∈ [',', ']', '\x7d']

/-- A collection between its brackets: commas between the texts, white space in front of each one and
behind the last. -/
def laid (opening closing : Char) (front behind : List Char) (texts : List (List Char)) : List Char :=
  if texts = [] then [opening, closing]
  else opening :: ([','].intercalate (texts.map (front ++ ·)) ++ (behind ++ [closing]))

/-- An entry of a table: its key, a colon, white space and the text of the value. -/
def entryText (key : String) (blanks text : List Char) : List Char :=
  (string key).toList ++ ':' :: (blanks ++ text)

section Layout

variable {blanks rest : List Char}

/-- White space is passed over. -/
theorem Blank.dropWhile_append (h : Blank blanks) (rest : List Char) :
    (blanks ++ rest).dropWhile isBlank = rest.dropWhile isBlank :=
  List.dropWhile_append_of_pos h

/-- The white space in front of a text. -/
theorem blank_takeWhile (chars : List Char) : Blank (chars.takeWhile isBlank) := fun _ ↦
  List.mem_takeWhile_imp

/-- A value may end in front of white space that a bracket or a comma stands behind. -/
theorem Blank.follows_append (h : Blank blanks) (hrest : Follows rest) :
    Follows (blanks ++ rest) := by
  cases blanks with
  | nil => exact hrest
  | cons char blanks =>
      intro first hfirst
      obtain rfl : char = first := by simpa using hfirst
      exact .inl (h char List.mem_cons_self)

/-- A value may end in front of a comma or a bracket. -/
theorem follows_cons {char : Char} (h : char ∈ [',', ']', '\x7d']) (rest : List Char) :
    Follows (char :: rest) := by
  intro first hfirst
  obtain rfl : char = first := by simpa using hfirst
  exact .inr h

/-- What may stand behind a value does not belong to a number. -/
theorem Follows.not_number (h : Follows rest) {char : Char} (hchar : char ∈ rest.head?) :
    char.isDigit = false ∧ char ≠ '.' ∧ char ≠ 'e' ∧ char ≠ 'E' := by
  rcases h char hchar with hblank | hmark
  · simp only [isBlank, Bool.or_eq_true, beq_iff_eq] at hblank
    rcases hblank with ((rfl | rfl) | rfl) | rfl <;> decide
  · simp only [List.mem_cons, List.not_mem_nil, or_false] at hmark
    rcases hmark with rfl | rfl | rfl <;> decide

end Layout

section Strings

/-- A character is written as a backslash, a letter and maybe digits, which are read as that
character. -/
structure EscapedBy (char letter : Char) (digits : List Char) : Prop where
  eq : escapeChar char = '\\' :: letter :: digits
  read : ∀ rest, parseEscape (letter :: (digits ++ rest)) = some (char, rest)
  printed : ∀ other ∈ letter :: digits, 0x20 ≤ other.toNat
  digits_plain : ∀ digit ∈ digits, digit ≠ '"' ∧ digit ≠ '\\'

/-- Two hexadecimal digits behind two zeros stand for a control. -/
theorem hexFour?_control : ∀ code < 0x20,
    hexFour? '0' '0' (hexDigit (code / 16)) (hexDigit (code % 16)) = some code := by
  decide

/-- Hexadecimal digits are neither controls nor marks of a string. -/
theorem hexDigit_plain : ∀ digit < 16, 0x20 ≤ (hexDigit digit).toNat ∧
    hexDigit digit ≠ '"' ∧ hexDigit digit ≠ '\\' := by
  decide

/-- A control without a letter of its own is written with its number. -/
theorem escapedBy_number {char : Char} (hcontrol : char.toNat < 0x20)
    (h : escapeChar char =
      ['\\', 'u', '0', '0', hexDigit (char.toNat / 16), hexDigit (char.toNat % 16)]) :
    EscapedBy char 'u' ['0', '0', hexDigit (char.toNat / 16), hexDigit (char.toNat % 16)] := by
  obtain ⟨hhigh, hhighQuote, hhighSlash⟩ := hexDigit_plain (char.toNat / 16) (by omega)
  obtain ⟨hlow, hlowQuote, hlowSlash⟩ := hexDigit_plain (char.toNat % 16) (by omega)
  refine ⟨h, ?_, ?_, ?_⟩
  · intro rest
    have hvalid : char.toNat.isValidChar := char.valid
    have hchar : charOf? char.toNat = some char := by
      rw [charOf?, dif_pos hvalid, Char.ofNat_toNat]
    have hsurrogate : ¬ 0xD800 ≤ char.toNat := by omega
    simp [parseEscape, parseHex, hexFour?_control _ hcontrol, hchar, hsurrogate]
  · simp [hhigh, hlow]
  · simp [hhighQuote, hhighSlash, hlowQuote, hlowSlash]

/-- A character of a string stands for itself or is escaped. -/
theorem escapeChar_cases (char : Char) :
    escapeChar char = [char] ∧ char ≠ '"' ∧ char ≠ '\\' ∧ 0x20 ≤ char.toNat ∨
      ∃ letter digits, EscapedBy char letter digits := by
  by_cases hletter : char ∈ ['"', '\\', '\x08', '\x0c', '\n', '\r', '\t']
  · refine .inr ?_
    simp only [List.mem_cons, List.not_mem_nil, or_false] at hletter
    rcases hletter with rfl | rfl | rfl | rfl | rfl | rfl | rfl
    all_goals exact ⟨_, [], rfl, fun _ ↦ rfl, by simp, by simp⟩
  · simp only [List.mem_cons, List.not_mem_nil, or_false, not_or] at hletter
    obtain ⟨hquote, hslash, hbackspace, hfeed, hnewline, hreturn, htab⟩ := hletter
    by_cases hcontrol : char.toNat < 0x20
    · refine .inr ⟨_, _, escapedBy_number hcontrol ?_⟩
      simp only [escapeChar, hquote, hslash, hbackspace, hfeed, hnewline, hreturn, htab, hcontrol,
        if_true, if_false]
    · refine .inl ⟨?_, hquote, hslash, Nat.le_of_not_lt hcontrol⟩
      simp only [escapeChar, hquote, hslash, hbackspace, hfeed, hnewline, hreturn, htab, hcontrol,
        if_false]

/-- What a character is written as in a string is read as that character. -/
theorem parseString_escapeChar (read : List Char) (char : Char) (rest : List Char) :
    parseString read (escapeChar char ++ rest) = parseString (char :: read) rest := by
  obtain ⟨hself, hquote, hslash, hcontrol⟩ | ⟨letter, digits, hescaped⟩ := escapeChar_cases char
  · rw [hself, List.singleton_append, parseString]
    · simp [Nat.not_lt.mpr hcontrol]
    · exact hquote
    · exact hslash
  · rw [hescaped.eq, List.cons_append, List.cons_append, parseString, hescaped.read]

/-- A string is read back. -/
theorem parseString_string (text : String) (rest : List Char) :
    parseString [] (text.toList.flatMap escapeChar ++ '"' :: rest) = some (text, rest) := by
  have hread (read chars : List Char) :
      parseString read (chars.flatMap escapeChar ++ '"' :: rest) =
        some (String.ofList (read.reverse ++ chars), rest) := by
    induction chars generalizing read with
    | nil => rw [List.flatMap_nil, List.nil_append, parseString, List.append_nil]
    | cons char chars ih =>
        rw [List.flatMap_cons, List.append_assoc, parseString_escapeChar, ih, List.reverse_cons,
          List.append_assoc, List.singleton_append]
  rw [hread, List.reverse_nil, List.nil_append, String.ofList_toList]

/-- A string with what stands behind it. -/
theorem toList_string_append (text : String) (rest : List Char) :
    (string text).toList ++ rest = '"' :: (text.toList.flatMap escapeChar ++ '"' :: rest) := by
  simp [string]

end Strings

section Numbers

/-- A digit is none of the other characters. -/
theorem ne_of_isDigit {digit mark : Char} (h : digit.isDigit = true) (hmark : mark.isDigit = false) :
    digit ≠ mark := by
  rintro rfl
  simp [h] at hmark

/-- A digit is not white space. -/
theorem isBlank_of_isDigit {digit : Char} (h : digit.isDigit = true) : isBlank digit = false := by
  simp only [isBlank, Bool.or_eq_false_iff, beq_eq_false_iff_ne]
  exact ⟨⟨⟨ne_of_isDigit h rfl, ne_of_isDigit h rfl⟩, ne_of_isDigit h rfl⟩, ne_of_isDigit h rfl⟩

/-- A number is written with digits. -/
theorem isDigit_of_mem {number : Nat} {digit : Char} (h : digit ∈ Nat.toDigits 10 number) :
    digit.isDigit = true :=
  Nat.isDigit_of_mem_toDigits (by decide) (by decide) h

/-- A number is written with at least one digit. -/
theorem toDigits_eq_cons (number : Nat) :
    ∃ digit digits, Nat.toDigits 10 number = digit :: digits ∧ digit.isDigit = true := by
  obtain ⟨digit, digits, hdigits⟩ := List.exists_cons_of_ne_nil (Nat.toDigits_ne_nil (n := number))
  have hmem : digit ∈ Nat.toDigits 10 number := hdigits ▸ List.mem_cons_self
  exact ⟨digit, digits, hdigits, isDigit_of_mem hmem⟩

/-- A number is not written with a zero in front of other digits. -/
theorem toDigits_no_leading_zero (number : Nat) :
    (Nat.toDigits 10 number).head? = some '0' → (Nat.toDigits 10 number).length = 1 := by
  induction number using Nat.strongRecOn with
  | ind number ih =>
      by_cases hsmall : number < 10
      · rw [Nat.toDigits_of_lt_base hsmall]
        exact fun _ ↦ rfl
      · rw [Nat.toDigits_of_base_le (by decide) (Nat.le_of_not_lt hsmall)]
        intro hhead
        rw [List.head?_append_of_ne_nil _ Nat.toDigits_ne_nil] at hhead
        -- the digits in front of the last one are those of a positive number below ten or more
        have hone := ih (number / 10) (by omega) hhead
        obtain ⟨digit, hdigit⟩ := List.length_eq_one_iff.mp hone
        have hzero : Nat.ofDigitChars 10 (Nat.toDigits 10 (number / 10)) 0 = 0 := by
          rw [hdigit] at hhead ⊢
          obtain rfl : digit = '0' := by simpa using hhead
          rfl
        rw [Nat.ofDigitChars_ten_toDigits] at hzero
        omega

/-- The digits of a number stand for it. -/
theorem digitsValue_toDigits (number : Nat) : digitsValue (Nat.toDigits 10 number) = number := by
  have hsame (digits : List Char) : digitsValue digits = Nat.ofDigitChars 10 digits 0 := by
    simp only [digitsValue, Nat.ofDigitChars, Nat.mul_comm]
    rfl
  rw [hsame, Nat.ofDigitChars_ten_toDigits]

/-- The digits of a number end in front of what may stand behind a value. -/
theorem takeDigits_toDigits (number : Nat) {rest : List Char} (h : Follows rest) :
    takeDigits (Nat.toDigits 10 number ++ rest) = (Nat.toDigits 10 number, rest) := by
  have hdigits : ∀ digit ∈ Nat.toDigits 10 number, digit.isDigit = true := fun _ ↦ isDigit_of_mem
  rw [takeDigits, List.takeWhile_append_of_pos hdigits, List.dropWhile_append_of_pos hdigits]
  cases rest with
  | nil => simp
  | cons char rest => simp [(h.not_number rfl).1]

variable {whole? : Bool → Nat → Option Int}

/-- A whole number that is kept is read back. -/
theorem parseNumber_toDigits {number : Nat} {value : Int} (hwhole : whole? false number = some value)
    {rest : List Char} (h : Follows rest) :
    parseNumber whole? (Nat.toDigits 10 number ++ rest) = some (.integer value, rest) := by
  have hfraction : parseFraction rest = some (none, rest) := by
    unfold parseFraction
    split
    · exact absurd rfl (h.not_number rfl).2.1
    · rfl
  have hexponent : parseExponent rest = some (none, rest) := by
    unfold parseExponent
    split
    · rename_i letter rest
      obtain ⟨_, _, hlower, hupper⟩ := h.not_number rfl
      rw [if_neg (by simp [hlower, hupper])]
    · rfl
  have hzero : ((Nat.toDigits 10 number).head? == some '0' &&
      decide (1 < (Nat.toDigits 10 number).length)) = false := by
    rw [Bool.and_eq_false_imp, beq_iff_eq]
    intro hhead
    simp [toDigits_no_leading_zero number hhead]
  have hsign (other : List Char) : Nat.toDigits 10 number ++ rest ≠ '-' :: other := by
    intro hsame
    obtain ⟨digit, digits, hdigits, hdigit⟩ := toDigits_eq_cons number
    rw [hdigits, List.cons_append] at hsame
    exact ne_of_isDigit hdigit rfl (List.cons.inj hsame).1
  unfold parseNumber
  split
  rename_i negative other hother
  split at hother
  · rename_i hminus
    exact absurd hminus (hsign _)
  · obtain ⟨rfl, rfl⟩ := Prod.mk.inj hother
    simp [takeDigits_toDigits number h, hzero, hfraction, hexponent, digitsValue_toDigits, hwhole,
      Nat.toDigits_ne_nil]

end Numbers

section Values

variable (whole? : Bool → Nat → Option Int)

/-- The value is read from the front of a text, whatever may stand behind it. -/
def Reads (text : List Char) (value : Value) : Prop :=
  ∀ (fuel : Nat) (rest : List Char), 2 * text.length ≤ fuel → Follows rest →
    parseValue whole? fuel (text ++ rest) = some (value, rest)

/-- The entry of a table is read where it stands: its key, and its value behind the colon. -/
def ReadsEntry (text : List Char) (entry : String × Value) : Prop :=
  ∃ blanks inner, Blank blanks ∧ text = entryText entry.1 blanks inner ∧
    Reads whole? inner entry.2

variable {whole?} {blanks : List Char}

/-- White space in front of a value is passed over. -/
theorem parseValue_blank (h : Blank blanks) (fuel : Nat) (chars : List Char) :
    parseValue whole? fuel (blanks ++ chars) = parseValue whole? fuel chars := by
  cases fuel with
  | zero => rfl
  | succ fuel => rw [parseValue, parseValue, h.dropWhile_append]

/-- White space in front of items is passed over. -/
theorem parseItems_blank (h : Blank blanks) (fuel : Nat) (chars : List Char) :
    parseItems whole? fuel (blanks ++ chars) = parseItems whole? fuel chars := by
  cases fuel with
  | zero => rfl
  | succ fuel => rw [parseItems, parseItems, parseValue_blank h]

/-- White space in front of entries is passed over. -/
theorem parseEntries_blank (h : Blank blanks) (fuel : Nat) (entries : Entries)
    (chars : List Char) :
    parseEntries whole? fuel entries (blanks ++ chars) =
      parseEntries whole? fuel entries chars := by
  cases fuel with
  | zero => rfl
  | succ fuel => rw [parseEntries, parseEntries, h.dropWhile_append]

/-- A bracket that closes an array does not start an item. -/
theorem parseItems_bracket (fuel : Nat) (rest : List Char) :
    parseItems whole? fuel (']' :: rest) = none := by
  have hvalue (fuel : Nat) : parseValue whole? fuel (']' :: rest) = none := by
    cases fuel with
    | zero => rfl
    | succ fuel => simp [parseValue, isBlank, parseNumber, takeDigits]
  cases fuel with
  | zero => rfl
  | succ fuel => rw [parseItems, hvalue]

/-- A brace that closes a table does not start an entry. -/
theorem parseEntries_brace (fuel : Nat) (entries : Entries) (rest : List Char) :
    parseEntries whole? fuel entries ('\x7d' :: rest) = none := by
  cases fuel with
  | zero => rfl
  | succ fuel => simp [parseEntries, isBlank]

/-- An array has the items behind its bracket. -/
theorem parseValue_array {fuel : Nat} {chars rest : List Char} {items : List Value}
    (h : parseItems whole? fuel chars = some (items, rest)) :
    parseValue whole? (fuel + 1) ('[' :: chars) = some (.array items, rest) := by
  have hdrop : parseItems whole? fuel (chars.dropWhile isBlank) = some (items, rest) := by
    rw [← parseItems_blank (blank_takeWhile chars), List.takeWhile_append_dropWhile, h]
  -- the array is not empty: what it has behind its bracket starts with an item
  have hopen : ∀ more, chars.dropWhile isBlank ≠ ']' :: more := by
    intro more hclosed
    simp [hclosed, parseItems_bracket] at hdrop
  rw [parseValue, List.dropWhile_cons_of_neg (by decide)]
  simp [hdrop]

/-- A table has the entries behind its brace. -/
theorem parseValue_table {fuel : Nat} {chars rest : List Char} {entries : Entries}
    (h : parseEntries whole? fuel [] chars = some (entries, rest)) :
    parseValue whole? (fuel + 1) ('\x7b' :: chars) = some (.table entries, rest) := by
  have hdrop : parseEntries whole? fuel [] (chars.dropWhile isBlank) = some (entries, rest) := by
    rw [← parseEntries_blank (blank_takeWhile chars), List.takeWhile_append_dropWhile, h]
  have hopen : ∀ more, chars.dropWhile isBlank ≠ '\x7d' :: more := by
    intro more hclosed
    simp [hclosed, parseEntries_brace] at hdrop
  rw [parseValue, List.dropWhile_cons_of_neg (by decide)]
  simp [hdrop]

/-- A string stands for its text. -/
theorem reads_string (text : String) : Reads whole? (string text).toList (.string text) := by
  intro fuel rest hfuel _
  rw [toList_string_append]
  cases fuel with
  | zero => simp [string] at hfuel
  | succ fuel => simp [parseValue, isBlank, parseString_string]

/-- The digits of a number stand for it. -/
theorem reads_digits {number : Nat} {value : Int} (h : whole? false number = some value) :
    Reads whole? (Nat.toDigits 10 number) (.integer value) := by
  intro fuel rest hfuel hrest
  obtain ⟨digit, digits, hdigits, hdigit⟩ := toDigits_eq_cons number
  have hnumber := parseNumber_toDigits h hrest
  rw [hdigits, List.cons_append] at hnumber
  cases fuel with
  | zero => simp [hdigits] at hfuel
  | succ fuel =>
      rw [hdigits, List.cons_append, parseValue,
        List.dropWhile_cons_of_neg (by simp [isBlank_of_isDigit hdigit])]
      -- a digit opens neither a string nor a collection nor a word
      split
      all_goals rename_i hsame
      all_goals first
        | exact hnumber
        | exact absurd (List.cons.inj hsame).1 (ne_of_isDigit hdigit rfl)

/-- The texts of items are read up to the bracket behind them. -/
theorem parseItems_texts {front behind : List Char} (hfront : Blank front) (hbehind : Blank behind)
    {texts : List (List Char)} {items : List Value}
    (h : List.Forall₂ (Reads whole?) texts items) (hne : texts ≠ []) (fuel : Nat)
    (hfuel : 2 * ([','].intercalate (texts.map (front ++ ·))).length < fuel) (rest : List Char) :
    parseItems whole? fuel
      ([','].intercalate (texts.map (front ++ ·)) ++ (behind ++ ']' :: rest)) =
        some (items, rest) := by
  induction h generalizing fuel with
  | nil => exact absurd rfl hne
  | cons hitem hitems ih =>
      rename_i text item texts items
      obtain ⟨fuel, rfl⟩ := Nat.exists_eq_add_one_of_ne_zero (Nat.ne_zero_of_lt hfuel)
      cases texts with
      | nil =>
          cases hitems
          have hend : Follows (behind ++ ']' :: rest) :=
            hbehind.follows_append (follows_cons (by decide) rest)
          have hlength : 2 * text.length ≤ fuel := by
            simp at hfuel
            omega
          rw [List.map_singleton, List.intercalate_singleton, List.append_assoc,
            parseItems_blank hfront, parseItems, hitem fuel _ hlength hend]
          simp [hbehind.dropWhile_append, isBlank]
      | cons next texts =>
          have hcomma (more : List Char) : Follows (',' :: more) := follows_cons (by decide) more
          -- reading on takes one unit of fuel off, and the comma alone counts for two
          have hlength : 2 * text.length ≤ fuel ∧
              2 * ([','].intercalate ((next :: texts).map (front ++ ·))).length < fuel := by
            simp only [List.map_cons, List.intercalate_cons_cons, List.length_append,
              List.length_singleton] at hfuel ⊢
            omega
          have hrest := ih (by simp) fuel hlength.2
          simp only [List.map_cons, List.intercalate_cons_cons, List.append_assoc,
            List.cons_append] at hrest ⊢
          rw [parseItems_blank hfront, parseItems, hitem fuel _ hlength.1 (hcomma _)]
          simp [isBlank, hrest]

/-- A collection has a bracket to be read. -/
theorem exists_fuel_of_laid {opening closing : Char} {front behind : List Char}
    {texts : List (List Char)} {fuel : Nat}
    (h : 2 * (laid opening closing front behind texts).length ≤ fuel) :
    ∃ less, fuel = less + 1 := by
  refine Nat.exists_eq_add_one_of_ne_zero fun hzero ↦ ?_
  unfold laid at h
  split at h <;> simp [hzero] at h

/-- Items between brackets stand for an array. -/
theorem reads_array {front behind : List Char} (hfront : Blank front) (hbehind : Blank behind)
    {texts : List (List Char)} {items : List Value} (h : List.Forall₂ (Reads whole?) texts items) :
    Reads whole? (laid '[' ']' front behind texts) (.array items) := by
  intro fuel rest hfuel _
  obtain ⟨fuel, rfl⟩ := exists_fuel_of_laid hfuel
  by_cases hnil : texts = []
  · subst hnil
    cases h
    simp [laid, parseValue, isBlank]
  · have hlength : 2 * ([','].intercalate (texts.map (front ++ ·))).length < fuel := by
      simp only [laid, if_neg hnil, List.length_cons, List.length_append] at hfuel
      omega
    have hitems := parseItems_texts hfront hbehind h hnil fuel hlength rest
    rw [laid, if_neg hnil, List.cons_append, List.append_assoc, List.append_assoc,
      List.singleton_append]
    exact parseValue_array hitems

/-- An entry is read up to the comma or the brace behind its value. -/
theorem ReadsEntry.parseEntries_append {text : List Char} {key : String} {value : Value}
    (h : ReadsEntry whole? text (key, value)) {read : Entries} (hkey : key ∉ read.map Prod.fst)
    {fuel : Nat} (hfuel : 2 * text.length ≤ fuel) {rest : List Char} (hrest : Follows rest)
    (behind : List Char) :
    (rest.dropWhile isBlank = ',' :: behind →
        parseEntries whole? (fuel + 1) read (text ++ rest) =
          parseEntries whole? fuel (read ++ [(key, value)]) behind) ∧
      (rest.dropWhile isBlank = '\x7d' :: behind →
        parseEntries whole? (fuel + 1) read (text ++ rest) =
          some (read ++ [(key, value)], behind)) := by
  obtain ⟨blanks, inner, hblanks, rfl, hinner⟩ := h
  have htext : entryText key blanks inner ++ rest =
      '"' :: (key.toList.flatMap escapeChar ++ '"' :: (':' :: (blanks ++ (inner ++ rest)))) := by
    rw [entryText, List.append_assoc, toList_string_append]
    simp
  have hlength : 2 * inner.length ≤ fuel := by
    simp only [entryText, List.length_append, List.length_cons] at hfuel
    omega
  have hvalue : parseValue whole? fuel (blanks ++ (inner ++ rest)) = some (value, rest) := by
    rw [parseValue_blank hblanks]
    exact hinner fuel rest hlength hrest
  rw [htext, parseEntries, List.dropWhile_cons_of_neg (by decide)]
  simp only [parseString_string]
  rw [List.dropWhile_cons_of_neg (by decide)]
  simp only [hvalue, Assoc.set_of_notMem hkey]
  refine ⟨fun hcomma ↦ ?_, fun hbrace ↦ ?_⟩
  · simp only [hcomma]
  · simp only [hbrace]

/-- The texts of entries are read up to the brace behind them. -/
theorem parseEntries_texts {front behind : List Char} (hfront : Blank front) (hbehind : Blank behind)
    {texts : List (List Char)} {entries : Entries}
    (h : List.Forall₂ (ReadsEntry whole?) texts entries) (hne : texts ≠ []) (read : Entries)
    (hkeys : ((read ++ entries).map Prod.fst).Nodup) (fuel : Nat)
    (hfuel : 2 * ([','].intercalate (texts.map (front ++ ·))).length < fuel) (rest : List Char) :
    parseEntries whole? fuel read
      ([','].intercalate (texts.map (front ++ ·)) ++ (behind ++ '\x7d' :: rest)) =
        some (read ++ entries, rest) := by
  induction h generalizing fuel read with
  | nil => exact absurd rfl hne
  | cons hentry hentries ih =>
      rename_i text entry texts entries
      obtain ⟨key, value⟩ := entry
      obtain ⟨fuel, rfl⟩ := Nat.exists_eq_add_one_of_ne_zero (Nat.ne_zero_of_lt hfuel)
      -- a key that was not read before is put behind the others, so the entries keep their order
      have hkey : key ∉ read.map Prod.fst := by
        rw [List.map_append, List.map_cons] at hkeys
        exact fun hmem ↦ (List.nodup_append.mp hkeys).2.2 key hmem key List.mem_cons_self rfl
      cases texts with
      | nil =>
          cases hentries
          have hend : Follows (behind ++ '\x7d' :: rest) :=
            hbehind.follows_append (follows_cons (by decide) rest)
          have hlength : 2 * text.length ≤ fuel := by
            simp at hfuel
            omega
          have hbrace : (behind ++ '\x7d' :: rest).dropWhile isBlank = '\x7d' :: rest := by
            simp [hbehind.dropWhile_append, isBlank]
          rw [List.map_singleton, List.intercalate_singleton, List.append_assoc,
            parseEntries_blank hfront]
          exact (hentry.parseEntries_append hkey hlength hend rest).2 hbrace
      | cons next texts =>
          have hcomma (more : List Char) : Follows (',' :: more) := follows_cons (by decide) more
          have hlength : 2 * text.length ≤ fuel ∧
              2 * ([','].intercalate ((next :: texts).map (front ++ ·))).length < fuel := by
            simp only [List.map_cons, List.intercalate_cons_cons, List.length_append,
              List.length_singleton] at hfuel ⊢
            omega
          have hrest := ih (by simp) (read ++ [(key, value)]) (by simpa using hkeys) fuel hlength.2
          simp only [List.map_cons, List.intercalate_cons_cons, List.append_assoc,
            List.cons_append, List.nil_append] at hrest ⊢
          rw [parseEntries_blank hfront,
            (hentry.parseEntries_append hkey hlength.1 (hcomma _) _).1
              (List.dropWhile_cons_of_neg (by decide)), hrest]

/-- Entries between braces stand for a table, where no key occurs twice. -/
theorem reads_table {front behind : List Char} (hfront : Blank front) (hbehind : Blank behind)
    {texts : List (List Char)} {entries : Entries}
    (h : List.Forall₂ (ReadsEntry whole?) texts entries) (hkeys : (entries.map Prod.fst).Nodup) :
    Reads whole? (laid '\x7b' '\x7d' front behind texts) (.table entries) := by
  intro fuel rest hfuel _
  obtain ⟨fuel, rfl⟩ := exists_fuel_of_laid hfuel
  by_cases hnil : texts = []
  · subst hnil
    cases h
    simp [laid, parseValue, isBlank]
  · have hlength : 2 * ([','].intercalate (texts.map (front ++ ·))).length < fuel := by
      simp only [laid, if_neg hnil, List.length_cons, List.length_append] at hfuel
      omega
    have hentries := parseEntries_texts hfront hbehind h hnil [] hkeys fuel hlength rest
    rw [laid, if_neg hnil, List.cons_append, List.append_assoc, List.append_assoc,
      List.singleton_append]
    exact parseValue_table hentries

/-- A text that a value is read from, with white space behind it, stands for that value. -/
theorem Reads.parseWith?_append {text : List Char} {value : Value} (h : Reads whole? text value)
    (hblanks : Blank blanks) : parseWith? whole? (String.ofList (text ++ blanks)) = some value := by
  have hend : Follows blanks := by
    have hnone : Follows [] := by simp [Follows]
    simpa using hblanks.follows_append hnone
  have hlength : 2 * text.length ≤ 2 * (text ++ blanks).length + 2 := by
    rw [List.length_append]
    omega
  rw [parseWith?, String.toList_ofList, h _ blanks hlength hend]
  exact if_pos (List.all_eq_true.mpr hblanks)

end Values

end Delimited.Json
