import Delimited.Assoc
import Delimited.Value

/-!
# Reading JSON

The value of a JSON text. A number without point and exponent is a whole number if it fits into 64
bits, with or without sign (a reader that is given the whole numbers it should keep can keep others);
any other number is a floating point number. It is found quickly rather
than to the last bit: as many digits as fit into 64 bits are rounded to a floating point number, which
is then multiplied or divided by a rounded power of ten. Of several entries with one key the last one
counts.
-/

namespace Delimited.Json

/-- The white space of JSON. -/
def isBlank (char : Char) : Bool :=
  char == ' ' || char == '\t' || char == '\n' || char == '\r'

/-- The value of a hexadecimal digit of either case. -/
def hexValue? (char : Char) : Option Nat :=
  let code := char.toNat
  if 0x30 ≤ code && code ≤ 0x39 then some (code - 0x30)
  else if 0x41 ≤ code && code ≤ 0x46 then some (code - 0x41 + 10)
  else if 0x61 ≤ code && code ≤ 0x66 then some (code - 0x61 + 10)
  else none

/-- The number that four hexadecimal digits stand for. -/
def hexFour? (first second third fourth : Char) : Option Nat := do
  let first ← hexValue? first
  let second ← hexValue? second
  let third ← hexValue? third
  let fourth ← hexValue? fourth
  return ((first * 16 + second) * 16 + third) * 16 + fourth

/-- The character of a number, unless the number is a surrogate or too large. -/
def charOf? (code : Nat) : Option Char :=
  if _h : code.isValidChar then some (Char.ofNat code) else none

/-- The character that an escape of one letter stands for. -/
def shortEscape? : Char → Option Char
  | '"' => some '"'
  | '\\' => some '\\'
  | '/' => some '/'
  | 'b' => some '\x08'
  | 'f' => some '\x0c'
  | 'n' => some '\n'
  | 'r' => some '\r'
  | 't' => some '\t'
  | _ => none

/-- Read the letter and the four digits of an escaped number. -/
def parseHex : List Char → Option (Nat × List Char)
  | 'u' :: first :: second :: third :: fourth :: rest =>
      (hexFour? first second third fourth).map (·, rest)
  | _ => none

/-- Read what stands behind a backslash: a letter or the number of a character, where a surrogate needs
the other half of its pair. -/
def parseEscape (chars : List Char) : Option (Char × List Char) :=
  match parseHex chars with
  | some (code, rest) =>
      if 0xD800 ≤ code && code < 0xDC00 then
        match rest with
        | '\\' :: rest =>
            (parseHex rest).bind fun (low, rest) ↦
              if 0xDC00 ≤ low && low < 0xE000 then
                (charOf? (0x10000 + (code - 0xD800) * 0x400 + (low - 0xDC00))).map (·, rest)
              else none
        | _ => none
      else (charOf? code).map (·, rest)
  | none =>
      match chars with
      | letter :: rest => (shortEscape? letter).map (·, rest)
      | [] => none

/-- Reading an escaped number takes characters. -/
theorem length_parseHex_lt {chars rest : List Char} {code : Nat}
    (h : parseHex chars = some (code, rest)) : rest.length < chars.length := by
  unfold parseHex at h
  split at h
  · obtain ⟨_, _, hsame⟩ := Option.map_eq_some_iff.mp h
    obtain ⟨_, rfl⟩ := Prod.mk.inj hsame
    simp only [List.length_cons]
    omega
  · simp at h

/-- Reading what stands behind a backslash takes characters. -/
theorem length_parseEscape_lt {chars rest : List Char} {char : Char}
    (h : parseEscape chars = some (char, rest)) : rest.length < chars.length := by
  unfold parseEscape at h
  split at h
  · rename_i code behind hbehind
    have hlength := length_parseHex_lt hbehind
    split at h
    · split at h
      · obtain ⟨⟨low, last⟩, hlow, h⟩ := Option.bind_eq_some_iff.mp h
        have hlast := length_parseHex_lt hlow
        simp only [Option.ite_none_right_eq_some, Option.map_eq_some_iff, Prod.mk.injEq] at h
        obtain ⟨_, _, _, _, rfl⟩ := h
        simp only [List.length_cons] at hlength
        omega
      · simp at h
    · obtain ⟨_, _, hsame⟩ := Option.map_eq_some_iff.mp h
      obtain ⟨_, rfl⟩ := Prod.mk.inj hsame
      exact hlength
  · split at h
    · obtain ⟨_, _, hsame⟩ := Option.map_eq_some_iff.mp h
      obtain ⟨_, rfl⟩ := Prod.mk.inj hsame
      exact Nat.lt_add_one _
    · simp at h

/-- Read a string behind its opening quote; the characters read so far stand in reverse order. -/
def parseString (read : List Char) (chars : List Char) : Option (String × List Char) :=
  match chars with
  | [] => none
  | '"' :: rest => some (String.ofList read.reverse, rest)
  | '\\' :: rest =>
      match _h : parseEscape rest with
      | none => none
      | some (char, rest) => parseString (char :: read) rest
  | char :: rest => if char.toNat < 0x20 then none else parseString (char :: read) rest
termination_by chars.length
decreasing_by
  · exact Nat.lt_succ_of_lt (length_parseEscape_lt _h)
  · exact Nat.lt_add_one _

/-- Cut off the decimal digits at the front. -/
def takeDigits (chars : List Char) : List Char × List Char :=
  (chars.takeWhile Char.isDigit, chars.dropWhile Char.isDigit)

/-- The number that decimal digits stand for. -/
def digitsValue (digits : List Char) : Nat :=
  digits.foldl (fun value digit ↦ value * 10 + (digit.toNat - 0x30)) 0

/-- Read the exponent of a number, if there is one; a letter without digits is an error. -/
def parseExponent (chars : List Char) : Option (Option Int × List Char) :=
  match chars with
  | letter :: rest =>
      if letter = 'e' || letter = 'E' then
        let (negative, rest) :=
          match rest with
          | '-' :: rest => (true, rest)
          | '+' :: rest => (false, rest)
          | rest => (false, rest)
        let (digits, rest) := takeDigits rest
        if digits.isEmpty then none
        else
          let value : Int := digitsValue digits
          some (some (if negative then -value else value), rest)
      else some (none, chars)
  | [] => some (none, [])

/-- Read the fraction of a number, if there is one; a point without digits is an error. -/
def parseFraction (chars : List Char) : Option (Option (List Char) × List Char) :=
  match chars with
  | '.' :: rest =>
      let (digits, rest) := takeDigits rest
      if digits.isEmpty then none else some (some digits, rest)
  | _ => some (none, chars)

/-- A whole number if it fits into 64 bits, with or without sign. -/
def wholeNumber? (negative : Bool) (value : Nat) : Option Int :=
  if negative then
    if 0 < value && value ≤ 0x8000000000000000 then some (-(value : Int)) else none
  else if value < 0x10000000000000000 then some value
  else none

/-- Append digits to a whole number as long as it fits into 64 bits. The result is the number and how
many digits are left over. -/
def appendDigits (value : Nat) : List Char → Nat × Nat
  | [] => (value, 0)
  | digit :: rest =>
      let following := value * 10 + (digit.toNat - 0x30)
      if following < 0x10000000000000000 then appendDigits following rest
      else (value, rest.length + 1)

/-- The floating point number of the digits in front of the point, those behind it and an
exponent. -/
def floatOf (negative : Bool) (whole places : List Char) (exponent : Int) : Binary64 :=
  let (front, leftInFront) := appendDigits 0 whole
  let (significand, left) := appendDigits front places
  (Binary64.ofRatio negative significand 1).timesPowerOfTen
    (exponent + leftInFront - (places.length - left : Nat))

section Numbers

variable (whole? : Bool → Nat → Option Int)

/-- Read a number. -/
def parseNumber (chars : List Char) : Option (Value × List Char) := do
  let (negative, rest) :=
    match chars with
    | '-' :: rest => (true, rest)
    | rest => (false, rest)
  let (whole, rest) := takeDigits rest
  if whole.isEmpty || (whole.head? == some '0' && 1 < whole.length) then none
  let (fraction, rest) ← parseFraction rest
  let (exponent, rest) ← parseExponent rest
  let float := floatOf negative whole (fraction.getD []) (exponent.getD 0)
  if fraction.isNone && exponent.isNone then
    match whole? negative (digitsValue whole) with
    | some value => return (.integer value, rest)
    | none => if float.isFinite then return (.float float, rest) else none
  else if float.isFinite then return (.float float, rest)
  else none

mutual

/-- Read a value, with white space before it. The first argument bounds the nesting and the number of
items; the length of the text is always enough. -/
def parseValue : Nat → List Char → Option (Value × List Char)
  | 0, _ => none
  | fuel + 1, chars =>
      match chars.dropWhile isBlank with
      | '"' :: rest => (parseString [] rest).map fun (text, rest) ↦ (.string text, rest)
      | '[' :: rest =>
          match rest.dropWhile isBlank with
          | ']' :: rest => some (.array [], rest)
          | rest => (parseItems fuel rest).map fun (items, rest) ↦ (.array items, rest)
      | '\x7b' :: rest =>
          match rest.dropWhile isBlank with
          | '\x7d' :: rest => some (.table [], rest)
          | rest => (parseEntries fuel [] rest).map fun (entries, rest) ↦ (.table entries, rest)
      | 't' :: 'r' :: 'u' :: 'e' :: rest => some (.bool true, rest)
      | 'f' :: 'a' :: 'l' :: 's' :: 'e' :: rest => some (.bool false, rest)
      | 'n' :: 'u' :: 'l' :: 'l' :: rest => some (.null, rest)
      | rest => parseNumber whole? rest

/-- Read the items of an array and its closing bracket. -/
def parseItems : Nat → List Char → Option (List Value × List Char)
  | 0, _ => none
  | fuel + 1, chars =>
      match parseValue fuel chars with
      | none => none
      | some (item, rest) =>
          match rest.dropWhile isBlank with
          | ',' :: rest => (parseItems fuel rest).map fun (items, rest) ↦ (item :: items, rest)
          | ']' :: rest => some ([item], rest)
          | _ => none

/-- Read the entries of an object and its closing brace, adding to the entries read before. -/
def parseEntries : Nat → Entries → List Char → Option (Entries × List Char)
  | 0, _, _ => none
  | fuel + 1, entries, chars =>
      match chars.dropWhile isBlank with
      | '"' :: rest =>
          match parseString [] rest with
          | none => none
          | some (key, rest) =>
              match rest.dropWhile isBlank with
              | ':' :: rest =>
                  match parseValue fuel rest with
                  | none => none
                  | some (value, rest) =>
                      let entries := Assoc.set key value entries
                      match rest.dropWhile isBlank with
                      | ',' :: rest => parseEntries fuel entries rest
                      | '\x7d' :: rest => some (entries, rest)
                      | _ => none
              | _ => none
      | _ => none

end

/-- The value of a JSON text, with the whole numbers that are to be kept. -/
def parseWith? (text : String) : Option Value :=
  let chars := text.toList
  match parseValue whole? (2 * chars.length + 2) chars with
  | some (value, rest) => if rest.all isBlank then some value else none
  | none => none

end Numbers

/-- The value of a JSON text. -/
def parse? (text : String) : Option Value :=
  parseWith? wholeNumber? text

end Delimited.Json
