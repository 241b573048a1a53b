import Delimited.Json.Parser

/-!
# YAML scalars

How a text is written as a scalar of a YAML document, as an item that is indented by four columns.
A text with a newline is written as a literal block. Any other text is written plain, unless plain it
would be read back as something else than a text; then it stands between apostrophes. A style that
cannot hold the text gives way to the next one: plain to apostrophes, and apostrophes and literal
blocks to quotes, which can hold everything.
-/

namespace Delimited.Yaml

/-- The styles of a scalar. -/
inductive Style where
  | plain
  | singleQuoted
  | doubleQuoted
  | literal
  deriving DecidableEq, Repr

/-- The character ends a line. -/
def isBreak (char : Char) : Bool :=
  char == '\n' || char == '\r' || char == '\u0085' || char == '\u2028' || char == '\u2029'

/-- The character separates words; so does the end of the text. -/
def isBlank (char : Char) : Bool :=
  char == ' ' || char == '\t' || isBreak char

/-- The text is over or goes on with a separator. -/
def startsBlank : List Char → Bool
  | [] => true
  | char :: _ => isBlank char

/-- The character may stand in a document as itself. -/
def isPrintable (char : Char) : Bool :=
  let code := char.toNat
  code == 0x0A || (0x20 ≤ code && code ≤ 0x7E) || (0xA0 ≤ code && code ≤ 0xD7FF) ||
    (0xE000 ≤ code && code ≤ 0xFFFD && code != 0xFEFF) || 0xFFFF < code

/-! ## Texts that look like something else -/

/-- The text, without a plus sign in front that no other sign follows. A text with two signs in front
has no such form. -/
def withoutPlus? : List Char → Option (List Char)
  | '+' :: '+' :: _ => none
  | '+' :: '-' :: _ => none
  | '+' :: rest => some rest
  | text => some text

/-- The digits of a number in a base, if the text consists of nothing else. -/
def digitsIn? (base : Nat) (text : List Char) : Option Nat :=
  if text.isEmpty then none
  else
    text.foldl (fun value char ↦ do
      let value ← value
      let digit ← Json.hexValue? char
      if digit < base then some (value * base + digit) else none) (some 0)

/-- The base that a prefix announces, and the text behind it. -/
def basePrefix? : List Char → Option (Nat × List Char)
  | '0' :: 'x' :: rest => some (16, rest)
  | '0' :: 'o' :: rest => some (8, rest)
  | '0' :: 'b' :: rest => some (2, rest)
  | _ => none

/-- The text is a whole number in base sixteen, eight or two that fits into 128 bits. -/
def isBasedNumber (text : List Char) : Bool :=
  match text with
  | '-' :: rest => fits rest 0x80000000000000000000000000000000
  | '+' :: rest => fits rest 0xFFFFFFFFFFFFFFFFFFFFFFFFFFFFFFFF
  | rest => fits rest 0xFFFFFFFFFFFFFFFFFFFFFFFFFFFFFFFF
where
  /-- A number behind a base prefix that does not exceed a bound. -/
  fits (text : List Char) (bound : Nat) : Bool :=
    match basePrefix? text with
    | some (base, digits) => (digitsIn? base digits).any (· ≤ bound)
    | none => false

/-- The finite number that a decimal text stands for: a sign, digits with at most one point among
them, and an exponent. -/
def finiteNumber? (text : List Char) : Option Binary64 := do
  let (negative, rest) :=
    match text with
    | '-' :: rest => (true, rest)
    | '+' :: rest => (false, rest)
    | rest => (false, rest)
  let (whole, rest) := Json.takeDigits rest
  let (places, rest) :=
    match rest with
    | '.' :: rest => Json.takeDigits rest
    | rest => ([], rest)
  if whole.isEmpty && places.isEmpty then none
  let (exponent, rest) ← Json.parseExponent rest
  if !rest.isEmpty then none
  let value :=
    Binary64.ofDecimal negative (Json.digitsValue (whole ++ places))
      (exponent.getD 0 - (places.length : Int))
  if value.isFinite then some value else none

/-- The words that stand for no value, truth values, infinities and undefined numbers. -/
def reservedWords : List String :=
  ["", "null", "Null", "NULL", "~", "true", "True", "TRUE", "false", "False", "FALSE",
    ".inf", ".Inf", ".INF", "+.inf", "+.Inf", "+.INF", "-.inf", "-.Inf", "-.INF",
    ".nan", ".NaN", ".NAN"]

/-- The text consists of digits with a zero in front that is not needed, and perhaps a sign. -/
def isPaddedNumber (text : List Char) : Bool :=
  let digits :=
    match text with
    | '-' :: rest => rest
    | '+' :: rest => rest
    | rest => rest
  match digits with
  | '0' :: second :: rest => (second :: rest).all Char.isDigit
  | _ => false

/-- The text, written plain, would be read back as something else than a text or looks like a
number. -/
def isAmbiguous (text : List Char) : Bool :=
  reservedWords.contains (String.ofList text) || isBasedNumber text || isPaddedNumber text ||
    ((withoutPlus? text).bind finiteNumber?).isSome

/-! ## What a style can hold -/

/-- Two neighbouring characters of a text satisfy a condition. -/
def anyPair (condition : Char → Char → Bool) : List Char → Bool
  | [] => false
  | [_] => false
  | first :: second :: rest => condition first second || anyPair condition (second :: rest)

/-- The character announces something else than a plain scalar when it stands first. -/
def isIndicator (char : Char) : Bool :=
  "#,[]\x7b\x7d&*!|>'\"%@\x60".toList.contains char

/-- A colon before a separator or a number sign behind one ends a plain scalar. -/
def breaksPlain : (previous : Char) → List Char → Bool
  | _, [] => false
  | previous, char :: rest =>
      (char == ':' && startsBlank rest) || (char == '#' && isBlank previous) ||
        breaksPlain char rest

/-- The text starts in a way that no plain scalar does. -/
def startsSpecial : List Char → Bool
  | [] => false
  | '-' :: '-' :: '-' :: _ => true
  | '.' :: '.' :: '.' :: _ => true
  | char :: rest =>
      isIndicator char || ((char == '?' || char == ':' || char == '-') && startsBlank rest)

/-- The text starts with a space or a break. -/
def startsOpen (text : List Char) : Bool :=
  text.head?.any fun char ↦ char == ' ' || isBreak char

/-- Only quotes can hold the text: a break follows a space, or a character cannot be printed. -/
def needsQuotes (text : List Char) : Bool :=
  anyPair (fun first second ↦ first == ' ' && isBreak second) text || !text.all isPrintable

/-- A space follows a break. -/
def hasIndentedLine (text : List Char) : Bool :=
  anyPair (fun first second ↦ isBreak first && second == ' ') text

/-- The text can be written plain. -/
def plainAllowed (text : List Char) : Bool :=
  !needsQuotes text && !hasIndentedLine text && !startsOpen text && !startsOpen text.reverse &&
    !text.any isBreak && !startsSpecial text &&
    match text with
    | [] => true
    | first :: rest => !breaksPlain first rest

/-- The text can be written between apostrophes. -/
def singleAllowed (text : List Char) : Bool :=
  !needsQuotes text && !hasIndentedLine text

/-- The text can be written as a literal block. -/
def literalAllowed (text : List Char) : Bool :=
  !needsQuotes text && text.getLast? != some ' '

/-- The style in which a text is written. -/
def Style.ofText (text : List Char) : Style :=
  if text.contains '\n' then
    if literalAllowed text then .literal else .doubleQuoted
  else if !isAmbiguous text && plainAllowed text then .plain
  else if singleAllowed text then .singleQuoted
  else .doubleQuoted

/-! ## Writing -/

/-- The columns by which the lines of an item are indented. -/
def indent : List Char := [' ', ' ', ' ', ' ']

/-- The rest of a text between apostrophes; the line after a break starts with the indentation. -/
def apostropheText (afterBreak : Bool) : List Char → List Char
  | [] => if afterBreak then indent else []
  | char :: rest =>
      if isBreak char then char :: apostropheText true rest
      else
        let shown := if char = '\'' then ['\'', '\''] else [char]
        (if afterBreak then indent ++ shown else shown) ++ apostropheText false rest

/-- The number of a character in hexadecimal with a fixed number of digits. -/
def hexPadded (width number : Nat) : List Char :=
  let digits := (Nat.toDigits 16 number).map Char.toUpper
  List.replicate (width - digits.length) '0' ++ digits

/-- The letter of the escape for a character that has a short one. -/
def shortEscape? (char : Char) : Option Char :=
  match char.toNat with
  | 0x00 => some '0'
  | 0x07 => some 'a'
  | 0x08 => some 'b'
  | 0x09 => some 't'
  | 0x0A => some 'n'
  | 0x0B => some 'v'
  | 0x0C => some 'f'
  | 0x0D => some 'r'
  | 0x1B => some 'e'
  | 0x22 => some '"'
  | 0x5C => some '\\'
  | 0x85 => some 'N'
  | 0x2028 => some 'L'
  | 0x2029 => some 'P'
  | _ => none

/-- A character between quotes. -/
def quotedChar (char : Char) : List Char :=
  match shortEscape? char with
  | some letter => ['\\', letter]
  | none =>
      if isPrintable char then [char]
      else
        let code := char.toNat
        if code ≤ 0xFF then '\\' :: 'x' :: hexPadded 2 code
        else if code ≤ 0xFFFF then '\\' :: 'u' :: hexPadded 4 code
        else '\\' :: 'U' :: hexPadded 8 code

/-- The lines of a literal block; a line that is not empty starts with the indentation. -/
def literalLines (atStart : Bool) : List Char → List Char
  | [] => []
  | char :: rest =>
      if isBreak char then char :: literalLines true rest
      else (if atStart then indent ++ [char] else [char]) ++ literalLines false rest

/-- The head of a literal block: a digit if the first line shows no indentation, and a sign that tells
what becomes of the breaks at the end. -/
def literalHead (text : List Char) : List Char :=
  let digit := if startsOpen text then ['2'] else []
  let sign :=
    match text.reverse with
    | [] => ['-']
    | last :: before =>
        if !isBreak last then ['-']
        else
          match before with
          | [] => ['+']
          | other :: _ => if isBreak other then ['+'] else []
  '|' :: (digit ++ sign)

/-- A text in a style. -/
def Style.render (style : Style) (text : List Char) : List Char :=
  match style with
  | .plain => text
  | .singleQuoted => '\'' :: (apostropheText false text ++ ['\''])
  | .doubleQuoted => '"' :: (text.flatMap quotedChar ++ ['"'])
  | .literal => literalHead text ++ ['\n'] ++ literalLines true text

/-- A text as the item of a sequence, up to the start of the next line. A literal block whose text ends
in a break is already there. -/
def item (text : String) : String :=
  let chars := text.toList
  let style := Style.ofText chars
  let ended := style == .literal && chars.getLast?.any isBreak
  String.ofList (style.render chars) ++ (if ended then "" else "\n")

end Delimited.Yaml
