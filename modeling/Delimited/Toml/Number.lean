import Delimited.Json.Parser
import Delimited.Value

/-!
# Numbers of TOML

Whole numbers of 64 bits with sign, in base ten, sixteen, eight or two, and floating point numbers.
Underscores may stand between two digits. A decimal number has no zero in front that is not needed,
and a number in another base no sign.
-/

namespace Delimited.Toml

/-- Read digits with underscores between them; the digits are given without the underscores. -/
def digits? (isDigit : Char → Bool) (chars : List Char) : Option (List Char × List Char) :=
  match chars with
  | first :: rest => if isDigit first then some (go [first] rest) else none
  | [] => none
where
  /-- Read on behind a digit; the digits so far stand in reverse order. -/
  go (read : List Char) : List Char → List Char × List Char
    | '_' :: char :: rest =>
        if isDigit char then go (char :: read) rest else (read.reverse, '_' :: char :: rest)
    | char :: rest =>
        if isDigit char then go (char :: read) rest else (read.reverse, char :: rest)
    | [] => (read.reverse, [])

/-- Read a sign; the flag tells whether it is a minus. -/
def sign : List Char → Bool × List Char
  | '-' :: rest => (true, rest)
  | '+' :: rest => (false, rest)
  | chars => (false, chars)

/-- Read the digits of a decimal whole number: a single zero, or digits that start with another
one. -/
def decimal? (chars : List Char) : Option (List Char × List Char) :=
  match chars with
  | '0' :: rest => some (['0'], rest)
  | chars => digits? Char.isDigit chars

/-- The digit of a base. -/
def isDigitOf (base : Nat) (char : Char) : Bool :=
  (Json.hexValue? char).any (· < base)

/-- Read a whole number behind the prefix of its base. -/
def based? (base : Nat) (chars : List Char) : Option (Value × List Char) :=
  match digits? (isDigitOf base) chars with
  | none => none
  | some (digits, rest) =>
      let value := digits.foldl
        (fun value char ↦ value * base + (Json.hexValue? char).getD 0) 0
      if value < 0x8000000000000000 then some (.integer value, rest) else none

/-- A decimal whole number, if it fits. -/
def whole? (negative : Bool) (digits : List Char) : Option Value :=
  let value := Json.digitsValue digits
  if negative then if value ≤ 0x8000000000000000 then some (.integer (-(value : Int))) else none
  else if value < 0x8000000000000000 then some (.integer value)
  else none

/-- Read an exponent. -/
def exponent? (chars : List Char) : Option (Int × List Char) :=
  match chars with
  | letter :: rest =>
      if letter = 'e' || letter = 'E' then
        let (negative, rest) := sign rest
        match digits? Char.isDigit rest with
        | some (digits, rest) =>
            let value : Int := Json.digitsValue digits
            some (if negative then -value else value, rest)
        | none => none
      else none
  | [] => none

/-- Read the places behind the point of a number. -/
def fraction? : List Char → Option (List Char × List Char)
  | '.' :: rest => digits? Char.isDigit rest
  | _ => none

/-- A floating point number from its parts. A number too large is refused; its negative is an
infinity. -/
def float? (negative : Bool) (whole places : List Char) (exponent : Int) : Option Value :=
  let value :=
    Binary64.ofDecimal negative (Json.digitsValue (whole ++ places))
      (exponent - (places.length : Int))
  if value = .infinite false then none else some (.float value)

/-- Read a number. -/
def number? (chars : List Char) : Option (Value × List Char) :=
  match chars with
  | '0' :: 'x' :: rest => based? 16 rest
  | '0' :: 'o' :: rest => based? 8 rest
  | '0' :: 'b' :: rest => based? 2 rest
  | chars =>
      let (negative, rest) := sign chars
      match rest with
      | 'i' :: 'n' :: 'f' :: rest => some (.float (.infinite negative), rest)
      | 'n' :: 'a' :: 'n' :: rest => some (.float .nan, rest)
      | rest =>
          match decimal? rest with
          | none => none
          | some (whole, rest) =>
              match fraction? rest with
              | some (places, rest) =>
                  match exponent? rest with
                  | some (exponent, rest) =>
                      (float? negative whole places exponent).map (·, rest)
                  | none => (float? negative whole places 0).map (·, rest)
              | none =>
                  match exponent? rest with
                  | some (exponent, rest) => (float? negative whole [] exponent).map (·, rest)
                  | none => (whole? negative whole).map (·, rest)

end Delimited.Toml
