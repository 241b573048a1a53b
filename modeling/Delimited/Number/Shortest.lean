import Delimited.Number.Binary64

/-!
# The shortest decimal that reads back

The decimal text of a floating point number has the fewest digits with which it reads back as the same
number, and of these the digits nearest to it. The numbers that read back as `m * 2 ^ q` fill an
interval around it, half way to its neighbours on both sides; the ends belong to it if `m` is even.
On the grid of decimals with a given number of digits only the two neighbours of the number need be
tested. Where it lies half way between them, a rule for ties decides.
-/

namespace Delimited

/-- A decimal `digits * 10 ^ exponent`. -/
structure Decimal where
  digits : Nat
  exponent : Int
  deriving DecidableEq, Repr

/-- Which of two neighbouring decimals is taken for a number half way between them. -/
inductive Tie where
  /-- The one whose last digit is even. -/
  | even
  /-- The greater one. -/
  | up
  deriving DecidableEq, Repr

/-- How decimal texts of floating point numbers are laid out. The point stands behind the digit of
place zero; places outside the bounds ask for an exponent. -/
structure FloatLayout where
  /-- The least place of the leading digit that is still written without exponent. -/
  leastPlace : Option Int
  /-- The greatest place of the leading digit that is still written without exponent. -/
  greatestPlace : Option Int
  /-- The sign in front of an exponent that is not negative. -/
  plusSign : String := ""
  /-- The decimal taken for a number half way between two. -/
  tie : Tie

namespace Binary64

/-- Compare two ratios of natural numbers. -/
def ratioLt (left right : Nat × Nat) : Bool :=
  left.1 * right.2 < right.1 * left.2

/-- The ratio `num * 2 ^ two / 10 ^ ten`. -/
def ratioAt (num : Nat) (two ten : Int) : Nat × Nat :=
  let num := if 0 ≤ two then num * Nat.pow 2 two.toNat else num
  let den := if 0 ≤ two then 1 else Nat.pow 2 (-two).toNat
  if 0 ≤ ten then (num, den * Nat.pow 10 ten.toNat) else (num * Nat.pow 10 (-ten).toNat, den)

/-- Whether `candidate` lies in the interval around a positive number when everything is measured in
units of `10 ^ ten`. -/
def readsBack (significand : Nat) (exponent ten : Int) (candidate : Nat) : Bool :=
  let unit := ratioAt 1 (exponent - 2) ten
  let lowSteps :=
    if significand = Nat.pow 2 (precision - 1) && minExponent < exponent then 4 * significand - 1
    else 4 * significand - 2
  let low := (lowSteps * unit.1, unit.2)
  let high := ((4 * significand + 2) * unit.1, unit.2)
  let point := (candidate, 1)
  if significand % 2 = 0 then !ratioLt point low && !ratioLt high point
  else ratioLt low point && ratioLt point high

/-- Whether the greater of two neighbouring decimals is taken, given the lesser one and the ratio by
which the number exceeds it. -/
def takesAbove (tie : Tie) (below : Nat) (rest : Nat × Nat) : Bool :=
  rest.2 < 2 * rest.1 || (2 * rest.1 = rest.2 && (tie = .up || below % 2 = 1))

/-- The decimal of at most `count` digits that reads back as a positive number, if there is one. -/
def decimalOf? (tie : Tie) (significand : Nat) (exponent leading : Int) (count : Nat) : Option Decimal :=
  let ten := leading - (count - 1 : Nat)
  let value := ratioAt significand exponent ten
  let below := value.1 / value.2
  let above := below + 1
  let belowFits := below != 0 && readsBack significand exponent ten below
  let aboveFits := readsBack significand exponent ten above
  if belowFits && aboveFits then
    some ⟨if takesAbove tie below (value.1 % value.2, value.2) then above else below, ten⟩
  else if belowFits then some ⟨below, ten⟩
  else if aboveFits then some ⟨above, ten⟩
  else none

/-- The place of the leading decimal digit of a positive number; the search starts at a place that is
too high and goes down. -/
def leadingPlace (significand : Nat) (exponent : Int) : Nat → Int → Int
  | 0, place => place
  | fuel + 1, place =>
      let value := ratioAt significand exponent place
      if value.1 < value.2 then leadingPlace significand exponent fuel (place - 1) else place

/-- Drop the zeros at the end of the digits. -/
def dropZeros : Nat → Decimal → Decimal
  | 0, decimal => decimal
  | fuel + 1, decimal =>
      if decimal.digits % 10 = 0 && decimal.digits != 0 then
        dropZeros fuel ⟨decimal.digits / 10, decimal.exponent + 1⟩
      else decimal

/-- The shortest decimal that reads back as a positive number. -/
def shortest (tie : Tie) (significand : Nat) (exponent : Int) : Decimal :=
  let leading := leadingPlace significand exponent 700 310
  match (List.range 17).findSome? fun count ↦
      decimalOf? tie significand exponent leading (count + 1) with
  | some decimal => dropZeros 20 decimal
  | none => ⟨significand, exponent⟩

/-- Write digits with the point behind the place of the units. -/
def positional (decimal : Decimal) : String :=
  let digits := Nat.toDigits 10 decimal.digits
  if 0 ≤ decimal.exponent then
    String.ofList (digits ++ List.replicate decimal.exponent.toNat '0') ++ ".0"
  else
    let places := (-decimal.exponent).toNat
    let padded := List.replicate (places + 1 - digits.length) '0' ++ digits
    String.ofList (padded.take (padded.length - places)) ++ "." ++
      String.ofList (padded.drop (padded.length - places))

/-- Write digits with the point behind the first of them and an exponent, with a sign of its own if it
is not negative. -/
def scientific (plusSign : String) (decimal : Decimal) : String :=
  let digits := Nat.toDigits 10 decimal.digits
  let exponent := decimal.exponent + digits.length - 1
  let fraction := digits.drop 1
  String.ofList (digits.take 1) ++
    (if fraction.isEmpty then "" else "." ++ String.ofList fraction) ++ "e" ++
      (if exponent < 0 then "" else plusSign) ++ toString exponent

/-- The text of a number in a layout. -/
def render (layout : FloatLayout) : Binary64 → String
  | .nan => "NaN"
  | .infinite negative => (if negative then "-" else "") ++ "inf"
  | .finite negative significand exponent =>
      let sign := if negative then "-" else ""
      if significand = 0 then sign ++ "0.0"
      else
        let decimal := shortest layout.tie significand exponent
        let leading := decimal.exponent + digitCount decimal.digits - 1
        let tooSmall := layout.leastPlace.any (leading < ·)
        let tooLarge := layout.greatestPlace.any (· < leading)
        sign ++
          if tooSmall || tooLarge then scientific layout.plusSign decimal else positional decimal

end Binary64

end Delimited
