/-!
# Binary floating point numbers of 64 bits

A finite number is a sign, a significand below `2 ^ 53` and an exponent of two that is at least
`-1074`. A ratio of natural numbers is rounded to the nearest of these numbers, and of two that are
equally near to the one with the even significand; a ratio too large for all of them becomes
infinite.
-/

namespace Delimited

/-- A binary floating point number of 64 bits. -/
inductive Binary64 where
  /-- Not a number. -/
  | nan
  /-- An infinity. -/
  | infinite (negative : Bool)
  /-- The number `significand * 2 ^ exponent`, or its negative. -/
  | finite (negative : Bool) (significand : Nat) (exponent : Int)
  deriving DecidableEq, Repr, Inhabited

namespace Binary64

/-- The least exponent of two. -/
def minExponent : Int := -1074

/-- The greatest exponent of two. -/
def maxExponent : Int := 971

/-- The number of bits of a significand. -/
def precision : Nat := 53

/-- Divide and round to the nearest natural number, a tie to the even one. -/
def roundDiv (num den : Nat) : Nat :=
  let quotient := num / den
  let twice := 2 * (num % den)
  if twice < den then quotient
  else if den < twice then quotient + 1
  else if quotient % 2 = 0 then quotient
  else quotient + 1

/-- The ratio `num / (den * 2 ^ exponent)` as numerator and denominator. -/
def scaled (num den : Nat) (exponent : Int) : Nat × Nat :=
  if 0 ≤ exponent then (num, den * Nat.pow 2 exponent.toNat)
  else (num * Nat.pow 2 (-exponent).toNat, den)

/-- The exponent of the greatest power of two that is at most a positive ratio. -/
def floorLog2 (num den : Nat) : Int :=
  let guess := (Nat.log2 num : Int) - Nat.log2 den
  let (above, below) := scaled num den guess
  if above < below then guess - 1 else guess

/-- The number nearest to the ratio of two natural numbers. -/
def ofRatio (negative : Bool) (num den : Nat) : Binary64 :=
  if num = 0 then .finite negative 0 minExponent
  else
    let exponent := max minExponent (floorLog2 num den - (precision - 1 : Nat))
    let (above, below) := scaled num den exponent
    let rounded := roundDiv above below
    let (significand, exponent) :=
      if rounded = Nat.pow 2 precision then (Nat.pow 2 (precision - 1), exponent + 1)
      else (rounded, exponent)
    if maxExponent < exponent then .infinite negative else .finite negative significand exponent

/-- The number of decimal digits of a natural number, one for zero. -/
def digitCount (number : Nat) : Nat :=
  (Nat.toDigits 10 number).length

/-- The number nearest to `digits * 10 ^ exponent`. Exponents far outside the range of the numbers
are settled by the place of the leading digit alone. -/
def ofDecimal (negative : Bool) (digits : Nat) (exponent : Int) : Binary64 :=
  if digits = 0 then .finite negative 0 minExponent
  else
    let place := exponent + digitCount digits
    if 400 < place then .infinite negative
    else if place < -400 then .finite negative 0 minExponent
    else if 0 ≤ exponent then ofRatio negative (digits * Nat.pow 10 exponent.toNat) 1
    else ofRatio negative digits (Nat.pow 10 (-exponent).toNat)

/-- The number nearest to `num / den * 2 ^ exponent`. -/
def ofScaledRatio (negative : Bool) (num den : Nat) (exponent : Int) : Binary64 :=
  if 0 ≤ exponent then ofRatio negative (num * Nat.pow 2 exponent.toNat) den
  else ofRatio negative num (den * Nat.pow 2 (-exponent).toNat)

/-- The product of two finite numbers, rounded. -/
def mul : Binary64 → Binary64 → Binary64
  | .finite left leftSignificand leftExponent, .finite right rightSignificand rightExponent =>
      ofScaledRatio (left != right) (leftSignificand * rightSignificand) 1
        (leftExponent + rightExponent)
  | _, _ => .nan

/-- The quotient of two finite numbers, rounded; the second is not zero. -/
def div : Binary64 → Binary64 → Binary64
  | .finite left leftSignificand leftExponent, .finite right rightSignificand rightExponent =>
      ofScaledRatio (left != right) leftSignificand rightSignificand (leftExponent - rightExponent)
  | _, _ => .nan

/-- The greatest exponent of a power of ten among the finite numbers. -/
def greatestPower : Nat := 308

/-- The number nearest to a power of ten. -/
def powerOfTen (exponent : Nat) : Binary64 :=
  ofRatio false (Nat.pow 10 exponent) 1

/-- Multiply a number below `2 ^ 64` by a power of ten, or divide it by one, with numbers that are
rounded at every step. Of a large divisor the greatest power goes first. -/
def timesPowerOfTen (number : Binary64) (exponent : Int) : Binary64 :=
  match number with
  | .finite negative significand _ =>
      if significand = 0 then number
      else if greatestPower < exponent then .infinite negative
      else if 0 ≤ exponent then number.mul (powerOfTen exponent.toNat)
      else if -(greatestPower : Int) ≤ exponent then number.div (powerOfTen (-exponent).toNat)
      else if -(2 * greatestPower : Int) ≤ exponent then
        (number.div (powerOfTen greatestPower)).div
          (powerOfTen (-exponent - greatestPower).toNat)
      else .finite negative 0 minExponent
  | _ => number

/-- The number is neither infinite nor undefined. -/
def isFinite : Binary64 → Bool
  | .finite _ _ _ => true
  | _ => false

/-- The number is zero, of either sign. -/
def isZero : Binary64 → Bool
  | .finite _ significand _ => significand == 0
  | _ => false

end Binary64

end Delimited
