import FailurePrompt.Text.Digit
import FailurePrompt.Value.Basic

/-!
# Written numbers

Integers are written in a base, decimals with a point or an exponent. These readers take digits
that a grammar has already found to be well formed. An exponent far beyond the range of
floating-point numbers is cut off before any power is computed.
-/

namespace FailurePrompt.Number

/-- The value of a digit in a base of at most sixteen, in either case. -/
def baseDigit? (c : Char) : Option Nat :=
  if '0' ≤ c ∧ c ≤ '9' then some (c.toNat - '0'.toNat)
  else if 'a' ≤ c ∧ c ≤ 'f' then some (c.toNat - 'a'.toNat + 10)
  else if 'A' ≤ c ∧ c ≤ 'F' then some (c.toNat - 'A'.toNat + 10)
  else none

/-- The number that digits denote in a base. -/
def natOfBase (base : Nat) (digits : List Char) : Nat :=
  digits.foldl (fun n c => base * n + (baseDigit? c).getD 0) 0

/-- The largest decimal exponent that needs to be looked at, counted from the first digit. -/
def maxExponent : Int := 400

/-- The floating-point number nearest to `mantissa · 10 ^ exponent`, where the mantissa is written
with `width` digits. -/
def floatOfDecimal (mantissa width : Nat) (exponent : Int) : Float :=
  if mantissa = 0 then 0.0
  else if maxExponent < (width : Int) + exponent then 1.0 / 0.0
  else if (width : Int) + exponent < -maxExponent then 0.0
  else Float.ofScientific mantissa (decide (exponent < 0)) exponent.natAbs

/-- The number written with digits before and after a point and an exponent. -/
def floatOfParts (negative : Bool) (whole fraction : List Char) (exponent : Int) : Float :=
  let digits := (whole ++ fraction).dropWhile (· == '0')
  let x := floatOfDecimal (natOfBase 10 digits) digits.length (exponent - fraction.length)
  if negative then -x else x

/-- A signed number. -/
def signed (negative : Bool) (n : Nat) : Int :=
  if negative then -(n : Int) else n

end FailurePrompt.Number
