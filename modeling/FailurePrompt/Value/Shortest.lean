/-!
# Shortest decimal text of a floating-point number

A floating-point number is shown by the fewest decimal digits that read back as it. Its value is
`mantissa · 2 ^ exponent`, and the reals that round to it form an interval around that value,
with its ends when the mantissa is even. For one digit, two digits and so on the two neighbours
of the value on that decimal grid are tested, in exact arithmetic; the first grid with a hit
wins, and of two hits the nearer one, or the even one if they are equally near. The text is
positional for values from a ten-thousandth up to ten to the sixteenth, and has an exponent
outside.
-/

namespace FailurePrompt

/-- A finite positive floating-point number taken apart. -/
structure BinaryFloat where
  mantissa : Nat
  exponent : Int
  /-- The number is the least one of its binade, so its lower neighbour is nearer. -/
  atBinadeStart : Bool
  deriving Repr, DecidableEq

/-- Decimal digits with the exponent of the last one. -/
structure DecimalDigits where
  digits : Nat
  exponent : Int
  deriving Repr, DecidableEq

namespace BinaryFloat

/-- The leading bit of a mantissa, which is not stored. -/
def hiddenBit : Nat := 4503599627370496

/-- The bit that negative numbers have. -/
def signBit : Nat := 9223372036854775808

/-- Takes the bits of a number apart, the sign left out; there is nothing to take apart in what is
infinite or no number. -/
def ofBits? (bits : UInt64) : Option BinaryFloat :=
  let fraction := bits.toNat % hiddenBit
  let biased := bits.toNat / hiddenBit % 2048
  if biased = 2047 then none
  else if biased = 0 then some ⟨fraction, -1074, false⟩
  else some ⟨hiddenBit + fraction, (biased : Int) - 1075, fraction = 0 && biased > 1⟩

/-- A positive rational as numerator and denominator. -/
abbrev Ratio := Nat × Nat

/-- A natural number times a power of two. -/
def scaleTwo (n : Nat) (exponent : Int) : Ratio :=
  if exponent < 0 then (n, Nat.pow 2 exponent.natAbs) else (n * Nat.pow 2 exponent.natAbs, 1)

/-- A rational divided by a power of ten. -/
def divTen (r : Ratio) (exponent : Int) : Ratio :=
  let power := Nat.pow 10 exponent.natAbs
  if exponent < 0 then (r.1 * power, r.2) else (r.1, r.2 * power)

/-- The decimal exponent of the leading digit of a positive rational. -/
def leadingExponent (r : Ratio) : Int :=
  if r.2 ≤ r.1 then
    ((Nat.toDigits 10 (r.1 / r.2)).length : Int) - 1
  else
    let guess : Int := (Nat.toDigits 10 (r.2 / r.1)).length
    if r.2 ≤ r.1 * Nat.pow 10 (guess.toNat - 1) then -(guess - 1) else -guess

/-- The decimal with a given number of digits that reads back as the number, if there is one. -/
def withDigits? (x : BinaryFloat) (count : Nat) : Option DecimalDigits :=
  -- The ends of the interval lie on quarters of the last place of the mantissa.
  let quarter := fun n => scaleTwo n (x.exponent - 2)
  let value := quarter (4 * x.mantissa)
  let low := quarter (4 * x.mantissa - if x.atBinadeStart then 1 else 2)
  let high := quarter (4 * x.mantissa + 2)
  let grid := leadingExponent value - (count : Int) + 1
  let v := divTen value grid
  let below := v.1 / v.2
  let inside := fun d : Nat =>
    let l := divTen low grid
    let h := divTen high grid
    if x.mantissa % 2 = 0 then l.1 ≤ d * l.2 && d * h.2 ≤ h.1
    else l.1 < d * l.2 && d * h.2 < h.1
  let middle := (2 * below + 1) * v.2
  let takesBelow := 2 * v.1 < middle || (2 * v.1 == middle && below % 2 == 0)
  match inside below && 0 < below, inside (below + 1) with
  | true, true => some ⟨if takesBelow then below else below + 1, grid⟩
  | true, false => some ⟨below, grid⟩
  | false, true => some ⟨below + 1, grid⟩
  | false, false => none

/-- The fewest digits that read back as the number; seventeen always suffice. -/
def shortest (x : BinaryFloat) : DecimalDigits :=
  ((List.range 17).findSome? fun n => x.withDigits? (n + 1)).getD ⟨x.mantissa, 0⟩

end BinaryFloat

namespace DecimalDigits

/-- The digits as text, without zeros at the end, and the position of the decimal point counted
from the first digit. -/
def placed (d : DecimalDigits) : List Char × Int :=
  let all := Nat.toDigits 10 d.digits
  ((all.reverse.dropWhile (· == '0')).reverse, all.length + d.exponent)

/-- The text of the digits, positional where the point lies within or near them. -/
def text (d : DecimalDigits) : List Char :=
  let (digits, point) := d.placed
  if -4 < point ∧ point ≤ 16 then
    if point ≤ 0 then '0' :: '.' :: List.replicate point.natAbs '0' ++ digits
    else if digits.length ≤ point.natAbs then
      digits ++ List.replicate (point.natAbs - digits.length) '0' ++ ['.', '0']
    else digits.take point.natAbs ++ '.' :: digits.drop point.natAbs
  else
    let exponent := point - 1
    let power := Nat.toDigits 10 exponent.natAbs
    let padded := if power.length < 2 then '0' :: power else power
    let mantissa := match digits with
      | first :: [] => [first]
      | first :: rest => first :: '.' :: rest
      | [] => ['0']
    mantissa ++ ['e', if exponent < 0 then '-' else '+'] ++ padded

end DecimalDigits

/-- The shortest text of a floating-point number. -/
def floatText (x : Float) : String :=
  if x.isNaN then "nan"
  else
    let sign := if x.toBits.toNat < BinaryFloat.signBit then "" else "-"
    let size := match BinaryFloat.ofBits? x.toBits with
      | none => "inf"
      | some b => if b.mantissa = 0 then "0.0" else String.ofList b.shortest.text
    sign ++ size

end FailurePrompt
