import FailurePrompt.Yaml.Scalar.Moment
import FailurePrompt.Text.Lines
import FailurePrompt.Value.Basic

/-!
# The meaning of scalars

A scalar in quotes is a text. A plain one may be null, a truth value, an integer in one of several
notations, a decimal or a date; if it is none of these, it is a text as well. The notations
are tried one after another, the words first.
-/

namespace FailurePrompt.Yaml.Scalar

/-- A decimal digit. -/
def isDigit (c : Char) : Bool := Moment.isDigit c

/-- A decimal digit or an underscore, which may stand between digits. -/
def isSpacedDigit (c : Char) : Bool := isDigit c || c == '_'

/-- The digits without the underscores between them. -/
def withoutUnderscores (cs : List Char) : List Char := cs.filter (· != '_')

/-- A sign, which may be missing. -/
def sign : List Char → Bool × List Char
  | '-' :: rest => (true, rest)
  | '+' :: rest => (false, rest)
  | cs => (false, cs)

/-! ### Words -/

/-- The words for null and the truth values; the empty scalar is null. -/
def words : List (String × Value) :=
  [("", .null), ("~", .null), ("null", .null), ("Null", .null), ("NULL", .null),
   ("yes", .bool true), ("Yes", .bool true), ("YES", .bool true),
   ("no", .bool false), ("No", .bool false), ("NO", .bool false),
   ("true", .bool true), ("True", .bool true), ("TRUE", .bool true),
   ("false", .bool false), ("False", .bool false), ("FALSE", .bool false),
   ("on", .bool true), ("On", .bool true), ("ON", .bool true),
   ("off", .bool false), ("Off", .bool false), ("OFF", .bool false)]

/-! ### Base sixty -/

/-- A place after the first in a number of base sixty: a number below sixty. -/
def isSixtieth : List Char → Bool
  | [a] => isDigit a
  | [a, b] => isDigit a && a ≤ '5' && isDigit b
  | _ => false

/-- The places of a number of base sixty, which colons separate; there are two at least. -/
def sixtieths? (cs : List Char) : Option (List Char × List (List Char)) :=
  match Text.segments (· == ':') cs with
  | first :: second :: more =>
    if (second :: more).all isSixtieth then some (first, second :: more) else none
  | _ => none

/-! ### Integers -/

/-- The digits after a sign for their base, if there is something and nothing else. -/
def digitsAfter? (start : List Char) (isDigit : Char → Bool) (cs : List Char) :
    Option (List Char) :=
  if start.isPrefixOf cs then
    let digits := cs.drop start.length
    if digits ≠ [] ∧ digits.all (fun c => isDigit c || c == '_') then
      some (withoutUnderscores digits)
    else none
  else none

/-- The number that digits in a base denote. -/
def natOfDigits (base : Nat) (digits : List Char) : Except BadScalar Nat :=
  if digits = [] then .error (.digitsMissing base) else .ok (Number.natOfBase base digits)

/-- The number that decimal digits denote. -/
def natOfDecimal (digits : List Char) : Except BadScalar Nat :=
  match Text.Numeral.read digits with
  | .ok n => .ok n
  | .error e => .error (.numeral e)

/-- The digits of a decimal integer: a zero alone, or digits that begin with another one. -/
def decimalDigits? : List Char → Option (List Char)
  | ['0'] => some ['0']
  | c :: rest =>
    if isDigit c && c != '0' && rest.all isSpacedDigit then
      some (c :: withoutUnderscores rest)
    else none
  | [] => none

/-- An integer without a sign, in binary, hexadecimal, octal or decimal notation or in base
sixty. -/
def natural? (cs : List Char) : Option (Except BadScalar Nat) :=
  match digitsAfter? ['0', 'b'] (fun c => c == '0' || c == '1') cs,
      digitsAfter? ['0', 'x'] (fun c => (Number.baseDigit? c).isSome) cs,
      digitsAfter? ['0'] (fun c => '0' ≤ c && c ≤ '7') cs with
  | some digits, _, _ => some (natOfDigits 2 digits)
  | none, some digits, _ => some (natOfDigits 16 digits)
  | none, none, some digits => some (.ok (Number.natOfBase 8 digits))
  | none, none, none =>
    match decimalDigits? cs, sixtieths? cs with
    | some digits, _ => some (natOfDecimal digits)
    | none, some (first, more) =>
      match decimalDigits? first with
      | none => none
      | some digits =>
        if digits = ['0'] then none
        else some ((natOfDecimal digits).map fun n =>
          more.foldl (fun n place => 60 * n + Number.natOfBase 10 place) n)
    | none, none => none

/-- An integer. -/
def integer? (cs : List Char) : Option (Except BadScalar Int) :=
  let (negative, magnitude) := sign cs
  (natural? magnitude).map (·.map (Number.signed negative))

/-! ### Decimals -/

/-- The exponent with which a text ends, zero if there is none. Its sign is required. -/
def exponent? : List Char → Option Int
  | [] => some 0
  | e :: s :: digits =>
    if (e = 'e' ∨ e = 'E') ∧ (s = '+' ∨ s = '-') ∧ digits ≠ [] ∧ digits.all isDigit then
      some (Number.signed (s == '-') (Number.natOfBase 10 digits))
    else none
  | _ => none

/-- The digits before a point and the text after it. -/
def atPoint? (cs : List Char) : Option (List Char × List Char) :=
  match cs.dropWhile isSpacedDigit with
  | '.' :: rest => some (cs.takeWhile isSpacedDigit, rest)
  | _ => none

/-- A decimal in the usual notation. Its whole part may only be missing if it has no sign. -/
def decimal? (cs : List Char) : Option Float :=
  let (negative, magnitude) := sign cs
  match atPoint? magnitude with
  | none => none
  | some (whole, rest) =>
    let fraction := rest.takeWhile isSpacedDigit
    let leads :=
      if whole = [] then magnitude = cs ∧ fraction.head?.any isDigit
      else whole.head?.any isDigit
    if leads then
      (exponent? (rest.dropWhile isSpacedDigit)).map fun exponent =>
        Number.floatOfParts negative (withoutUnderscores whole) (withoutUnderscores fraction)
          exponent
    else none

/-- A decimal in base sixty: the last place may have a fraction. -/
def sixtiethDecimal? (cs : List Char) : Option Float :=
  let (negative, magnitude) := sign cs
  let fraction := (magnitude.dropWhile (· != '.')).drop 1
  match magnitude.contains '.', sixtieths? (magnitude.takeWhile (· != '.')) with
  | true, some (first, more) =>
    if first.head?.any isDigit && first.all isSpacedDigit && fraction.all isSpacedDigit then
      let whole := more.foldl (fun x place => 60.0 * x + Number.floatOfParts false place [] 0)
        (Number.floatOfParts false (withoutUnderscores first) [] 0)
      let x := whole + Number.floatOfParts false [] (withoutUnderscores fraction) 0
      some (if negative then -x else x)
    else none
  | _, _ => none

/-- The decimals that are no numbers and the infinite ones. -/
def specialDecimal? (cs : List Char) : Option Float :=
  let (negative, magnitude) := sign cs
  if [".inf", ".Inf", ".INF"].contains (String.ofList magnitude) then
    some (if negative then -1.0 / 0.0 else 1.0 / 0.0)
  else if [".nan", ".NaN", ".NAN"].contains (String.ofList cs) then some (0.0 / 0.0)
  else none

/-- A decimal. -/
def float? (cs : List Char) : Option Float :=
  (decimal? cs).or ((sixtiethDecimal? cs).or (specialDecimal? cs))

/-! ### All plain scalars -/

/-- The plain scalars that have a meaning to a document but are no values. -/
def isMeaningless (cs : List Char) : Bool := cs = ['='] || cs = ['<', '<']

/-- The value of a plain scalar. -/
def plainMeaning (cs : List Char) : Except Error Value :=
  if isMeaningless cs then .error (.malformed .meaninglessScalar)
  else
    match words.lookup (String.ofList cs), integer? cs, float? cs, Moment.read? cs with
    | some v, _, _, _ => .ok v
    | none, some (.ok n), _, _ => .ok (.int n)
    | none, some (.error e), _, _ => .error (.badScalar e)
    | none, none, some x, _ => .ok (.float x)
    | none, none, none, some none => .ok .moment
    | none, none, none, some (some e) => .error (.badScalar e)
    | none, none, none, none => .ok (.text (String.ofList cs))

/-- The value of a scalar. -/
def meaning (plain : Bool) (cs : List Char) : Except Error Value :=
  if plain then plainMeaning cs else .ok (.text (String.ofList cs))

end FailurePrompt.Yaml.Scalar
