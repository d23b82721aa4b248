import FailurePrompt.Settings.Basic
import FailurePrompt.Settings.Checked
import FailurePrompt.Text.Blank
import FailurePrompt.Value.Number

/-!
# Coercions

Settings arrive as dynamic values, which are read as booleans, strings, paths, integers, lists of
strings and names out of several. A value that is not of the type that is asked for may still be
read as one: a text as the number that is written in it, a word as a boolean. `Coercions` holds the
ways to read values, and those of this module unless others are given.
-/

namespace FailurePrompt

namespace Check

open Checked

/-! ### Booleans and strings -/

/-- The words that are read as a boolean, in any case. -/
def booleanWords : List (String × Bool) :=
  [("0", false), ("off", false), ("f", false), ("false", false), ("n", false), ("no", false),
   ("1", true), ("on", true), ("t", true), ("true", true), ("y", true), ("yes", true)]

/-- Reads a boolean: a truth value, zero or one, or a word for either. -/
def boolean : Value → Checked Bool
  | .bool b => .ok b
  | .int n => if n = 0 then .ok false else if n = 1 then .ok true else complain .unclearBoolean
  | .float x =>
    if x == 0.0 then .ok false
    else if x == 1.0 then .ok true
    else if x.isFinite && x.floor == x then complain .unclearBoolean
    else complain .notBoolean
  | .text s =>
    match booleanWords.lookup s.toLower with
    | some b => .ok b
    | none => complain .unclearBoolean
  | _ => complain .notBoolean

/-- Reads a string. -/
def string : Value → Checked String
  | .text s => .ok s
  | _ => complain .notString

/-- Reads a path, which may be missing. -/
def path : Value → Checked (Option Path)
  | .null => .ok none
  | .text s => .ok (some (Path.ofString s))
  | _ => complain .notPath

/-! ### Integers -/

/-- White space that may surround a written integer: all but the information separators. -/
def isMargin (c : Char) : Bool := Text.isBlank c && !(0x1C ≤ c.toNat && c.toNat ≤ 0x1F)

/-- The sign of a written integer. -/
def sign : List Char → Bool × List Char
  | '-' :: rest => (true, rest)
  | '+' :: rest => (false, rest)
  | cs => (false, cs)

/-- An ASCII digit. -/
def isDigit (c : Char) : Bool := '0' ≤ c && c ≤ '9'

/-- The digits of a written integer, which single underscores may separate. -/
def plainDigits? : List Char → Option (List Char)
  | [] => none
  | [c] => if isDigit c then some [c] else none
  | c :: '_' :: rest => if isDigit c then (plainDigits? rest).map (c :: ·) else none
  | c :: rest => if isDigit c then (plainDigits? rest).map (c :: ·) else none

/-- A written integer without a fraction that is zero. -/
def withoutZeroFraction (cs : List Char) : List Char :=
  let whole := cs.takeWhile (· ≠ '.')
  match cs.dropWhile (· ≠ '.') with
  | '.' :: '0' :: zeros => if zeros.all (· == '0') then whole else cs
  | _ => cs

/-- Reads a written integer. -/
def writtenInteger (s : String) : Checked Int :=
  let cs := ((s.toList.dropWhile isMargin).reverse.dropWhile isMargin).reverse
  if Text.Numeral.maxDigits < cs.length then complain .overlongInteger
  else
    let (negative, digits) := sign (withoutZeroFraction cs)
    match plainDigits? digits with
    | some digits => .ok (Number.signed negative (Number.natOfBase 10 digits))
    | none => complain .unclearInteger

/-- The integer that a floating-point number without a fraction is. -/
def integerOfFloat (x : Float) : Int :=
  if x < 0.0 then -((-x).toUInt64.toNat : Int) else x.toUInt64.toNat

/-- Reads an integer: a number without a fraction, a truth value, or a text that is one. -/
def integer : Value → Checked Int
  | .bool b => .ok (if b then 1 else 0)
  | .int n => .ok n
  | .float x =>
    if !x.isFinite then complain .infiniteInteger
    else if x.floor != x then complain .fractionalInteger
    else if x.abs < 9223372036854775808.0 then .ok (integerOfFloat x)
    else complain .overlongInteger
  | .text s => writtenInteger s
  | _ => complain .notInteger

/-! ### Lists and names -/

/-- Reads the items of a list, counting from `i`. -/
def strings (i : Nat) : List Value → Checked (List String)
  | [] => .ok []
  | v :: vs => ((under (.index i) (string v)).both (strings (i + 1) vs)).map fun p => p.1 :: p.2

/-- Reads a list of strings. -/
def stringList : Value → Checked (List String)
  | .list items => strings 0 items
  | _ => complain .notList

/-- Reads one of several names, which must be exact. -/
def literal (names : List String) : Value → Checked String
  | .text s => if s ∈ names then .ok s else complain (.notAmong names)
  | _ => complain (.notAmong names)

end Check

/-- The ways to read dynamic values as what settings are made of. A value need not be written in the
type that it is read as. -/
structure Coercions where
  boolean : Value → Checked Bool := Check.boolean
  string : Value → Checked String := Check.string
  /-- Reads a path, which may be missing. -/
  path : Value → Checked (Option Path) := Check.path
  integer : Value → Checked Int := Check.integer
  stringList : Value → Checked (List String) := Check.stringList
  /-- Reads one of several names. -/
  literal : List String → Value → Checked String := Check.literal

end FailurePrompt
