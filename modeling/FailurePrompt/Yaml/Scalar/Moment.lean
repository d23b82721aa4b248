import FailurePrompt.Yaml.Error
import FailurePrompt.Value.Number

/-!
# Dates and moments

A plain scalar may be a calendar date, or a date with a time of day and a distance from universal
time. Settings have no use for either, so no value is kept, but a date that does not exist is an
error.
-/

namespace FailurePrompt.Yaml.Moment

/-- A decimal digit. -/
def isDigit (c : Char) : Bool := '0' ≤ c && c ≤ '9'

/-- The number at the beginning of a text, written with a number of digits in a given range. -/
def number? (least most : Nat) (cs : List Char) : Option (Nat × List Char) :=
  let digits := (cs.take most).takeWhile isDigit
  if least ≤ digits.length then
    some (Number.natOfBase 10 digits, cs.drop digits.length)
  else none

/-- The text after a character that must come first. -/
def after? (c : Char) : List Char → Option (List Char)
  | d :: rest => if d = c then some rest else none
  | [] => none

/-- A year has a day in February more than others. -/
def isLeap (year : Nat) : Bool := year % 4 = 0 && (year % 100 ≠ 0 || year % 400 = 0)

/-- The number of days of a month. -/
def daysIn (year month : Nat) : Nat :=
  if month = 2 then (if isLeap year then 29 else 28)
  else if [4, 6, 9, 11].contains month then 30
  else 31

/-- What is wrong with a date. -/
def dateFault? (year month day : Nat) : Option BadScalar :=
  if year = 0 then some .year
  else if month < 1 ∨ 12 < month then some .month
  else if day < 1 ∨ daysIn year month < day then some .day
  else none

/-- What is wrong with a time of day. -/
def timeFault? (hour minute second : Nat) : Option BadScalar :=
  if 23 < hour then some .hour
  else if 59 < minute then some .minute
  else if 59 < second then some .second
  else none

/-- What is wrong with a distance from universal time in minutes. -/
def offsetFault? (minutes : Int) : Option BadScalar :=
  if minutes.natAbs < 24 * 60 then none else some (.offset minutes)

/-! ### Reading -/

/-- The distance from universal time with which a text ends, in minutes. -/
def offset? : List Char → Option Int
  | [] => some 0
  | ['Z'] => some 0
  | sign :: rest =>
    if sign = '+' ∨ sign = '-' then
      match number? 1 2 rest with
      | none => none
      | some (hours, rest) =>
        let minutes? : Option Nat :=
          if rest = [] then some 0
          else
            match (after? ':' rest).bind (number? 2 2) with
            | some (minutes, []) => some minutes
            | _ => none
        minutes?.map fun minutes => Number.signed (sign == '-') (60 * hours + minutes)
    else none

/-- The text after a fraction of a second, if there is one. -/
def withoutFraction : List Char → List Char
  | '.' :: rest => rest.dropWhile isDigit
  | cs => cs

/-- A space or a tab. -/
def isSpace (c : Char) : Bool := c == ' ' || c == '\t'

/-- The text after what separates a date from a time. -/
def afterSeparator? : List Char → Option (List Char)
  | c :: rest =>
    if c = 'T' ∨ c = 't' then some rest
    else if isSpace c then some (rest.dropWhile isSpace)
    else none
  | [] => none

/-- The time of day with which a text ends, with the distance from universal time. -/
def time? (cs : List Char) : Option (Nat × Nat × Nat × Int) :=
  match number? 1 2 cs with
  | none => none
  | some (hour, rest) =>
    match (after? ':' rest).bind (number? 2 2) with
    | none => none
    | some (minute, rest) =>
      match (after? ':' rest).bind (number? 2 2) with
      | none => none
      | some (second, rest) =>
        let zone := withoutFraction rest
        let spaced := zone.dropWhile isSpace
        if zone ≠ [] ∧ spaced = [] then none
        else (offset? spaced).map fun offset => (hour, minute, second, offset)

/-- Reads a date, or a date with a time. The answer is what is wrong with it, if anything is. -/
def read? (cs : List Char) : Option (Option BadScalar) :=
  match number? 4 4 cs with
  | none => none
  | some (year, rest) =>
    match (after? '-' rest).bind (number? 1 2) with
    | none => none
    | some (month, rest') =>
      match (after? '-' rest').bind (number? 1 2) with
      | none => none
      | some (day, []) =>
        if cs.length = 10 then some (dateFault? year month day) else none
      | some (day, rest'') =>
        match (afterSeparator? rest'').bind time? with
        | none => none
        | some (hour, minute, second, offset) =>
          some ((offsetFault? offset).or
            ((dateFault? year month day).or (timeFault? hour minute second)))

end FailurePrompt.Yaml.Moment
