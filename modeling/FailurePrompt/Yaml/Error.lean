import FailurePrompt.Text.Digit

/-!
# What is wrong with a YAML text

A YAML text is malformed, or it is well formed and holds a scalar that looks like a number, a date
or a character but is none. Both end the reading; they are kept apart because the second kind is a
bad value in a good document. A text that is nested too deep to be read counts as malformed.
-/

namespace FailurePrompt.Yaml

/-- What makes a text malformed. -/
inductive Fault
  /-- A character that may not stand in a text at all. -/
  | forbiddenCharacter (c : Char)
  /-- A character that no token begins with. -/
  | strayCharacter (c : Char)
  /-- A key that has to be followed by a colon and is not. -/
  | colonMissing
  | entryMisplaced
  | keyMisplaced
  | valueMisplaced
  | blockHeader
  | quoteOpen
  /-- A document marker within quotes. -/
  | markerQuoted
  | unknownEscape
  | directive
  /-- Anchors, aliases and tags have no use in settings and are refused. -/
  | unsupported (c : Char)
  | unexpectedToken
  | secondDocument
  /-- A list or a map in the place of a key. -/
  | compoundKey
  /-- A scalar that stands for no value. -/
  | meaninglessScalar
  /-- A tag that does not suit what it stands at; only a reader that knows tags finds it. -/
  | unsuitedTag
  /-- Collections are nested deeper than the reader follows. -/
  | tooDeep
  deriving Repr, DecidableEq

/-- A bad value in a well-formed document. -/
inductive BadScalar
  | numeral (e : Text.Numeral.TooLong)
  | digitsMissing (base : Nat)
  | year
  | month
  | day
  | hour
  | minute
  | second
  /-- The distance from universal time is a day or more; it is given in minutes. -/
  | offset (minutes : Int)
  /-- The number of an escaped character is beyond the last character. -/
  | character
  /-- The number of an escaped character does not even fit into 31 bits. -/
  | hugeCharacter
  deriving Repr, DecidableEq

/-- Why a text could not be read. -/
inductive Error
  | malformed (fault : Fault)
  | badScalar (e : BadScalar)
  deriving Repr, DecidableEq

/-- The wording of a fault. -/
def Fault.message : Fault → String
  | .forbiddenCharacter _ => "special characters are not allowed"
  | .strayCharacter _ => "found a character that cannot start any token"
  | .colonMissing => "could not find the colon after a key"
  | .entryMisplaced => "sequence entries are not allowed here"
  | .keyMisplaced => "mapping keys are not allowed here"
  | .valueMisplaced => "mapping values are not allowed here"
  | .blockHeader => "expected chomping or indentation indicators"
  | .quoteOpen => "found unexpected end of stream in a quoted scalar"
  | .markerQuoted => "found unexpected document separator in a quoted scalar"
  | .unknownEscape => "found unknown escape character"
  | .directive => "could not read a directive"
  | .unsupported _ => "anchors, aliases and tags are not supported"
  | .unexpectedToken => "found an unexpected token"
  | .secondDocument => "expected a single document in the stream"
  | .compoundKey => "found unhashable key"
  | .meaninglessScalar => "could not determine a value for a scalar"
  | .unsuitedTag => "a tag does not suit its value"
  | .tooDeep => "maximum recursion depth exceeded"

/-- A length of time in days and seconds, the days rounded down; seconds are left out if there are
none. -/
def durationText (minutes : Int) : String :=
  let days := minutes.fdiv 1440
  let seconds := minutes.fmod 1440 * 60
  if seconds = 0 then s!"datetime.timedelta(days={days})"
  else s!"datetime.timedelta(days={days}, seconds={seconds})"

/-- The wording of a bad value. -/
def BadScalar.message : BadScalar → String
  | .numeral e => e.message
  | .digitsMissing base => s!"invalid literal for int() with base {base}: ''"
  | .year => "year 0 is out of range"
  | .month => "month must be in 1..12"
  | .day => "day is out of range for month"
  | .hour => "hour must be in 0..23"
  | .minute => "minute must be in 0..59"
  | .second => "second must be in 0..59"
  | .offset minutes =>
    let given := durationText minutes
    "offset must be a timedelta strictly between " ++
      s!"-timedelta(hours=24) and timedelta(hours=24), not {given}."
  | .character => "chr() arg not in range(0x110000)"
  | .hugeCharacter => "Python int too large to convert to C int"

/-- The wording of an error. -/
def Error.message : Error → String
  | .malformed fault => fault.message
  | .badScalar e => e.message

end FailurePrompt.Yaml
