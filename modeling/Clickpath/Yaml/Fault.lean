import Clickpath.Datum.Display
import Clickpath.Decimal.Reader

/-! # Faults of YAML texts

A text may break the rules of the format, or name a value that there is not: a date that is not in
the calendar, a number that is none, or a code beyond the last character.
-/

namespace Clickpath.Yaml

/-- What no moment can have. -/
inductive BadMoment where
  | year (given : Nat)
  | month
  | day
  | hour
  | minute
  | second
  | offset (shown : String)
  deriving DecidableEq, Repr

inductive Fault where
  /-- The format's rules are broken. -/
  | malformed
  /-- Too many sequences and mappings stand inside each other. -/
  | tooDeep
  /-- A code is beyond the last character. -/
  | noSuchCharacter
  /-- A code is beyond the numbers that codes are kept in. -/
  | codeTooLarge
  | badMoment (cause : BadMoment)
  /-- A text marked as a moment does not have its form. -/
  | notAMoment
  | notWhole (cause : Decimal.NotWhole)
  | notANumber (text : String)
  /-- A text marked as a number is empty. -/
  | emptyNumber
  /-- A text marked as a truth value is none. -/
  | notATruthValue (text : String)
  deriving DecidableEq, Repr

def BadMoment.message : BadMoment → String
  | year given => "year " ++ toString given ++ " is out of range"
  | month => "month must be in 1..12"
  | day => "day is out of range for month"
  | hour => "hour must be in 0..23"
  | minute => "minute must be in 0..59"
  | second => "second must be in 0..59"
  | offset shown =>
    "offset must be a timedelta strictly between -timedelta(hours=24) and timedelta(hours=24), not "
      ++ shown ++ "."

def Fault.message : Fault → String
  | malformed | tooDeep | notAMoment => ""
  | noSuchCharacter => "chr() arg not in range(0x110000)"
  | codeTooLarge => "Python int too large to convert to C int"
  | badMoment cause => cause.message
  | notWhole cause => cause.message
  | notANumber text => "could not convert string to float: " ++ Text.quoted text
  | emptyNumber => "string index out of range"
  | notATruthValue text => Text.quoted text

end Clickpath.Yaml
