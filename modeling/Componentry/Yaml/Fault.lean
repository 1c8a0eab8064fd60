import Componentry.Text.Digits
import Componentry.Text.Quoted

/-!
Why no value can be made of a YAML text.
-/
namespace Componentry.Yaml
open Componentry.Text

/-- The part of a point in time that is out of its range. -/
inductive TimeFault where
  /-- Minutes ahead of universal time, a day or more. -/
  | offset (minutes : Int)
  | year (n : Nat)
  | month
  | day
  | hour
  | minute
  | second
  deriving DecidableEq, Repr

/-- A text has the form of its kind, or a tag for it, but stands for nothing of that kind. -/
inductive ScalarFault where
  | bool (s : Text)
  | noDigits
  | int (base : Nat) (s : Text)
  /-- A decimal numeral of too many digits. -/
  | longInt (digits : Nat)
  /-- A number of too many digits to be shown. -/
  | longText
  | float (s : Text)
  /-- A sum of sixtieths of which one unit is too large. -/
  | longFloat
  | timestamp
  /-- A map in the place of a point in time. -/
  | timestampOfMap
  | time (part : TimeFault)
  /-- The number of an escape, beyond the last character. -/
  | codePoint (n : Nat)
  deriving DecidableEq, Repr

inductive Fault where
  | unprintable (c : Char)
  | character (c : Char)
  | unfinished
  | missingColon
  | notHere (what : Text)
  | escape
  | directive
  | name
  | tag
  | content
  | alias (name : Text)
  | anchor (name : Text)
  | secondDocument
  | value
  | scalar (why : ScalarFault)
  deriving DecidableEq, Repr

/-- A length of time in days and seconds. -/
def shownSpan (minutes : Int) : Text :=
  let days := minutes.fdiv 1440
  let seconds := minutes.fmod 1440 * 60
  let parts : List Text :=
    (if days = 0 then [] else ["days=" ++ ofInt days]) ++
      (if seconds = 0 then [] else ["seconds=" ++ ofInt seconds])
  "datetime.timedelta(" ++ joinWith ", " parts ++ [')']

def TimeFault.message : TimeFault → Text
  | .offset minutes =>
    "offset must be a timedelta strictly between -timedelta(hours=24) and timedelta(hours=24), not " ++
      shownSpan minutes ++ ['.']
  | .year n => "year " ++ ofNat n ++ " is out of range"
  | .month => "month must be in 1..12"
  | .day => "day is out of range for month"
  | .hour => "hour must be in 0..23"
  | .minute => "minute must be in 0..59"
  | .second => "second must be in 0..59"

/-- How much of a text is shown that is no whole number. -/
def shownLength : Nat := 200

def ScalarFault.message : ScalarFault → Text
  | .bool s => quoted s
  | .noDigits => "string index out of range"
  | .int base s =>
    "invalid literal for int() with base " ++ ofNat base ++ ": " ++ (quoted s).take shownLength
  | .longInt digits => longNumeralMessage digits
  | .longText => longNumberMessage
  | .float s => "could not convert string to float: " ++ quoted s
  | .longFloat => "int too large to convert to float"
  | .timestamp => "'NoneType' object has no attribute 'groupdict'"
  | .timestampOfMap => "expected string or bytes-like object, got 'list'"
  | .time part => part.message
  | .codePoint _ => "chr() arg not in range(0x110000)"

end Componentry.Yaml
