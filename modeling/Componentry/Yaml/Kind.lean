import Componentry.Yaml.Cursor
import Componentry.Text.Digits

/-!
What scalars stand for. A plain scalar tells it by its form, others by their tag.
-/
namespace Componentry.Yaml
open Componentry.Text

inductive Kind where
  | text
  | null
  | bool
  | int
  | float
  | timestamp
  | binary
  | list
  | map
  | set
  | orderedMap
  | pairs
  /-- The key that stands for the entries of another map. -/
  | merge
  /-- The key that stands for the map itself. -/
  | value
  | unknown
  deriving DecidableEq, Repr

/-- The tags that are known, without what they begin with. -/
def knownTags : List (Text × Kind) := [
    ("str", .text), ("null", .null), ("bool", .bool), ("int", .int), ("float", .float),
    ("timestamp", .timestamp), ("binary", .binary), ("seq", .list), ("map", .map), ("set", .set),
    ("omap", .orderedMap), ("pairs", .pairs), ("merge", .merge), ("value", .value)]

def tagStart : Text := "tag:yaml.org,2002:"

def Kind.ofTag (tag : Text) : Kind := ((after? tagStart tag).bind fun s => knownTags.lookup s).getD .unknown

/-! ### Words -/

def trueWords : List Text := ["yes", "Yes", "YES", "true", "True", "TRUE", "on", "On", "ON"]

def falseWords : List Text := ["no", "No", "NO", "false", "False", "FALSE", "off", "Off", "OFF"]

def nullWords : List Text := ["", "~", "null", "Null", "NULL"]

/-! ### Numbers -/

/-- Without one sign in front. -/
def unsigned : Text → Text
  | '-' :: s => s
  | '+' :: s => s
  | s => s

def isSpacedDigit (c : Char) : Bool := isDigit c || c = '_'

/-- A digit, then digits and underscores. -/
def isSpacedNumeral : Text → Bool
  | [] => false
  | c :: s => isDigit c && s.all isSpacedDigit

/-- One or two digits that write a number below sixty. -/
def isSixtieth : Text → Bool
  | [c] => isDigit c
  | [c, d] => '0' ≤ c && c ≤ '5' && isDigit d
  | _ => false

/-- A numeral and sixtieths after colons, at least one of them. -/
def isSexagesimal (s : Text) : Bool :=
  match splitOn ':' s with
  | first :: rest => isSpacedNumeral first && rest ≠ [] && rest.all isSixtieth
  | [] => false

/-- Nothing, or an exponent with its sign. -/
def isExponent : Text → Bool
  | [] => true
  | e :: sign :: digits =>
    (e = 'e' || e = 'E') && (sign = '+' || sign = '-') && digits ≠ [] && digits.all isDigit
  | _ => false

def infinityWords : List Text := [".inf", ".Inf", ".INF"]

def nanWords : List Text := [".nan", ".NaN", ".NAN"]

def isFloat (s : Text) : Bool :=
  unsigned s ∈ infinityWords || s ∈ nanWords ||
    match cut? '.' s with
    | none => false
    | some ([], fraction) =>
      isSpacedNumeral (fraction.takeWhile isSpacedDigit) && isExponent (fraction.dropWhile isSpacedDigit)
    | some (whole, fraction) =>
      (isSpacedNumeral (unsigned whole) && isExponent (fraction.dropWhile isSpacedDigit)) ||
        (isSexagesimal (unsigned whole) && fraction.all isSpacedDigit)

def isInt (s : Text) : Bool :=
  match unsigned s with
  | [] => false
  | ['0'] => true
  | '0' :: 'b' :: t => t ≠ [] && t.all fun c => c = '0' || c = '1' || c = '_'
  | '0' :: 'x' :: t => t ≠ [] && t.all fun c => isHexDigit c || c = '_'
  | '0' :: t => t.all fun c => ('0' ≤ c && c ≤ '7') || c = '_'
  | t => isSpacedNumeral t || isSexagesimal t

/-! ### Points in time -/

structure Timestamp where
  year : Nat
  month : Nat
  day : Nat
  /-- Hour, minute and second. -/
  time : Option (Nat × Nat × Nat)
  /-- Minutes ahead of universal time. -/
  offset : Int

namespace Timestamp

/-- The number that the leading digits write, of which there are at least `least`; no more than
`most` are read. -/
def digits? (least most : Nat) (s : Text) : Option (Nat × Text) :=
  let ds := (s.takeWhile isDigit).take most
  if ds.length < least then none else some (numeral 10 ds, s.drop ds.length)

def isGap (c : Char) : Bool := c = ' ' || c = '\t'

def afterGap? : Text → Option Text
  | 'T' :: s => some s
  | 't' :: s => some s
  | c :: s => if isGap c then some (s.dropWhile isGap) else none
  | [] => none

def afterFraction : Text → Text
  | '.' :: s => s.dropWhile isDigit
  | s => s

/-- Hours and perhaps minutes. -/
def span? (s : Text) : Option Int := do
  let (hours, s) ← digits? 1 2 s
  if s = [] then return Int.ofNat hours * 60
  let (minutes, s) ← digits? 2 2 (← after? [':'] s)
  if s = [] then return Int.ofNat hours * 60 + Int.ofNat minutes else none

def offset? (s : Text) : Option Int :=
  if s = [] then some 0
  else match s.dropWhile isGap with
    | ['Z'] => some 0
    | '+' :: t => span? t
    | '-' :: t => (span? t).map (-·)
    | _ => none

def ofText? (s : Text) : Option Timestamp := do
  let (year, s) ← digits? 4 4 s
  let (month, s) ← digits? 1 2 (← after? ['-'] s)
  let (day, s) ← digits? 1 2 (← after? ['-'] s)
  if s = [] then return ⟨year, month, day, none, 0⟩
  let (hour, s) ← digits? 1 2 (← afterGap? s)
  let (minute, s) ← digits? 2 2 (← after? [':'] s)
  let (second, s) ← digits? 2 2 (← after? [':'] s)
  return ⟨year, month, day, some (hour, minute, second), ← offset? (afterFraction s)⟩

/-- How long a plain scalar is that stands for a day without a time. -/
def dayLength : Nat := 10

def isPlain (s : Text) : Bool :=
  match ofText? s with
  | some t => t.time.isSome || s.length = dayLength
  | none => false

end Timestamp

/-- The kind of a plain scalar on one line. -/
def Kind.ofLine (s : Text) : Kind :=
  if s ∈ trueWords ++ falseWords then .bool
  else if isFloat s then .float
  else if isInt s then .int
  else if s = ("<<" : Text) then .merge
  else if s ∈ nullWords then .null
  else if Timestamp.isPlain s then .timestamp
  else if s = ['='] then .value
  else if s ∈ [['!'], ['&'], ['*']] then .unknown
  else .text

/-- A text without the line feed at its end. -/
def withoutLastBreak (s : Text) : Text := if s.getLast? = some '\n' then s.dropLast else s

/-- The kind of a plain scalar, or of another that is to be taken for one. A line feed at its end does
not count, except after nothing. -/
def Kind.ofPlain (s : Text) : Kind := if s = ['\n'] then .text else Kind.ofLine (withoutLastBreak s)

end Componentry.Yaml
