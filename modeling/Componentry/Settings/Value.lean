import Componentry.Decimal.Shortest
import Componentry.Text.Case
import Componentry.Text.Blank

/-!
Values of settings, and what is made of one where a text, a number or a switch is wanted.
-/
namespace Componentry.Settings
open Componentry.Text

inductive Value where
  | null
  | bool (b : Bool)
  | int (n : Int)
  | float (x : Float)
  | text (s : Text)
  | list (items : List Value)
  | map (entries : List (Value × Value))
  /-- A value that no setting is made of, such as a date. -/
  | other
  deriving Inhabited

namespace Value

/-- Truth values are neither text nor number. -/
def asText : Value → Option Text
  | .text s => some s
  | .int n => some (ofInt n)
  | .float x => some (Decimal.shown x)
  | _ => none

def asInt : Value → Option Int
  | .int n => some n
  | .text s => int? s
  | _ => none

/-- Whether a number has too many digits to be shown. -/
def isLong : Value → Bool
  | .int n => n.natAbs ≥ Nat.pow 10 digitLimit
  | _ => false

def trueWords : List Text := ["true", "yes", "1"]

def falseWords : List Text := ["false", "no", "0"]

def asBool : Value → Option Bool
  | .bool b => some b
  | .text s =>
    let word := lower (trim s)
    if word ∈ trueWords then some true else if word ∈ falseWords then some false else none
  | _ => none

/-- An item of a list as text; here truth values count. -/
def itemText : Value → Option Text
  | .bool true => some "True"
  | .bool false => some "False"
  | v => v.asText

def asTexts : Value → List Text
  | .text s => [s]
  | .list vs => vs.filterMap itemText
  | _ => []

/-- Whether a list holds a number of too many digits. -/
def holdsLong : Value → Bool
  | .list vs => vs.any isLong
  | _ => false

/-- The names that a filter lists, in lower case: the pieces between the commas of a text, or the
items of a list. -/
def asNames (v : Value) : List Text :=
  let pieces := match v with
    | .text s => splitOn ',' s
    | v => v.asTexts
  (pieces.map fun s => lower (trim s)).filter (· ≠ [])

end Value

end Componentry.Settings
