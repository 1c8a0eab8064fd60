import Componentry.Decimal.Shortest
import Componentry.Text.Case
import Componentry.Yaml.Fault
import Componentry.Yaml.Kind

/-!
The numbers that scalars stand for. Underscores do not count, and parts between colons are sixtieths.
-/
namespace Componentry.Yaml
open Componentry.Text

/-- The sign in front of a number, and the rest. -/
def signed (s : Text) : Bool × Text := (s.head? = some '-', unsigned s)

/-! ### Whole numbers -/

/-- A digit of any script, or a letter that counts as one. -/
def digitIn? (base : Nat) (c : Char) : Option Nat :=
  ((digit? c).orElse fun _ => hexDigit? c).filter (· < base)

/-- What may follow a zero to mark the base. -/
def baseMarks : Nat → List Char
  | 2 => ['b', 'B']
  | 8 => ['o', 'O']
  | 16 => ['x', 'X']
  | _ => []

def withoutBaseMark (base : Nat) : Text → Text
  | '0' :: mark :: s => if mark ∈ baseMarks base then s else '0' :: mark :: s
  | s => s

def basedInt (base : Nat) (s : Text) : Except ScalarFault Int :=
  let (negative, t) := signed (trimWhere isNumberBlank s)
  let digits := withoutBaseMark base t
  match digits.mapM (digitIn? base) with
  | none | some [] => .error (.int base s)
  | some ds =>
    let n := Int.ofNat (ds.foldl (fun n d => n * base + d) 0)
    .ok (if negative then -n else n)

def decimalInt (s : Text) : Except ScalarFault Int :=
  match int? s with
  | some n => .ok n
  | none =>
    let digits := (unsigned (trimWhere isNumberBlank s)).takeWhile fun c => (digit? c).isSome
    if digits.length > digitLimit then .error (.longInt digits.length) else .error (.int 10 s)

/-- A zero in front stands for base eight, and colons for base sixty. -/
@[grind =]
def sizeOfInt : Text → Except ScalarFault Int
  | [] => .error .noDigits
  | ['0'] => .ok 0
  | '0' :: 'b' :: t => basedInt 2 t
  | '0' :: 'x' :: t => basedInt 16 t
  | '0' :: t => basedInt 8 ('0' :: t)
  | t => ((splitOn ':' t).mapM decimalInt).map fun parts => parts.foldl (fun n d => n * 60 + d) 0

def withoutUnderscores (s : Text) : Text := s.filter (· ≠ '_')

def intOfScalar (s : Text) : Except ScalarFault Int :=
  let (negative, t) := signed (withoutUnderscores s)
  (sizeOfInt t).map fun n => if negative then -n else n

/-! ### Floating point numbers -/

/-- Digits, perhaps with a fraction and an exponent. -/
def isDecimal (s : Text) : Bool :=
  let whole := s.takeWhile isDigit
  let (fraction, rest) := match s.dropWhile isDigit with
    | '.' :: r => (r.takeWhile isDigit, r.dropWhile isDigit)
    | r => ([], r)
  (whole ≠ [] || fraction ≠ []) &&
    match rest with
    | [] => true
    | 'e' :: r => unsigned r ≠ [] && (unsigned r).all isDigit
    | _ => false

/-- A digit of any script as one of the first. -/
def plainDigit (c : Char) : Char :=
  match digit? c with
  | some d => Char.ofNat ('0'.toNat + d)
  | none => c

def floatPart (s : Text) : Except ScalarFault Float :=
  let (negative, t) := signed ((trimWhere isNumberBlank s).map plainDigit)
  let size? : Option Float :=
    if isDecimal t then some (Decimal.ofText t)
    else if t ∈ [("inf" : Text), "infinity"] then some (1.0 / 0.0)
    else if t = ("nan" : Text) then some (0.0 / 0.0)
    else none
  match size? with
  | some x => .ok (if negative then -x else x)
  | none => .error (.float s)

/-- The numbers from here on are too large for floating point. -/
def floatLimit : Nat := Nat.pow 2 1024

/-- The parts between colons, from the last to the first, each worth sixty times the one before. -/
def sumSixtieths (unit : Nat) (sum : Float) : List Float → Except ScalarFault Float
  | [] => .ok sum
  | x :: xs =>
    if unit ≥ floatLimit then .error .longFloat
    else sumSixtieths (unit * 60) (sum + x * Float.ofNat unit) xs

def sizeOfFloat (t : Text) : Except ScalarFault Float :=
  if t = (".inf" : Text) then .ok (1.0 / 0.0)
  else if t = (".nan" : Text) then .ok (0.0 / 0.0)
  else if ':' ∈ t then do sumSixtieths 1 0.0 (← (splitOn ':' t).mapM floatPart).reverse
  else floatPart t

def floatOfScalar (s : Text) : Except ScalarFault Float :=
  let t := lower (withoutUnderscores s)
  if t = [] then .error .noDigits
  else
    let (negative, size) := signed t
    (sizeOfFloat size).map fun x => if negative then -x else x

end Componentry.Yaml
