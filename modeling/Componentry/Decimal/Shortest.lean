import Componentry.Text.Digits

/-!
Floating-point numbers and their shortest decimal text: the fewest digits that read back as the same
number, and of those the nearest.
-/
namespace Componentry.Decimal
open Componentry.Text

/-- A positive number as `mantissa * 2 ^ exponent`. -/
structure Binary where
  mantissa : Nat
  exponent : Int

inductive Decoded where
  | notANumber
  | infinite
  | zero
  | finite (b : Binary)

/-- The sign and the size that the bits of a double stand for. -/
def decode (bits : UInt64) : Bool × Decoded :=
  let n := bits.toNat
  let negative := n / Nat.pow 2 63 = 1
  let e := n / Nat.pow 2 52 % 2048
  let f := n % Nat.pow 2 52
  let size :=
    if e = 2047 then (if f = 0 then .infinite else .notANumber)
    else if e = 0 then (if f = 0 then .zero else .finite ⟨f, -1074⟩)
    else .finite ⟨Nat.pow 2 52 + f, Int.ofNat e - 1075⟩
  (negative, size)

/-- The numbers that round to `b` lie between `low` and `high` over `unit`, and `b` is `mid` over
`unit`; the ends count if the mantissa is even. -/
structure Interval where
  low : Nat
  mid : Nat
  high : Nat
  unit : Nat
  closed : Bool

def Binary.interval (b : Binary) : Interval :=
  -- four parts of a unit in the last place, so that both halves are whole
  let up := Nat.pow 2 b.exponent.toNat
  let unit := 4 * Nat.pow 2 (-b.exponent).toNat
  let below := if b.mantissa = Nat.pow 2 52 ∧ b.exponent > -1074 then 1 else 2
  { low := (4 * b.mantissa - below) * up
    mid := 4 * b.mantissa * up
    high := (4 * b.mantissa + 2) * up
    unit := unit
    closed := b.mantissa % 2 = 0 }

def Interval.contains (i : Interval) (num den : Nat) : Bool :=
  let x := num * i.unit
  if i.closed then i.low * den ≤ x && x ≤ i.high * den else i.low * den < x && x < i.high * den

/-- The place of the first digit: the least `p` with `mid / unit < 10 ^ p`, searched from below. -/
def Interval.place (i : Interval) : Nat → Int → Int
  | 0, p => p
  | fuel + 1, p =>
    if i.mid * Nat.pow 10 (-p).toNat < i.unit * Nat.pow 10 p.toNat then p else i.place fuel (p + 1)

/-- The neighbour of the number on the grid of `10 ^ e` that lies in the interval, the nearer one if
both do, the even one if they are as near. -/
def Interval.onGrid? (i : Interval) (e : Int) : Option Nat :=
  let step := Nat.pow 10 e.toNat
  let den := Nat.pow 10 (-e).toNat
  let k := i.mid * den / (i.unit * step)
  let above := (k + 1) * step * i.unit - i.mid * den
  let below := i.mid * den - k * step * i.unit
  let lower := i.contains (k * step) den
  let upper := i.contains ((k + 1) * step) den
  if lower && upper then
    some (if below < above || (below = above && k % 2 = 0) then k else k + 1)
  else if lower then some k
  else if upper then some (k + 1)
  else none

/-- The digits and the exponent of their last place, trying one digit, then two, and so on. -/
def Interval.digits (i : Interval) (place : Int) : Nat → Nat → Nat × Int
  | 0, n => (((i.onGrid? (place - Int.ofNat n)).getD 0), place - Int.ofNat n)
  | fuel + 1, n =>
    match i.onGrid? (place - Int.ofNat n) with
    | some k => (k, place - Int.ofNat n)
    | none => i.digits place fuel (n + 1)

/-- A decimal with trailing zeros moved into the exponent. -/
def dropZeros : Nat → Nat → Int → Nat × Int
  | 0, k, e => (k, e)
  | fuel + 1, k, e => if k ≠ 0 ∧ k % 10 = 0 then dropZeros fuel (k / 10) (e + 1) else (k, e)

def Binary.shortest (b : Binary) : Nat × Int :=
  let i := b.interval
  let (k, e) := i.digits (i.place 640 (-324)) 16 1
  dropZeros 17 k e

/-- How a number is laid out: positional between two exponents of the first digit, else scientific
with at least two digits in the exponent. -/
structure Layout where
  least : Int
  beyond : Int
  /-- What follows a positional number without a fraction. -/
  whole : Text

def Layout.write (layout : Layout) (k : Nat) (e : Int) : Text :=
  let ds := Text.ofNat k
  let first := e + Int.ofNat ds.length - 1
  if layout.least ≤ first ∧ first < layout.beyond then
    if e ≥ 0 then ds ++ List.replicate e.toNat '0' ++ layout.whole
    else if first ≥ 0 then ds.take (first.toNat + 1) ++ ['.'] ++ ds.drop (first.toNat + 1)
    else "0." ++ List.replicate (-first - 1).toNat '0' ++ ds
  else
    let places := Text.ofNat first.natAbs
    let padded := if places.length < 2 then '0' :: places else places
    ds.take 1 ++ (if ds.length = 1 then [] else '.' :: ds.drop 1) ++ ['e'] ++
      (if first < 0 then ['-'] else ['+']) ++ padded

/-- Settings show numbers positionally from 0.0001 to below 10 ^ 16, always with a fraction. -/
def settingsLayout : Layout := ⟨-4, 16, ".0"⟩

def shown (x : Float) : Text :=
  let (negative, size) := decode x.toBits
  let sign : Text := if negative then ['-'] else []
  match size with
  | .notANumber => "nan"
  | .infinite => sign ++ "inf"
  | .zero => sign ++ "0" ++ settingsLayout.whole
  | .finite b => let (k, e) := b.shortest; sign ++ settingsLayout.write k e

/-- Beyond this size of the exponent every number is zero or infinite. -/
def exponentCap : Nat := 100000

/-- Reads digits, an optional fraction and an optional exponent, with an optional sign. -/
def ofText (s : Text) : Float :=
  let (negative, t) := match s with
    | '-' :: t => (true, t)
    | '+' :: t => (false, t)
    | t => (false, t)
  let whole := t.takeWhile isDigit
  let rest := t.dropWhile isDigit
  let (fraction, rest) := match rest with
    | '.' :: r => (r.takeWhile isDigit, r.dropWhile isDigit)
    | r => ([], r)
  let power : Int := match rest with
    | 'e' :: '-' :: r => -Int.ofNat (numeral 10 r)
    | 'e' :: '+' :: r => Int.ofNat (numeral 10 r)
    | 'e' :: r => Int.ofNat (numeral 10 r)
    | _ => 0
  let mantissa := numeral 10 (whole ++ fraction)
  let exponent := power - Int.ofNat fraction.length
  let size := if mantissa = 0 then 0.0
    else if exponent > Int.ofNat exponentCap then 1.0 / 0.0
    else if exponent < -Int.ofNat exponentCap - Int.ofNat (whole ++ fraction).length then 0.0
    else Float.ofScientific mantissa (exponent < 0) exponent.natAbs
  if negative then -size else size

end Componentry.Decimal
