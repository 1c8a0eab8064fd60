import Componentry.Markup.ReferenceTable
import Componentry.Text.Digits

/-!
Character references. In running text a name is taken whole; in an attribute value the longest
known beginning of the name counts, and controls that no document may hold vanish.
-/
namespace Componentry.Markup
open Componentry.Text

/-- What a name without its semicolon stands for. -/
def named? : Text → Option Text
  | [] => none
  | c :: s => ((referencesFrom c).find? fun e => e.1.toList = s).map (·.2.toList)

def isUnterminated (name : Text) : Bool := unterminatedNames.any (·.toList = name)

/-- The characters that numbers from 0x80 on mean, as in the code page for Western Europe. -/
def westernCodes : List Nat := [
    0x20AC, 0x81, 0x201A, 0x192, 0x201E, 0x2026, 0x2020, 0x2021, 0x2C6, 0x2030, 0x160, 0x2039, 0x152,
    0x8D, 0x17D, 0x8F, 0x90, 0x2018, 0x2019, 0x201C, 0x201D, 0x2022, 0x2013, 0x2014, 0x2DC, 0x2122,
    0x161, 0x203A, 0x153, 0x9D, 0x17E, 0x178]

/-- The character of a number; those that no character has give the replacement character. -/
def charOfNumber (n : Nat) : Char :=
  if n = 0 ∨ (0xD800 ≤ n ∧ n ≤ 0xDFFF) ∨ n > 0x10FFFF then '\uFFFD'
  else Char.ofNat (if 0x80 ≤ n then (westernCodes[n - 0x80]?).getD n else n)

/-- Controls and code points that are no characters. -/
def isForbidden (n : Nat) : Bool :=
  (1 ≤ n && n ≤ 8) || n = 0xB || (0xE ≤ n && n ≤ 0x1F) || n = 0x7F || (0xFDD0 ≤ n && n ≤ 0xFDEF) ||
    n % 0x10000 = 0xFFFE || n % 0x10000 = 0xFFFF

/-- A number in an attribute value. -/
def valueOfNumber (n : Nat) : Text :=
  if n ≤ 0x10FFFF ∧ isForbidden n then [] else [charOfNumber n]

/-- A name in an attribute value, `terminated` by its semicolon or not. -/
def valueOfName (name : Text) (terminated : Bool) : Text :=
  let ending : Text := if terminated then [';'] else []
  let whole := if terminated || isUnterminated name then named? name else none
  match whole with
  | some v => v
  | none =>
    let lengths := (List.range (name.length + ending.length)).reverse.filter (2 ≤ ·)
    match lengths.find? fun n => isUnterminated (name.take n) with
    | some n => (named? (name.take n)).getD [] ++ name.drop n ++ ending
    | none => '&' :: name ++ ending

def isReferenceChar (c : Char) : Bool :=
  !(c = '\t' || c = '\n' || c = '\x0c' || c = ' ' || c = '<' || c = '&' || c = '#' || c = ';')

/-- The number of a decimal reference, unless its numeral is too long. -/
def decimalNumber (digits : Text) : Except Nat Nat :=
  if digits.length > digitLimit then .error digits.length else .ok (numeral 10 digits)

/-- The semicolons, none or one, at the head of a text. -/
def semicolons : Text → Nat
  | ';' :: _ => 1
  | _ => 0

/-- What the text after an ampersand stands for, with the number of characters that it takes. The
error is the length of a decimal numeral that is too long. -/
def valueReference? (s : Text) : Except Nat (Option (Text × Nat)) :=
  match s with
  | '#' :: r =>
    let decimals := r.takeWhile isDigit
    if decimals ≠ [] then
      (decimalNumber decimals).map fun n =>
        some (valueOfNumber n, 1 + decimals.length + semicolons (r.drop decimals.length))
    else match r with
      | x :: t =>
        let digits := t.takeWhile isHexDigit
        if (x = 'x' ∨ x = 'X') ∧ digits ≠ [] then
          .ok (some (valueOfNumber (numeral 16 digits),
            2 + digits.length + semicolons (t.drop digits.length)))
        else .ok none
      | [] => .ok none
  | _ =>
    let name := (s.take 32).takeWhile isReferenceChar
    if name = [] then .ok none
    else
      let ending := semicolons (s.drop name.length)
      .ok (some (valueOfName name (ending = 1), name.length + ending))

@[grind =]
def resolveFrom : Nat → Text → Except Nat Text
  | _, [] => .ok []
  | skip + 1, _ :: s => resolveFrom skip s
  | 0, c :: s =>
    if c = '&' then do
      match ← valueReference? s with
      | some (v, n) => return v ++ (← resolveFrom n s)
      | none => return c :: (← resolveFrom 0 s)
    else return c :: (← resolveFrom 0 s)

/-- An attribute value with its references replaced, from left to right. -/
def resolveValue (s : Text) : Except Nat Text := resolveFrom 0 s

end Componentry.Markup
