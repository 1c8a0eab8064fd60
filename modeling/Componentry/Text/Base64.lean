import Componentry.Text.Digits

/-!
Bytes written in base 64. Characters outside the alphabet are passed over, and the padding that fills
up a group ends the text.
-/
namespace Componentry.Text

/-- The six bits of a character of the alphabet. -/
def sextet? (c : Char) : Option Nat :=
  if 'A' ≤ c && c ≤ 'Z' then some (c.toNat - 65)
  else if 'a' ≤ c && c ≤ 'z' then some (c.toNat - 71)
  else if isDigit c then some (c.toNat + 4)
  else if c = '+' then some 62
  else if c = '/' then some 63
  else none

/-- The sextets up to the end of the padding; `place` of them belong to the group begun, and `pads`
padding characters came after the last. -/
def sextetsFrom (place pads : Nat) : Text → List Nat
  | [] => []
  | c :: s =>
    if c = '=' then
      if place < 2 then sextetsFrom place pads s
      else if place + pads + 1 ≥ 4 then []
      else sextetsFrom place (pads + 1) s
    else
      match sextet? c with
      | none => sextetsFrom place pads s
      | some n => n :: sextetsFrom ((place + 1) % 4) 0 s

/-- Whether the padding ends the text; then the last group may be short. -/
def isPadded (place pads : Nat) : Text → Bool
  | [] => false
  | c :: s =>
    if c = '=' then
      if place < 2 then isPadded place pads s
      else place + pads + 1 ≥ 4 || isPadded place (pads + 1) s
    else if (sextet? c).isNone then isPadded place pads s
    else isPadded ((place + 1) % 4) 0 s

def bytesOfSextets : List Nat → List Nat
  | a :: b :: c :: d :: rest =>
    [a * 4 + b / 16, b % 16 * 16 + c / 4, c % 4 * 64 + d] ++ bytesOfSextets rest
  | [a, b, c] => [a * 4 + b / 16, b % 16 * 16 + c / 4]
  | [a, b] => [a * 4 + b / 16]
  | _ => []

def decodeBase64? (s : Text) : Option (List Nat) :=
  let ns := sextetsFrom 0 0 s
  if ns.length % 4 = 0 || isPadded 0 0 s then some (bytesOfSextets ns) else none

end Componentry.Text
