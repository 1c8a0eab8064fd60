import Componentry.Text.Basic
import Componentry.Text.CaseTable

/-!
Full case mapping: a character may become several, and a capital sigma takes its final form at the
end of a word.
-/
namespace Componentry.Text

def shifted (rs : List Shift) (c : Char) : Char :=
  match rs.findSome? fun r => r.apply? c.toNat with
  | some n => Char.ofNat n
  | none => c

def expansion? (table : List (Nat × List Nat)) (c : Char) : Option Text :=
  (table.lookup c.toNat).map fun ns => ns.map Char.ofNat

/-- The lower-case form of a character outside its context. -/
def lowerChar (c : Char) : Text :=
  if c.toNat < 128 then [c.toLower]
  else if c = 'İ' then ['i', '\u0307']
  else [shifted lowerShifts c]

def upperChar (c : Char) : Text :=
  if c.toNat < 128 then [c.toUpper]
  else (expansion? upperExpansions c).getD [shifted upperShifts c]

/-- The form of a character at the head of a title. -/
def titleChar (c : Char) : Text :=
  if c.toNat < 128 then [c.toUpper]
  else (expansion? titleForms c).getD (upperChar c)

/-- The nearest character that is not skipped has case. -/
def caseAhead (s : Text) : Bool :=
  match s.dropWhile (inRanges caseIgnorable) with
  | [] => false
  | c :: _ => inRanges cased c

/-- Lower case of a text, given the characters before it, nearest first. -/
def lowerFrom (before : Text) : Text → Text
  | [] => []
  | c :: s =>
    let here := if c = 'Σ' then [if caseAhead before && !caseAhead s then 'ς' else 'σ'] else lowerChar c
    here ++ lowerFrom (c :: before) s

def lower (s : Text) : Text := lowerFrom [] s

/-- The first character in title case and the others in lower case. -/
def capitalize : Text → Text
  | [] => []
  | c :: s => titleChar c ++ lowerFrom [c] s

end Componentry.Text
