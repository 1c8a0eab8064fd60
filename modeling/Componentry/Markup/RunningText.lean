import Componentry.Markup.Token
import Componentry.Markup.Reference

/-!
References in running text. One that the end of the text or a missing semicolon leaves open stops
the reading.
-/
namespace Componentry.Markup
open Componentry.Text

/-- What the step over an ampersand finds. -/
inductive RefReading where
  | read (s : Text) (rest : Text)
  /-- Reading stops here; the text found so far is kept. -/
  | stop (s : Text) (rest : Text)
  | tooLong (digits : Nat)

/-- A numeric reference after `&#`. Its digits must be followed by something that is no digit. -/
def numberReference (s : Text) : RefReading :=
  let stopped : RefReading := if ';' ∈ s then .stop "&#" s else .stop [] ("&#" ++ s)
  let ended (n : Nat) (rest : Text) : RefReading :=
    match rest with
    | [] => stopped
    | c :: r =>
      if isHexDigit c then stopped
      else .read [charOfNumber n] (if c = ';' then r else c :: r)
  let decimals := s.takeWhile isDigit
  if decimals ≠ [] then
    let rest := s.dropWhile isDigit
    match decimalNumber decimals with
    | .ok n => ended n rest
    | .error digits => if (rest.head?.map isHexDigit).getD true then stopped else .tooLong digits
  else match s with
    | x :: t =>
      let digits := t.takeWhile isHexDigit
      if (x = 'x' ∨ x = 'X') ∧ digits ≠ [] then ended (numeral 16 digits) (t.dropWhile isHexDigit)
      else stopped
    | [] => stopped

def isRefNameChar (c : Char) : Bool := isLetter c || isDigit c || c = '-' || c = '.'

/-- At the end of the text a name ends before its last hyphen or full stop. -/
def nameBeforeLastMark (name : Text) : Option (Text × Text) :=
  match name.reverse.dropWhile fun c => isLetter c || isDigit c with
  | [] => none
  | mark :: before =>
    some (before.reverse, mark :: (name.reverse.takeWhile fun c => isLetter c || isDigit c).reverse)

/-- Unknown names stand for themselves, without a semicolon. -/
def dataOfName (name : Text) : Text := (named? name).getD ('&' :: name)

/-- A reference after its ampersand. -/
def reference (final : Bool) (s : Text) : RefReading :=
  match s with
  | [] => .stop [] ['&']
  | '#' :: t => numberReference t
  | c :: t =>
    if isLetter c then
      let name := c :: t.takeWhile isRefNameChar
      match t.dropWhile isRefNameChar with
      | ';' :: r => .read (dataOfName name) r
      | d :: r => .read (dataOfName name) (d :: r)
      | [] =>
        match nameBeforeLastMark name with
        | some (before, rest) => .read (dataOfName before) rest
        | none => if final && t = [] then .stop [] s else .stop [] ('&' :: s)
    else .read ['&'] s

theorem length_numberReference_le {s d rest : Text} (h : numberReference s = .read d rest) :
    rest.length ≤ s.length := by
  have ended {n : Nat} {stopped : RefReading} {r : Text} (hs : ∀ d rest, stopped ≠ .read d rest)
      (h : (match r with
        | [] => stopped
        | c :: r =>
          if isHexDigit c then stopped
          else .read [charOfNumber n] (if c = ';' then r else c :: r)) = .read d rest) :
      rest.length ≤ r.length := by
    split at h
    · exact absurd h (hs _ _)
    · split at h
      · exact absurd h (hs _ _)
      · cases h; split <;> simp
  have hstop : ∀ d rest, (if ';' ∈ s then RefReading.stop "&#" s else .stop [] ("&#" ++ s)) ≠
      .read d rest := by
    intro d rest; split <;> simp
  unfold numberReference at h
  simp only at h
  split at h
  · split at h
    · exact Nat.le_trans (ended hstop h) (length_dropWhile_le _ _)
    · split at h
      · exact absurd h (hstop _ _)
      · cases h
  · split at h
    · split at h
      · have h₁ := ended hstop h
        have h₂ := length_dropWhile_le isHexDigit (by assumption)
        simp; omega
      · exact absurd h (hstop _ _)
    · exact absurd h (hstop _ _)

theorem length_nameBeforeLastMark_le {name before rest : Text}
    (h : nameBeforeLastMark name = some (before, rest)) : rest.length ≤ name.length := by
  have hlen := congrArg List.length
    (List.takeWhile_append_dropWhile (p := fun c => isLetter c || isDigit c) (l := name.reverse))
  unfold nameBeforeLastMark at h
  split at h
  · cases h
  · next hd =>
    cases h
    rw [hd] at hlen
    simp at hlen ⊢; omega

theorem length_reference_le {final : Bool} {s d rest : Text}
    (h : reference final s = .read d rest) : rest.length ≤ s.length := by
  unfold reference at h
  split at h
  · cases h
  · have := length_numberReference_le h; simp; omega
  · next c t _ =>
    have hd := length_dropWhile_le isRefNameChar t
    have ht := congrArg List.length (List.takeWhile_append_dropWhile (p := isRefNameChar) (l := t))
    split at h
    · simp only at h
      split at h
      · next hr => cases h; simp [hr] at hd ⊢; omega
      · next hr => cases h; simp [hr] at hd ⊢; omega
      · next hr =>
        split at h
        · next hn =>
          cases h
          have := length_nameBeforeLastMark_le hn
          simp [hr] at ht this ⊢; omega
        · split at h <;> cases h
    · cases h; exact Nat.le_refl _

end Componentry.Markup
