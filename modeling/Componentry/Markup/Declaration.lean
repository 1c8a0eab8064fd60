import Componentry.Markup.Token
import Componentry.Text.Case
import Componentry.Text.Digits

/-!
Comments, declarations and marked sections. Only a comment is kept; the others are read for where
they end.
-/
namespace Componentry.Markup
open Componentry.Text

def commentEnd? : Text → Option Text
  | '-' :: '-' :: s =>
    match skipBlanks s with
    | '>' :: r => some r
    | _ => none
  | _ => none

def conditionEnd? : Text → Option Text
  | ']' :: s =>
    match skipBlanks s with
    | '>' :: r => some r
    | _ => none
  | _ => none

def sectionEnd? : Text → Option Text
  | ']' :: s => conditionEnd? (skipBlanks s)
  | _ => none

theorem length_commentEnd?_le (s r : Text) (h : commentEnd? s = some r) : r.length ≤ s.length := by
  unfold commentEnd? at h
  split at h
  · next t =>
    have := length_skipBlanks_le t
    split at h
    · next q hq => cases h; simp [hq] at this ⊢; omega
    · simp at h
  · simp at h

theorem length_conditionEnd?_le (s r : Text) (h : conditionEnd? s = some r) :
    r.length ≤ s.length := by
  unfold conditionEnd? at h
  split at h
  · next t =>
    have := length_skipBlanks_le t
    split at h
    · next q hq => cases h; simp [hq] at this ⊢; omega
    · simp at h
  · simp at h

theorem length_sectionEnd?_le (s r : Text) (h : sectionEnd? s = some r) : r.length ≤ s.length := by
  unfold sectionEnd? at h
  split at h
  · next t =>
    have h₁ := length_skipBlanks_le t
    have h₂ := length_conditionEnd?_le _ _ h
    simp; omega
  · simp at h

def isSectionChar (c : Char) : Bool :=
  isLetter c || isDigit c || c = '-' || c = '_' || c = '.'

def closedSections : List Text := ["temp", "cdata", "ignore", "include", "rcdata"]

def conditionalSections : List Text := ["if", "else", "endif"]

/-- A marked section after its opening bracket. -/
def markedSection (s : Text) : Reading :=
  match s with
  | [] => .incomplete
  | c :: t =>
    if isLetter c then
      let word := c :: t.takeWhile isSectionChar
      let afterWord := t.dropWhile isSectionChar
      let blanks := afterWord.takeWhile isBlank
      let name := lower word
      if skipBlanks afterWord = [] then .incomplete
      else
        let close? :=
          if name ∈ closedSections then some sectionEnd?
          else if name ∈ conditionalSections then some conditionEnd?
          else none
        match close? with
        | none => .rejected (.unknownSection (word ++ blanks))
        | some close =>
          match search close s with
          | some (_, r) => .read [.directive] none r
          | none => .incomplete
    else .rejected (.missingName (("<![" ++ s : Text).take 20))

/-- Markup after its angle bracket and exclamation mark. -/
def declaration (s : Text) : Reading :=
  match s with
  | '-' :: '-' :: t =>
    match search commentEnd? t with
    | some (body, r) => .read [.comment body] none r
    | none => .incomplete
  | '[' :: t => markedSection t
  | _ =>
    if lower (s.take 7) = ("doctype" : Text) then
      match cut? '>' (s.drop 7) with
      | some (_, r) => .read [.directive] none r
      | none => .incomplete
    else
      match cut? '>' s with
      | some (body, r) => .read [.comment body] none r
      | none => .incomplete

theorem length_markedSection_le {s rest : Text} {ts : List Token} {raw : Option Text}
    (h : markedSection s = .read ts raw rest) : rest.length ≤ s.length := by
  unfold markedSection at h
  split at h
  · cases h
  · simp only at h
    split at h
    · split at h
      · cases h
      · split at h
        · cases h
        · next close hclose =>
          have hc : ∀ s r, close s = some r → r.length ≤ s.length := by
            split at hclose
            · cases hclose; exact length_sectionEnd?_le
            · split at hclose
              · cases hclose; exact length_conditionEnd?_le
              · cases hclose
          split at h
          · next hs => cases h; exact length_search_le hc hs
          · cases h
    · cases h

theorem length_declaration_le {s rest : Text} {ts : List Token} {raw : Option Text}
    (h : declaration s = .read ts raw rest) : rest.length ≤ s.length := by
  unfold declaration at h
  split at h
  · split at h
    · next hs =>
      cases h
      have := length_search_le length_commentEnd?_le hs
      simp; omega
    · cases h
  · have := length_markedSection_le h
    simp; omega
  · split at h
    · split at h
      · next hc => cases h; have := length_cut?_lt hc; simp at this; omega
      · cases h
    · split at h
      · next hc => cases h; exact Nat.le_of_lt (length_cut?_lt hc)
      · cases h

end Componentry.Markup
