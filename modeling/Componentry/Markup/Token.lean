import Componentry.Markup.Node
import Componentry.Text.Blank

/-!
Tokens of HTML text, the reasons to refuse a text, and searches in it.
-/
namespace Componentry.Markup
open Componentry.Text

inductive Token where
  | data (s : Text)
  | opening (name : Text) (attrs : List (Text × Text))
  | selfClosed (name : Text) (attrs : List (Text × Text))
  | closing (name : Text)
  | comment (s : Text)
  /-- A declaration, an instruction or a marked section, whose content is dropped. -/
  | directive
  deriving Repr, DecidableEq

/-- Markup that no reading is defined for. -/
inductive Rejection where
  | missingName (near : Text)
  | unknownSection (keyword : Text)
  | longNumber (digits : Nat)
  deriving Repr, DecidableEq

/-- The first place where `close` accepts: the text before it and what `close` leaves. -/
def search (close : Text → Option Text) : Text → Option (Text × Text)
  | [] => (close []).map ([], ·)
  | c :: s =>
    match close (c :: s) with
    | some r => some ([], r)
    | none => (search close s).map fun (a, b) => (c :: a, b)

def skipBlanks (s : Text) : Text := s.dropWhile isBlank

theorem length_dropWhile_le (p : Char → Bool) (s : Text) : (s.dropWhile p).length ≤ s.length :=
  (List.dropWhile_suffix p).length_le

theorem length_skipBlanks_le (s : Text) : (skipBlanks s).length ≤ s.length :=
  length_dropWhile_le _ _

theorem length_search_le {close : Text → Option Text}
    (hc : ∀ s r, close s = some r → r.length ≤ s.length) {s a b : Text}
    (h : search close s = some (a, b)) : b.length ≤ s.length := by
  induction s generalizing a b with
  | nil =>
    simp only [search, Option.map_eq_some_iff] at h
    obtain ⟨r, hr, he⟩ := h
    cases he
    exact hc _ _ hr
  | cons c s ih =>
    simp only [search] at h
    split at h
    · next r hr => cases h; exact hc _ _ hr
    · simp only [Option.map_eq_some_iff] at h
      obtain ⟨⟨a', b'⟩, hr, he⟩ := h
      cases he
      exact Nat.le_succ_of_le (ih hr)

theorem length_cut?_lt {sep : Char} {s a b : Text} (h : cut? sep s = some (a, b)) :
    b.length < s.length := by
  induction s generalizing a b with
  | nil => simp [cut?] at h
  | cons c s ih =>
    simp only [cut?] at h
    split at h
    · cases h; simp
    · simp only [Option.map_eq_some_iff] at h
      obtain ⟨⟨a', b'⟩, hr, he⟩ := h
      cases he
      exact Nat.lt_succ_of_lt (ih hr)

/-- What is made of the markup at the head of a text. -/
inductive Reading where
  /-- Tokens, the element whose raw text follows, if any, and the rest. -/
  | read (tokens : List Token) (raw : Option Text) (rest : Text)
  | incomplete
  | rejected (why : Rejection)

end Componentry.Markup
