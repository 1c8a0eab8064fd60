import Componentry.Markup.Heex
import Componentry.Markup.Reference
import Componentry.Proofs.Text.Replace

/-!
Escaping text and attribute values, character by character, and reading the values back.
-/
namespace Componentry.Markup
open Componentry.Text

/-! ### Running text -/

/-- The entity of a character that has one, or the character itself. -/
def entityOf (c : Char) : Text := (entities.lookup c).getD [c]

theorem entityOf_of_ne {c : Char} (h : ∀ e ∈ entities, e.1 ≠ c) : entityOf c = [c] := by
  have hn : entities.lookup c = none :=
    List.lookup_eq_none_iff.2 fun e he => bne_iff_ne.2 (h e he).symm
  rw [entityOf, hn, Option.getD_none]

/-- A character is written as its entity, or is none of the four and stands for itself. -/
theorem entityOf_cases (c : Char) : (c, entityOf c) ∈ entities ∨ c ≠ '&' ∧ entityOf c = [c] := by
  cases hl : entities.lookup c with
  | some q =>
    obtain ⟨l, r, he, -⟩ := List.lookup_eq_some_iff.1 hl
    rw [entityOf, hl, Option.getD_some, he]
    exact .inl (by simp)
  | none =>
    refine .inr ⟨?_, by rw [entityOf, hl, Option.getD_none]⟩
    rintro rfl
    exact absurd hl (by decide)

/-- The four replacements, one after the other, come to one substitution. -/
theorem escape_eq_flatMap (s : Text) : escape s = s.flatMap entityOf := by
  simp only [escape, entities, List.foldl, replace_singleton, List.flatMap_assoc]
  congr 1
  funext c
  by_cases h₁ : '&' = c
  · subst h₁; decide
  by_cases h₂ : '<' = c
  · subst h₂; decide
  by_cases h₃ : '>' = c
  · subst h₃; decide
  by_cases h₄ : '"' = c
  · subst h₄; decide
  have hno : ∀ e ∈ entities, e.1 ≠ c := by
    simp [entities, h₁, h₂, h₃, h₄]
  rw [entityOf_of_ne hno]
  simp only [writeFor, if_neg h₁, if_neg h₂, if_neg h₃, if_neg h₄, List.flatMap_cons, List.flatMap_nil,
    List.append_nil]

/-- Text that needs no escaping is its own escaped form. -/
theorem escapeText_eq_flatMap (s : Text) : escapeText s = s.flatMap entityOf := by
  rw [escapeText]
  split
  · exact escape_eq_flatMap s
  · next hn =>
    simp only [needsEscape, List.any_eq_true, decide_eq_true_eq, not_exists, not_and] at hn
    induction s with
    | nil => rfl
    | cons c s ih =>
      rw [List.flatMap_cons, entityOf_of_ne (hn c (by simp)), List.singleton_append,
        ← ih fun d hd => hn d (by simp [hd])]

/-- Brackets and quotes have entities, and no entity has one of them. -/
theorem mark_entities {c : Char} (hc : c ∈ ['<', '>', '"']) :
    (∃ e ∈ entities, e.1 = c) ∧ ∀ e ∈ entities, c ∉ entityOf e.1 := by
  simp only [List.mem_cons, List.not_mem_nil, or_false] at hc
  obtain rfl | rfl | rfl := hc
  all_goals decide

/-- Escaped text shows no bracket and no quote of its own. -/
theorem mark_not_mem_escapeText {c : Char} (hc : c ∈ ['<', '>', '"']) (s : Text) : c ∉ escapeText s := by
  obtain ⟨hentity, hplain⟩ := mark_entities hc
  rw [escapeText_eq_flatMap, List.mem_flatMap]
  rintro ⟨d, -, hd⟩
  rcases entityOf_cases d with he | ⟨-, hself⟩
  · exact hplain _ he hd
  · rw [hself, List.mem_singleton] at hd
    subst hd
    obtain ⟨e, he, rfl⟩ := hentity
    exact hplain e he (hself ▸ List.mem_singleton_self _)

theorem mark_not_mem_inlineHeex {c : Char} (hc : c ∈ ['<', '>', '"']) (ns : List Node) :
    c ∉ ns.flatMap Node.inlineHeex := by
  rw [List.mem_flatMap]
  intro h
  obtain ⟨n, -, hn⟩ := h
  cases n with
  | text v => exact mark_not_mem_escapeText hc v hn
  | _ => exact absurd hn List.not_mem_nil

/-! ### Attribute values -/

def quoteEntity : Text := "&quot;"

theorem valueReference?_quot (s : Text) :
    valueReference? ("quot;" ++ s : Text) = .ok (some (['"'], 5)) := by
  rfl

theorem resolveFrom_skip (skip s : Text) : resolveFrom skip.length (skip ++ s) = resolveFrom 0 s := by
  induction skip with
  | nil => rfl
  | cons c skip ih => exact ih

theorem resolveFrom_quoteEntity (s : Text) :
    resolveFrom 0 (quoteEntity ++ s) = (resolveFrom 0 s).map ('"' :: ·) := by
  have hskip : resolveFrom 5 ("quot;" ++ s : Text) = resolveFrom 0 s := resolveFrom_skip "quot;" s
  have hquote : (quoteEntity ++ s : Text) = '&' :: ("quot;" ++ s : Text) := rfl
  rw [hquote, resolveFrom, if_pos rfl, valueReference?_quot]
  show (resolveFrom 5 ("quot;" ++ s : Text)).bind _ = _
  rw [hskip]
  cases resolveFrom 0 s <;> rfl

theorem resolveFrom_cons {c : Char} (h : c ≠ '&') (s : Text) :
    resolveFrom 0 (c :: s) = (resolveFrom 0 s).map (c :: ·) := by
  rw [resolveFrom, if_neg h]
  cases resolveFrom 0 s <;> rfl

/-- A value in which nothing but the quotes is escaped reads back, unless it holds an ampersand. -/
theorem resolveValue_quoteEntity {v : Text} (h : '&' ∉ v) :
    resolveValue (replace ['"'] "&quot;" v) = .ok v := by
  rw [resolveValue, replace_singleton]
  induction v with
  | nil => rfl
  | cons c v ih =>
    have hc : c ≠ '&' := fun he => h (by simp [he])
    have hv := ih fun hm => h (List.mem_cons_of_mem c hm)
    rw [List.flatMap_cons, writeFor]
    by_cases hq : '"' = c
    · rw [if_pos hq]
      have hquote : resolveFrom 0 ("&quot;" ++ v.flatMap (writeFor '"' "&quot;") : Text) =
          (resolveFrom 0 (v.flatMap (writeFor '"' "&quot;"))).map ('"' :: ·) := resolveFrom_quoteEntity _
      rw [hquote, hv, ← hq]
      rfl
    · rw [if_neg hq, List.singleton_append, resolveFrom_cons hc, hv]
      rfl

end Componentry.Markup
