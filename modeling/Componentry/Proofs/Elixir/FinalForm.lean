import Componentry.Elixir.Module
import Componentry.Proofs.Text.Replace
import Componentry.Proofs.Text.Trim

/-!
The final form of a module's text: which texts have it, and that bringing a text to it takes away
nothing but blanks.
-/
namespace Componentry.Elixir
open Componentry.Text

/-- Line feeds one after the other. -/
def feeds (n : Nat) : Text := List.replicate n '\n'

/-- Never two empty lines in a row; one line feed at the end, and no other blank at either end. -/
structure IsFormatted (s : Text) : Prop where
  no_gap : ¬ feeds 3 <:+: s
  ended : ∃ body, s = body ++ ['\n'] ∧
    (∀ c, body.head? = some c → isBlank c = false) ∧ ∀ c, body.getLast? = some c → isBlank c = false

section Runs
variable {c : Char} {m n seen : Nat} {s u v : Text}

theorem feeds_append : feeds m ++ feeds n = feeds (m + n) := List.replicate_append_replicate

theorem feeds_append_cons : feeds n ++ '\n' :: s = feeds (n + 1) ++ s := by
  rw [← feeds_append, List.append_assoc]
  rfl

theorem feeds_infix_append_cons (hc : c ≠ '\n') (h : feeds n <:+: u ++ c :: v) :
    feeds n <:+: u ∨ feeds n <:+: v :=
  infix_append_cons (fun hmem => hc (List.eq_of_mem_replicate hmem)) h

theorem le_length_of_feeds (h : feeds n <:+: s) : n ≤ s.length := by
  have hle := h.length_le
  rwa [feeds, List.length_replicate] at hle

/-- The line feeds seen and what is kept have no gap together. -/
theorem no_gap_squeezeFrom (hseen : seen ≤ 2) (s : Text) : ¬ feeds 3 <:+: feeds seen ++ squeezeFrom seen s := by
  have hshort {n : Nat} (hn : n ≤ 2) : ¬ feeds 3 <:+: feeds n := by
    intro hin
    have hle := le_length_of_feeds hin
    rw [feeds, List.length_replicate] at hle
    omega
  induction s generalizing seen with
  | nil =>
    rw [squeezeFrom, List.append_nil]
    exact hshort hseen
  | cons c s ih =>
    rw [squeezeFrom]
    by_cases hc : c = '\n'
    · rw [if_pos hc, hc]
      split
      · next hfew =>
        rw [feeds_append_cons]
        exact ih hfew
      · exact ih hseen
    · rw [if_neg hc]
      intro hin
      rcases feeds_infix_append_cons hc hin with hin | hin
      · exact hshort hseen hin
      · exact ih (Nat.zero_le 2) hin

theorem squeezeFrom_of_no_gap (h : ¬ feeds 3 <:+: feeds seen ++ s) : squeezeFrom seen s = s := by
  induction s generalizing seen with
  | nil => rfl
  | cons c s ih =>
    rw [squeezeFrom]
    by_cases hc : c = '\n'
    · rw [hc, feeds_append_cons] at h
      have hfew : seen < 2 := by
        by_contra hmany
        have hlong : feeds (seen + 1) = feeds 3 ++ feeds (seen - 2) := by
          rw [feeds_append]
          congr 1
          omega
        exact h ⟨[], feeds (seen - 2) ++ s, by rw [hlong, List.nil_append, List.append_assoc]⟩
      rw [if_pos hc, if_pos hfew, ih h]
    · have hrest : feeds 0 ++ s <:+: feeds seen ++ c :: s := ⟨feeds seen ++ [c], [], by simp [feeds]⟩
      rw [if_neg hc, ih fun hin => h (hin.trans hrest)]

theorem filter_squeezeFrom (seen : Nat) (s : Text) :
    (squeezeFrom seen s).filter (!isBlank ·) = s.filter (!isBlank ·) := by
  have hfeed (t : Text) : ('\n' :: t).filter (!isBlank ·) = t.filter (!isBlank ·) :=
    List.filter_cons_of_neg (by decide)
  induction s generalizing seen with
  | nil => rfl
  | cons c s ih =>
    rw [squeezeFrom]
    by_cases hc : c = '\n'
    · rw [if_pos hc, hc, hfeed s]
      split
      · rw [hfeed, ih]
      · exact ih seen
    · rw [if_neg hc, List.filter_cons, List.filter_cons, ih]

end Runs

/-! ### The form and its texts -/

theorem isFormatted_formatCode (s : Text) : IsFormatted (formatCode s) where
  no_gap := by
    have hkept : ¬ feeds 3 <:+: trim (squeezeFrom 0 s) :=
      fun hin => no_gap_squeezeFrom (Nat.zero_le 2) s (hin.trans isInfix_trimWhere)
    rw [formatCode]
    intro hin
    rcases List.eq_nil_or_concat (trim (squeezeFrom 0 s)) with hnil | ⟨front, c, hlast⟩
    · rw [hnil] at hin
      exact absurd (le_length_of_feeds hin) (by decide)
    · -- the last character before the line feed is no blank, hence no line feed
      have hc : isBlank c = false := getLast?_trimWhere (s := squeezeFrom 0 s) (by rw [← trim, hlast]; simp)
      have hfeed : c ≠ '\n' := by
        intro he
        rw [he] at hc
        cases hc
      rw [hlast, List.concat_eq_append, List.append_assoc] at hin
      rcases feeds_infix_append_cons hfeed hin with hin | hin
      · exact hkept (hin.trans ⟨[], [c], by rw [hlast, List.nil_append, List.concat_eq_append]⟩)
      · exact absurd (le_length_of_feeds hin) (by decide)
  ended := ⟨trim (squeezeFrom 0 s), rfl, fun _ => head?_trimWhere, fun _ => getLast?_trimWhere⟩

theorem formatCode_of_isFormatted {s : Text} (h : IsFormatted s) : formatCode s = s := by
  obtain ⟨body, hs, hhead, hlast⟩ := h.ended
  have hgap : squeezeFrom 0 s = s := squeezeFrom_of_no_gap h.no_gap
  rw [formatCode, hgap, hs, trim_append_right (by decide), trim, trimWhere_eq_self_of_ends hhead hlast]

theorem filter_formatCode (s : Text) : (formatCode s).filter (!isBlank ·) = s.filter (!isBlank ·) := by
  have hfeed : ['\n'].filter (!isBlank ·) = [] := by decide
  rw [formatCode, List.filter_append, hfeed, List.append_nil, trim, filter_trimWhere, filter_squeezeFrom]

/-- A text is brought to its final form without losing a character that is no blank, and the texts
in final form are just the ones that stay as they are. -/
theorem formatCode_normal (s : Text) :
    IsFormatted (formatCode s) ∧
      (formatCode s).filter (!isBlank ·) = s.filter (!isBlank ·) ∧
      formatCode (formatCode s) = formatCode s ∧
      (formatCode s = s ↔ IsFormatted s) :=
  ⟨isFormatted_formatCode s, filter_formatCode s, formatCode_of_isFormatted (isFormatted_formatCode s),
    fun h => h ▸ isFormatted_formatCode s, formatCode_of_isFormatted⟩

example : formatCode "\n a\n\n\n\nb\n\n\r\n\nc \n\n" = ("a\n\nb\n\n\r\n\nc\n" : Text) := by decide

end Componentry.Elixir
