import Componentry.Proofs.Elixir.LiteralReading
import Componentry.Proofs.Text.Replace

/-!
The string literal of a text denotes the text. A backslash is put before each character that would be read
as something else, and nowhere else, so that the reader meets the characters one by one.
-/
namespace Componentry.Elixir
open Componentry.Text

/-- The text that a string literal denotes at the beginning, and what follows its closing quote. -/
def readLiteral : Text → Option (Text × Text)
  | '"' :: s => readString s
  | _ => none

/-- A character that does not stand for itself between quotes, with `s` after it. -/
def isSpecial (c : Char) (s : Text) : Prop := c = '\\' ∨ c = '"' ∨ (c = '#' ∧ s.head? = some '\x7b')

instance (c : Char) (s : Text) : Decidable (isSpecial c s) := inferInstanceAs (Decidable (_ ∨ _ ∨ _))

section Escaping
variable {c : Char} {s t rest : Text}

/-- The first two replacements, character by character. -/
def quoteEscaped (c : Char) : Text := if c = '\\' ∨ c = '"' then ['\\', c] else [c]

theorem writeFor_quoteEscaped (c : Char) :
    (writeFor '\\' "\\\\" c).flatMap (writeFor '"' "\\\"") = quoteEscaped c := by
  by_cases hb : c = '\\'
  · subst hb
    decide
  by_cases hq : c = '"'
  · subst hq
    decide
  simp [writeFor, quoteEscaped, hb, hq, Ne.symm hb, Ne.symm hq]

theorem escapeString_eq (s : Text) :
    escapeString s = replace ['#', '\x7b'] ['\\', '#', '\x7b'] (s.flatMap quoteEscaped) := by
  have hquotes : replace ['"'] "\\\"" (replace ['\\'] "\\\\" s) = s.flatMap quoteEscaped := by
    rw [replace_singleton, replace_singleton, List.flatMap_assoc]
    simp only [writeFor_quoteEscaped]
  exact congrArg _ hquotes

/-- No brace comes to stand first, and none is moved from there. -/
theorem head?_flatMap_quoteEscaped (s : Text) :
    (s.flatMap quoteEscaped).head? = some '\x7b' ↔ s.head? = some '\x7b' := by
  cases s with
  | nil => rfl
  | cons c s =>
    by_cases hc : c = '\\' ∨ c = '"'
    · obtain rfl | rfl := hc
      · simp [quoteEscaped]
      · simp [quoteEscaped]
    · simp [quoteEscaped, hc]

/-- A special character gets a backslash, and any other is written as it is. -/
theorem escapeString_cons (c : Char) (s : Text) :
    escapeString (c :: s) = (if isSpecial c s then ['\\', c] else [c]) ++ escapeString s := by
  rw [escapeString_eq, escapeString_eq, List.flatMap_cons]
  by_cases hquote : c = '\\' ∨ c = '"'
  · have hspecial : isSpecial c s := by
      obtain hb | hq := hquote
      · exact .inl hb
      · exact .inr (.inl hq)
    have hc : c ≠ '#' := by
      rintro rfl
      exact absurd hquote (by decide)
    rw [if_pos hspecial, quoteEscaped, if_pos hquote, List.cons_append, List.cons_append, List.nil_append,
      replace_cons (by simp [startsWith_interpolation]), replace_cons (by simp [startsWith_interpolation, hc])]
    rfl
  have hplain : quoteEscaped c = [c] := if_neg hquote
  rw [hplain, List.singleton_append]
  by_cases hopens : c = '#' ∧ s.head? = some '\x7b'
  · obtain ⟨rfl, hhead⟩ := hopens
    obtain ⟨s, rfl⟩ := List.head?_eq_some_iff.1 hhead
    have hbrace : ('\x7b' :: s).flatMap quoteEscaped = '\x7b' :: s.flatMap quoteEscaped := rfl
    have hfirst : replace ['#', '\x7b'] ['\\', '#', '\x7b'] (['#', '\x7b'] ++ s.flatMap quoteEscaped) = _ :=
      replace_append (by simp) _ _
    rw [if_pos (.inr (.inr ⟨rfl, rfl⟩)), hbrace, replace_cons (c := '\x7b') (by simp [startsWith_interpolation])]
    exact hfirst
  · have hspecial : ¬isSpecial c s := by
      rintro (hb | hq | hi)
      · exact hquote (.inl hb)
      · exact hquote (.inr hq)
      · exact hopens hi
    have hstarts : startsWith ['#', '\x7b'] (c :: s.flatMap quoteEscaped) = false := by
      rw [startsWith_interpolation]
      exact decide_eq_false fun h => hopens ⟨h.1, (head?_flatMap_quoteEscaped s).1 h.2⟩
    rw [if_neg hspecial, replace_cons hstarts]
    rfl

/-- What is put before a character is no brace. -/
theorem head?_escapeString (s : Text) : (escapeString s).head? = some '\x7b' ↔ s.head? = some '\x7b' := by
  cases s with
  | nil => rfl
  | cons c s =>
    rw [escapeString_cons]
    split
    · next h =>
      have hc : c ≠ '\x7b' := by
        rintro rfl
        exact absurd h (by simp [isSpecial])
      simp [hc]
    · rfl

end Escaping

/-! ### Reading it back -/

section Reading
variable {c : Char} {s t rest : Text}

/-- A quote after a backslash does not end the string. -/
theorem cutQuote?_escaped (c : Char) (h : cutQuote? false s = some (t, rest)) :
    cutQuote? false ('\\' :: c :: s) = some ('\\' :: c :: t, rest) := by
  have hnext : cutQuote? true (c :: s) = some (c :: t, rest) := by
    rw [cutQuote?, if_neg (by simp), Bool.not_true, Bool.and_false, h]
    rfl
  rw [cutQuote?, if_neg (by decide)]
  simp [hnext]

theorem cutQuote?_cons (hb : c ≠ '\\') (hq : c ≠ '"') (h : cutQuote? false s = some (t, rest)) :
    cutQuote? false (c :: s) = some (c :: t, rest) := by
  rw [cutQuote?, if_neg fun hc => hq hc.1, decide_eq_false hb, Bool.false_and, h]
  rfl

/-- The first quote without a backslash is the one that closes the literal. -/
theorem cutQuote?_escapeString (t rest : Text) :
    cutQuote? false (escapeString t ++ '"' :: rest) = some (escapeString t, rest) := by
  induction t with
  | nil => rfl
  | cons c t ih =>
    rw [escapeString_cons]
    split
    · exact cutQuote?_escaped c ih
    · next h => exact cutQuote?_cons (fun hb => h (.inl hb)) (fun hq => h (.inr (.inl hq))) ih

/-- A special character stands for itself after a backslash. -/
theorem escaped?_special (h : isSpecial c s) : escaped? c = some [c] := by
  obtain rfl | rfl | ⟨rfl, -⟩ := h
  · decide
  · decide
  · decide

theorem unescape_escapeString (t : Text) : unescape (escapeString t) = some t := by
  rw [unescape]
  induction t with
  | nil => rfl
  | cons c t ih =>
    rw [escapeString_cons]
    split
    · next h =>
      rw [List.cons_append, List.singleton_append, unescapeFrom, if_neg Bool.false_ne_true, if_pos rfl, unescapeFrom,
        if_pos rfl, escaped?_special h, Option.bind_some, ih]
      rfl
    · next h =>
      have hb : c ≠ '\\' := fun hb => h (.inl hb)
      have hopens : ¬(c = '#' ∧ (escapeString t).head? = some '\x7b') := by
        rw [head?_escapeString]
        exact fun hi => h (.inr (.inr hi))
      rw [List.singleton_append, unescapeFrom, if_neg Bool.false_ne_true, if_neg hb, if_neg hopens, ih]
      rfl

end Reading

/-- The string literal of a text is read to its end and no further, has no interpolation, and denotes the
text. -/
theorem read_stringLiteral (t rest : Text) : readLiteral (stringLiteral t ++ rest) = some (t, rest) := by
  have hliteral : stringLiteral t ++ rest = '"' :: (escapeString t ++ '"' :: rest) := by
    rw [stringLiteral, List.append_assoc, List.singleton_append, List.cons_append]
  rw [hliteral, readLiteral, readString, cutQuote?_escapeString, Option.bind_some, unescape_escapeString,
    Option.map_some]

end Componentry.Elixir
