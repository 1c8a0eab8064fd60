import Componentry.Proofs.Component.NameChar
import Componentry.Proofs.Text.Case
import Componentry.Proofs.Text.Replace
import Componentry.Proofs.Text.Trim

/-!
The identifier of a title is a name that a function can have, whatever the title is, and it is its own
identifier. The texts that are their own identifiers are just these names.
-/
namespace Componentry.Component
open Componentry.Text

/-- How a name begins: with a letter, or with an underscore before a digit. -/
inductive OpensName : Text → Prop where
  | letter {c : Char} (s : Text) : isLower c = true → OpensName (c :: s)
  | digit {c : Char} (s : Text) : isDigit c = true → OpensName ('_' :: c :: s)

structure IsSlug (s : Text) : Prop where
  opens : OpensName s
  chars : ∀ c ∈ s, isNameChar c = true
  ends : s.getLast? ≠ some '_'

section Names
variable {c : Char} {s : Text}

theorem OpensName.ne_nil (h : OpensName s) : s ≠ [] := by
  cases h <;> simp

theorem not_isDigit_of_isLower (h : isLower c = true) : isDigit c = false := by
  have hlower := isLower_iff.1 h
  rw [Bool.eq_false_iff, Ne, isDigit_iff]
  omega

theorem isLower_or_isDigit (h : isNameChar c = true) (hc : c ≠ '_') : isLower c = true ∨ isDigit c = true := by
  simpa [isNameChar, hc] using h

theorem underscore_isNameChar : isNameChar '_' = true := by decide

end Names

/-! ### What is left of a title -/

section Kept
variable {c : Char} {s : Text}

theorem isNameChar_of_isSlugChar (h : isSlugChar c = true) (hc : isBlank c = false) : isNameChar c = true := by
  simpa [isSlugChar, isNameChar, hc] using h

/-- Blanks give way to underscores, and the other characters stay. -/
theorem mem_joinBlanks (h : c ∈ joinBlanks s) : c = '_' ∨ (c ∈ s ∧ isBlank c = false) := by
  fun_induction joinBlanks s with
  | case1 => exact absurd h List.not_mem_nil
  | case2 d s hd hnext ih =>
    obtain hunder | ⟨hmem, hblank⟩ := ih h
    · exact .inl hunder
    · exact .inr ⟨List.mem_cons_of_mem d hmem, hblank⟩
  | case3 d s hd hnext ih =>
    obtain rfl | h := List.mem_cons.1 h
    · exact .inl rfl
    obtain hunder | ⟨hmem, hblank⟩ := ih h
    · exact .inl hunder
    · exact .inr ⟨List.mem_cons_of_mem d hmem, hblank⟩
  | case4 d s hd ih =>
    obtain rfl | h := List.mem_cons.1 h
    · exact .inr ⟨List.mem_cons_self, by simpa using hd⟩
    obtain hunder | ⟨hmem, hblank⟩ := ih h
    · exact .inl hunder
    · exact .inr ⟨List.mem_cons_of_mem d hmem, hblank⟩

theorem mem_of_mem_trimWhere {p : Char → Bool} (h : c ∈ trimWhere p s) : c ∈ s := by
  have hback := (List.dropWhile_sublist p).subset (List.mem_reverse.1 h)
  exact (List.dropWhile_sublist p).subset (List.mem_reverse.1 hback)

/-- Name characters without underscores at the ends become a name. -/
theorem isSlug_of_cons (hchars : ∀ d ∈ c :: s, isNameChar d = true) (hfirst : c ≠ '_')
    (hlast : (c :: s).getLast? ≠ some '_') : IsSlug (if isDigit c then '_' :: c :: s else c :: s) := by
  obtain hlower | hdigit := isLower_or_isDigit (hchars c List.mem_cons_self) hfirst
  · rw [not_isDigit_of_isLower hlower]
    exact ⟨.letter s hlower, hchars, hlast⟩
  · rw [if_pos hdigit]
    exact ⟨.digit s hdigit, List.forall_mem_cons.2 ⟨underscore_isNameChar, hchars⟩,
      by rwa [List.getLast?_cons_cons]⟩

theorem isSlug_slug (title : Text) : IsSlug (slug title) := by
  have hexample : IsSlug "example" := ⟨.letter _ (by decide), List.all_eq_true.1 (by decide), by decide⟩
  unfold slug
  generalize hkept : (dropLastWord (dropFirstWord (lower (replaceSymbols title)))).filter isSlugChar = kept
  have hchars : ∀ d ∈ trimWhere (· = '_') (joinBlanks kept), isNameChar d = true := by
    intro d hd
    obtain rfl | ⟨hmem, hblank⟩ := mem_joinBlanks (mem_of_mem_trimWhere hd)
    · exact underscore_isNameChar
    · rw [← hkept] at hmem
      exact isNameChar_of_isSlugChar (List.mem_filter.1 hmem).2 hblank
  dsimp only
  split
  · exact hexample
  · next c s hcut =>
    have hfirst : c ≠ '_' := by simpa using head?_trimWhere (congrArg List.head? hcut)
    have hlast : (c :: s).getLast? ≠ some '_' := by
      intro hend
      rw [← hcut] at hend
      exact absurd (getLast?_trimWhere hend) (by decide)
    exact isSlug_of_cons (hcut ▸ hchars) hfirst hlast

end Kept

/-! ### Names as titles -/

section Verbatim
variable {s : Text}

theorem replaceSymbols_eq_self (h : ∀ c ∈ s, c.toNat < 128) : replaceSymbols s = s := by
  have hglyphs : (symbolWords.all fun e => e.1.any fun c => 128 ≤ c.toNat) = true := by decide
  have hnone : ∀ e ∈ symbolWords, replace e.1 e.2 s = s := by
    intro e he
    obtain ⟨c, hc, hwide⟩ := List.any_eq_true.1 (List.all_eq_true.1 hglyphs e he)
    refine replace_eq_self (Bool.eq_false_iff.2 fun hin => ?_)
    have hascii := h c ((contains_iff.1 hin).subset hc)
    have hglyph := of_decide_eq_true hwide
    omega
  rw [replaceSymbols]
  generalize symbolWords = es at hnone
  induction es with
  | nil => rfl
  | cons e es ih =>
    rw [List.foldl_cons, hnone e List.mem_cons_self]
    exact ih fun e he => hnone e (List.mem_cons_of_mem _ he)

theorem head?_not_blank (h : ∀ c ∈ s, isBlank c = false) : (s.head?.map isBlank).getD false = false := by
  cases s with
  | nil => rfl
  | cons c s => exact h c List.mem_cons_self

theorem not_blank_of_word {w : Text → Text} {r : Text} (h : ∀ c ∈ s, isBlank c = false)
    (hr : componentWords.findSome? (fun v => after? (w v) s) = some r) :
    (r.head?.map isBlank).getD false = false := by
  obtain ⟨v, -, hv⟩ := List.exists_of_findSome?_eq_some hr
  have hs := eq_append_of_after? hv
  exact head?_not_blank fun c hc => h c (hs ▸ List.mem_append_right _ hc)

/-- Component words go with the blanks that part them from the others. -/
theorem dropFirstWord_eq_self (h : ∀ c ∈ s, isBlank c = false) : dropFirstWord s = s := by
  rw [dropFirstWord]
  split
  · next rest hrest => rw [not_blank_of_word (w := id) h hrest, if_neg Bool.false_ne_true]
  · rfl

theorem dropLastWord_eq_self (h : ∀ c ∈ s, isBlank c = false) : dropLastWord s = s := by
  have hback : ∀ c ∈ s.reverse, isBlank c = false := fun c hc => h c (List.mem_reverse.1 hc)
  unfold dropLastWord
  generalize s.reverse = backward at hback
  dsimp only
  split
  · next t ht =>
    obtain ⟨rest, hrest, hsome⟩ := Option.bind_eq_some_iff.1 ht
    split at hrest
    · exact absurd (hback '\n' List.mem_cons_self) (by decide)
    · rw [not_blank_of_word (w := List.reverse) hback hrest, if_neg Bool.false_ne_true] at hsome
      cases hsome
  · rfl

theorem joinBlanks_eq_self (h : ∀ c ∈ s, isBlank c = false) : joinBlanks s = s := by
  induction s with
  | nil => rfl
  | cons c s ih =>
    rw [joinBlanks, h c List.mem_cons_self, if_neg Bool.false_ne_true,
      ih fun d hd => h d (List.mem_cons_of_mem c hd)]

/-- A name keeps its letters, and the underscore before a digit is put back. -/
theorem slug_eq_self (h : IsSlug s) : slug s = s := by
  have hascii : ∀ c ∈ s, c.toNat < 128 := fun c hc => ascii_of_isNameChar (h.chars c hc)
  have hlower : lower s = s := lower_eq_self fun c hc => ⟨hascii c hc, toLower_of_isNameChar (h.chars c hc)⟩
  have hblank : ∀ c ∈ s, isBlank c = false := fun c hc => isBlank_of_isNameChar (h.chars c hc)
  have hkept : s.filter isSlugChar = s :=
    List.filter_eq_self.2 fun c hc => isSlugChar_of_isNameChar (h.chars c hc)
  have hends : ∀ c, s.getLast? = some c → decide (c = '_') = false := by
    intro c hc
    exact decide_eq_false fun he => h.ends (he ▸ hc)
  unfold slug
  rw [replaceSymbols_eq_self hascii, hlower, dropFirstWord_eq_self hblank, dropLastWord_eq_self hblank, hkept]
  dsimp only
  rw [joinBlanks_eq_self hblank]
  cases h.opens with
  | @letter c t hc =>
    have hfirst : c ≠ '_' := by
      rintro rfl
      exact absurd hc (by decide)
    rw [trimWhere_eq_self_of_ends (by simpa using hfirst) hends]
    dsimp only
    rw [not_isDigit_of_isLower hc, if_neg Bool.false_ne_true]
  | @digit c t hc =>
    have hfirst : c ≠ '_' := by
      rintro rfl
      exact absurd hc (by decide)
    have hunder : (['_'] : Text).all (· = '_') = true := by decide
    have hcut : trimWhere (· = '_') (['_'] ++ (c :: t)) = c :: t := by
      rw [trimWhere_append_left hunder]
      exact trimWhere_eq_self_of_ends (by simpa using hfirst) fun d hd => hends d (by rwa [List.getLast?_cons_cons])
    rw [List.singleton_append] at hcut
    rw [hcut]
    dsimp only
    rw [if_pos hc]

end Verbatim

/-- The identifier of a title is not empty, begins with a letter or with an underscore before a digit, holds
only small letters, digits and underscores, and ends with none of the last. It is its own identifier, and so
is every such name, but no other text. -/
theorem slug_is_identifier (title : Text) :
    slug title ≠ [] ∧ IsSlug (slug title) ∧ slug (slug title) = slug title ∧ (slug title = title ↔ IsSlug title) := by
  have hslug := isSlug_slug title
  refine ⟨hslug.opens.ne_nil, hslug, slug_eq_self hslug, fun h => ?_, slug_eq_self⟩
  rwa [h] at hslug

example : slug "3 divs in a stack" = ("_3_divs_in_a_stack" : Text) := by decide

end Componentry.Component
