import Componentry.Text.Basic

/-!
Replacing one character is a substitution, character by character; a text without the sought one
stays as it is.
-/
namespace Componentry.Text

/-! ### Occurrences -/

theorem startsWith_iff {p s : Text} : startsWith p s = true ↔ p <+: s := by
  rw [startsWith, Option.isSome_iff_exists]
  constructor
  · intro h
    obtain ⟨r, hr⟩ := h
    exact ⟨r, (eq_append_of_after? hr).symm⟩
  · intro h
    obtain ⟨r, rfl⟩ := h
    exact ⟨r, after?_append p r⟩

theorem contains_iff {p s : Text} : contains p s = true ↔ p <:+: s := by
  induction s with
  | nil => rw [contains, List.isEmpty_iff, List.infix_nil]
  | cons c s ih => rw [contains, Bool.or_eq_true, startsWith_iff, ih, List.infix_cons_iff]

/-- A text without the character hides none that follows it. -/
theorem cons_suffix_append_iff {c : Char} {u s r : Text} (hu : c ∉ u) : c :: r <:+ u ++ s ↔ c :: r <:+ s := by
  induction u with
  | nil => rfl
  | cons d u ih =>
    have hd : (c :: r : Text) ≠ d :: (u ++ s) := fun he => hu (List.mem_cons.2 (.inl (List.cons.inj he).1))
    rw [List.cons_append, List.suffix_cons_iff, ih fun hin => hu (List.mem_cons_of_mem d hin)]
    exact or_iff_right hd

/-- What occurs around a character that it does not have occurs on one side of it. -/
theorem prefix_of_prefix_append_cons {c : Char} {p u v : Text} (hc : c ∉ p) (h : p <+: u ++ c :: v) : p <+: u := by
  have hu : u ++ [c] <+: u ++ c :: v := ⟨v, by rw [List.append_assoc]; rfl⟩
  rcases List.prefix_or_prefix_of_prefix h hu with hp | hp
  · rcases List.prefix_concat_iff.1 hp with rfl | hp
    · exact absurd (by simp) hc
    · exact hp
  · exact absurd (hp.subset (by simp)) hc

theorem infix_append_cons {c : Char} {p u v : Text} (hc : c ∉ p) (h : p <:+: u ++ c :: v) :
    p <:+: u ∨ p <:+: v := by
  induction u with
  | nil =>
    rcases List.infix_cons_iff.1 h with h | h
    · exact .inl (prefix_of_prefix_append_cons hc h).isInfix
    · exact .inr h
  | cons d u ih =>
    rcases List.infix_cons_iff.1 h with h | h
    · exact .inl (prefix_of_prefix_append_cons hc h).isInfix
    · exact (ih h).imp_left fun hu => List.infix_cons_iff.2 (.inr hu)

/-! ### Replacing -/

/-- Writes `q` for `c` and leaves every other character. -/
def writeFor (c : Char) (q : Text) (d : Char) : Text := if c = d then q else [d]

theorem startsWith_singleton (c d : Char) (s : Text) : startsWith [c] (d :: s) = decide (c = d) := by
  by_cases h : c = d <;> simp [startsWith, after?, h]

theorem replace_singleton (c : Char) (q s : Text) : replace [c] q s = s.flatMap (writeFor c q) := by
  rw [replace]
  induction s with
  | nil => rfl
  | cons d s ih =>
    rw [replaceFrom, startsWith_singleton, List.flatMap_cons, ← ih]
    by_cases h : c = d <;> simp [writeFor, h]

theorem not_mem_replace_singleton {c : Char} {q s : Text} (h : c ∉ q) : c ∉ replace [c] q s := by
  rw [replace_singleton, List.mem_flatMap]
  intro hmem
  obtain ⟨d, -, hd⟩ := hmem
  rw [writeFor] at hd
  split at hd
  · exact h hd
  · next hne => exact hne (List.mem_singleton.1 hd)

/-- A character that neither the text nor the replacement has does not come in. -/
theorem not_mem_replace {c d : Char} {q s : Text} (hq : d ∉ q) (hs : d ∉ s) : d ∉ replace [c] q s := by
  rw [replace_singleton, List.mem_flatMap]
  intro hmem
  obtain ⟨e, he, hd⟩ := hmem
  rw [writeFor] at hd
  split at hd
  · exact hq hd
  · exact hs (List.mem_singleton.1 hd ▸ he)

theorem replace_eq_self {p q s : Text} (h : contains p s = false) : replace p q s = s := by
  rw [replace]
  induction s with
  | nil => rfl
  | cons c s ih =>
    simp only [contains, Bool.or_eq_false_iff] at h
    rw [replaceFrom, h.1, ih h.2]
    rfl

theorem replaceFrom_skip (p q skip s : Text) :
    replaceFrom p q skip.length (skip ++ s) = replaceFrom p q 0 s := by
  induction skip with
  | nil => rfl
  | cons c skip ih => exact ih

theorem replace_append {p : Text} (hp : p ≠ []) (q s : Text) : replace p q (p ++ s) = q ++ replace p q s := by
  obtain ⟨c, p, rfl⟩ := List.exists_cons_of_ne_nil hp
  have hstarts : startsWith (c :: p) (c :: (p ++ s)) = true := startsWith_iff.2 ⟨s, rfl⟩
  rw [replace, List.cons_append, replaceFrom, if_pos hstarts, List.length_cons, Nat.add_sub_cancel,
    replaceFrom_skip, replace]

theorem replace_cons {p s : Text} {c : Char} (h : startsWith p (c :: s) = false) (q : Text) :
    replace p q (c :: s) = c :: replace p q s := by
  rw [replace, replaceFrom, h]
  rfl

/-- Taking out makes no text longer. -/
theorem length_replace_le (p s : Text) : (replace p [] s).length ≤ s.length := by
  rw [replace]
  generalize 0 = skip
  fun_induction replaceFrom p [] skip s with
  | case1 => exact Nat.le_refl _
  | case2 skip c s ih => exact Nat.le_succ_of_le ih
  | case3 c s hstarts ih => exact Nat.le_succ_of_le ih
  | case4 c s hstarts ih => exact Nat.succ_le_succ ih

end Componentry.Text
