import Componentry.Text.Basic

/-!
Cuts of a text at a place that is known.
-/
namespace Componentry.Text
variable {p : Char → Bool} {u s : Text}

theorem takeWhile_append_stop (hu : ∀ c ∈ u, p c = true)
    (hs : ∀ c, s.head? = some c → p c = false) : (u ++ s).takeWhile p = u := by
  rw [List.takeWhile_append_of_pos hu]
  cases s with
  | nil => simp
  | cons c s => rw [List.takeWhile_cons_of_neg (by simp [hs c rfl]), List.append_nil]

theorem dropWhile_append_stop (hu : ∀ c ∈ u, p c = true)
    (hs : ∀ c, s.head? = some c → p c = false) : (u ++ s).dropWhile p = s := by
  rw [List.dropWhile_append_of_pos hu]
  cases s with
  | nil => rfl
  | cons c s => exact List.dropWhile_cons_of_neg (by simp [hs c rfl])

theorem prefix_takeWhile (h : u <+: s) (hu : ∀ c ∈ u, p c = true) : u <+: s.takeWhile p := by
  obtain ⟨t, rfl⟩ := h
  rw [List.takeWhile_append_of_pos hu]
  exact List.prefix_append u _

theorem cut?_append {sep : Char} (h : sep ∉ u) : cut? sep (u ++ sep :: s) = some (u, s) := by
  induction u with
  | nil => simp [cut?]
  | cons c u ih =>
    have hc : c ≠ sep := fun he => h (by simp [he])
    simp [cut?, hc, ih fun hm => h (List.mem_cons_of_mem c hm)]

theorem eq_append_of_cut? {sep : Char} {a b : Text} (h : cut? sep s = some (a, b)) : s = a ++ sep :: b := by
  induction s generalizing a with
  | nil => simp [cut?] at h
  | cons c s ih =>
    rw [cut?] at h
    by_cases hc : c = sep
    · subst hc
      simp only [if_pos, Option.some.injEq, Prod.mk.injEq] at h
      rw [← h.1, ← h.2, List.nil_append]
    · rw [if_neg hc, Option.map_eq_some_iff] at h
      obtain ⟨⟨a', b'⟩, hcut, he⟩ := h
      cases he
      rw [ih hcut, List.cons_append]

/-- A beginning reaches no further than the first character that it has not. -/
theorem startsWith_append_cons {q : Text} {c : Char} (hc : c ∉ q) (u s : Text) :
    startsWith q (u ++ c :: s) = startsWith q u := by
  unfold startsWith
  induction q generalizing u with
  | nil => rfl
  | cons d q ih =>
    have hd : d ≠ c := fun he => hc (by simp [he])
    cases u with
    | nil => simp [after?, hd]
    | cons e u =>
      rw [List.cons_append, after?, after?]
      split
      · exact ih (fun hm => hc (List.mem_cons_of_mem d hm)) u
      · rfl

end Componentry.Text
