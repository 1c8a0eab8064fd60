import Componentry.Text.Blank
import Mathlib.Data.List.TakeWhile

/-!
What trimming takes away and what it leaves.
-/
namespace Componentry.Text

section TrimWhere
variable {p : Char → Bool} {u s w : Text}

theorem all_dropWhile : (s.dropWhile p).all p = s.all p := by
  induction s with
  | nil => rfl
  | cons c s ih =>
    by_cases hc : p c = true
    · rw [List.dropWhile_cons_of_pos hc, ih, List.all_cons, hc, Bool.true_and]
    · rw [List.dropWhile_cons_of_neg hc]

theorem all_trimWhere : (trimWhere p s).all p = s.all p := by
  rw [trimWhere, List.all_reverse, all_dropWhile, List.all_reverse, all_dropWhile]

theorem isInfix_trimWhere : trimWhere p s <:+: s := by
  have hfront : trimWhere p s <+: s.dropWhile p := by
    rw [trimWhere, ← List.reverse_suffix, List.reverse_reverse]
    exact List.dropWhile_suffix p
  exact hfront.isInfix.trans (List.dropWhile_suffix p).isInfix

theorem filter_dropWhile : (s.dropWhile p).filter (!p ·) = s.filter (!p ·) := by
  induction s with
  | nil => rfl
  | cons c s ih =>
    by_cases hc : p c = true
    · rw [List.dropWhile_cons_of_pos hc, ih, List.filter_cons_of_neg (by simp [hc])]
    · rw [List.dropWhile_cons_of_neg hc]

theorem filter_trimWhere : (trimWhere p s).filter (!p ·) = s.filter (!p ·) := by
  rw [trimWhere, List.filter_reverse, filter_dropWhile, List.filter_reverse, List.reverse_reverse,
    filter_dropWhile]

theorem dropWhile_eq_nil (h : s.all p) : s.dropWhile p = [] :=
  List.dropWhile_eq_nil_iff.2 (List.all_eq_true.1 h)

theorem trimWhere_append_left (h : u.all p) : trimWhere p (u ++ s) = trimWhere p s := by
  rw [trimWhere, List.dropWhile_append_of_pos (List.all_eq_true.1 h), trimWhere]

theorem trimWhere_append_right (h : w.all p) : trimWhere p (s ++ w) = trimWhere p s := by
  have hw : ∀ c ∈ w.reverse, p c = true := by simpa using h
  unfold trimWhere
  rw [List.dropWhile_append]
  split
  · next he =>
    rw [List.isEmpty_iff.1 he, dropWhile_eq_nil h]
  · rw [List.reverse_append, List.dropWhile_append_of_pos hw]

/-- What is left starts and ends with characters that stay. -/
theorem head?_trimWhere {c : Char} (h : (trimWhere p s).head? = some c) : p c = false := by
  obtain ⟨w, hw⟩ : trimWhere p s <+: s.dropWhile p := by
    rw [trimWhere, ← List.reverse_suffix, List.reverse_reverse]
    exact List.dropWhile_suffix p
  have hhead := List.head?_dropWhile_not p s
  rw [← hw, List.head?_append, h] at hhead
  simpa using hhead

theorem getLast?_trimWhere {c : Char} (h : (trimWhere p s).getLast? = some c) : p c = false := by
  have hlast := List.head?_dropWhile_not p (s.dropWhile p).reverse
  rw [trimWhere, List.getLast?_reverse] at h
  rw [h] at hlast
  simpa using hlast

theorem trimWhere_idem (s : Text) : trimWhere p (trimWhere p s) = trimWhere p s := by
  have hback : s.dropWhile p =
      trimWhere p s ++ ((s.dropWhile p).reverse.takeWhile p).reverse := by
    have := congrArg List.reverse
      (List.takeWhile_append_dropWhile (p := p) (l := (s.dropWhile p).reverse))
    rw [List.reverse_append, List.reverse_reverse] at this
    exact this.symm
  calc trimWhere p (trimWhere p s)
      = trimWhere p (trimWhere p s ++ ((s.dropWhile p).reverse.takeWhile p).reverse) :=
        (trimWhere_append_right (by simp)).symm
    _ = trimWhere p (s.takeWhile p ++ s.dropWhile p) := by
        rw [← hback, trimWhere_append_left (by simp)]
    _ = trimWhere p s := by rw [List.takeWhile_append_dropWhile]

theorem dropWhile_eq_self (h : ∀ c, s.head? = some c → p c = false) : s.dropWhile p = s := by
  cases s with
  | nil => rfl
  | cons c s => exact List.dropWhile_cons_of_neg (by simp [h c rfl])

/-- Only the ends of a text count. -/
theorem trimWhere_eq_self_of_ends (hhead : ∀ c, s.head? = some c → p c = false)
    (hlast : ∀ c, s.getLast? = some c → p c = false) : trimWhere p s = s := by
  have hback : s.reverse.dropWhile p = s.reverse :=
    dropWhile_eq_self fun c hc => hlast c (by rwa [List.head?_reverse] at hc)
  rw [trimWhere, dropWhile_eq_self hhead, hback, List.reverse_reverse]

theorem trimWhere_eq_self (h : ∀ c ∈ s, p c = false) : trimWhere p s = s :=
  trimWhere_eq_self_of_ends (fun c hc => h c (List.mem_of_head? hc)) fun c hc => h c (List.mem_of_getLast? hc)

end TrimWhere

section Blank
variable {u s w : Text}

theorem allBlank_append : allBlank (u ++ s) = (allBlank u && allBlank s) := List.all_append

theorem allBlank_trim : allBlank (trim s) = allBlank s := all_trimWhere

theorem allBlank_spaces (n : Nat) : allBlank (spaces n) := by
  rw [allBlank, List.all_eq_true]
  intro c hc
  rw [List.eq_of_mem_replicate hc]
  decide

theorem trim_trim (s : Text) : trim (trim s) = trim s := trimWhere_idem s

theorem trim_append_left (h : allBlank u) : trim (u ++ s) = trim s := trimWhere_append_left h

theorem trim_append_right (h : allBlank w) : trim (s ++ w) = trim s := trimWhere_append_right h

end Blank

end Componentry.Text
