import Componentry.Text.Basic

/-!
Joining pieces of text.
-/
namespace Componentry.Text
variable {sep : Text}

theorem unlines_singleton (s : Text) : unlines [s] = s := rfl

theorem joinWith_cons (s : Text) {ts : List Text} (h : ts ≠ []) :
    joinWith sep (s :: ts) = s ++ (sep ++ joinWith sep ts) := by
  cases ts with
  | nil => exact absurd rfl h
  | cons t ts => simp [joinWith]

theorem append_joinWith (t s : Text) (ss : List Text) :
    t ++ joinWith sep (s :: ss) = joinWith sep ((t ++ s) :: ss) := by
  cases ss with
  | nil => rfl
  | cons u ss => simp [joinWith]

theorem joinWith_append {ss ts : List Text} (hs : ss ≠ []) (ht : ts ≠ []) :
    joinWith sep (ss ++ ts) = joinWith sep ss ++ (sep ++ joinWith sep ts) := by
  induction ss with
  | nil => exact absurd rfl hs
  | cons s ss ih =>
    by_cases hss : ss = []
    · subst hss
      exact joinWith_cons s ht
    · rw [List.cons_append, joinWith_cons s (by simp [hss]), ih hss, joinWith_cons s hss]
      simp only [List.append_assoc]

/-- Joining joined lists is joining all at once. -/
theorem joinWith_map_joinWith {lists : List (List Text)} (h : ∀ ss ∈ lists, ss ≠ []) :
    joinWith sep (lists.map (joinWith sep)) = joinWith sep lists.flatten := by
  induction lists with
  | nil => rfl
  | cons ss lists ih =>
    have hss := h ss (by simp)
    have hrest := ih fun ts ht => h ts (List.mem_cons_of_mem ss ht)
    rw [List.map_cons, List.flatten_cons]
    cases lists with
    | nil => simp [joinWith]
    | cons ts lists =>
      have hts := h ts (by simp)
      rw [joinWith_cons _ (by simp), hrest, joinWith_append hss (by simp [hts])]

theorem joinWith_concat {ss : List Text} (h : ss ≠ []) (t : Text) :
    joinWith sep (ss ++ [t]) = joinWith sep ss ++ (sep ++ t) := joinWith_append h (by simp)

theorem map_joinWith (f : Char → Char) (ss : List Text) :
    (joinWith sep ss).map f = joinWith (sep.map f) (ss.map fun s => s.map f) := by
  induction ss with
  | nil => rfl
  | cons s ss ih =>
    by_cases hss : ss = []
    · subst hss
      rfl
    · rw [joinWith_cons s hss, List.map_append, List.map_append, ih, List.map_cons, joinWith_cons _ (by simp [hss])]

theorem filter_joinWith (p : Char → Bool) (ss : List Text) :
    (joinWith sep ss).filter p = joinWith (sep.filter p) (ss.map fun s => s.filter p) := by
  induction ss with
  | nil => rfl
  | cons s ss ih =>
    by_cases hss : ss = []
    · subst hss
      rfl
    · rw [joinWith_cons s hss, List.filter_append, List.filter_append, ih, List.map_cons,
        joinWith_cons _ (by simp [hss])]

theorem mem_of_mem_joinWith {c : Char} {ss : List Text} (h : c ∈ joinWith sep ss) :
    c ∈ sep ∨ ∃ s ∈ ss, c ∈ s := by
  induction ss with
  | nil => exact absurd h List.not_mem_nil
  | cons s ss ih =>
    by_cases hss : ss = []
    · subst hss
      exact .inr ⟨s, by simp, h⟩
    · rw [joinWith_cons s hss, List.mem_append, List.mem_append] at h
      obtain h | h | h := h
      · exact .inr ⟨s, by simp, h⟩
      · exact .inl h
      · obtain hsep | ⟨t, ht, hc⟩ := ih h
        · exact .inl hsep
        · exact .inr ⟨t, List.mem_cons_of_mem s ht, hc⟩

theorem not_mem_joinWith {c : Char} (hsep : c ∉ sep) {ss : List Text} (h : ∀ s ∈ ss, c ∉ s) :
    c ∉ joinWith sep ss := by
  intro hin
  obtain hin | ⟨s, hs, hin⟩ := mem_of_mem_joinWith hin
  · exact hsep hin
  · exact h s hs hin

theorem not_mem_spaces_append {c : Char} (hc : c ≠ ' ') {s : Text} (h : c ∉ s) (n : Nat) :
    c ∉ spaces n ++ s := by
  rw [List.mem_append]
  intro hin
  obtain hin | hin := hin
  · exact hc (List.eq_of_mem_replicate hin)
  · exact h hin

/-! ### Lines with their ends -/

/-- Lines, each with a line feed after it. -/
def ended (ls : List Text) : Text := ls.flatMap fun l => l ++ ['\n']

theorem ended_cons (l : Text) (ls : List Text) : ended (l :: ls) = l ++ '\n' :: ended ls := by
  simp [ended]

theorem ended_append (ls ms : List Text) : ended (ls ++ ms) = ended ls ++ ended ms := List.flatMap_append

end Componentry.Text
