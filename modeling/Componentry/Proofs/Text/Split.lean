import Componentry.Proofs.Text.Join

/-!
Splitting at a separator and joining with it undo each other.
-/
namespace Componentry.Text
variable {sep : Char}

theorem splitOn_ne_nil (sep : Char) (s : Text) : splitOn sep s ≠ [] := by
  cases s with
  | nil => simp [splitOn]
  | cons c s =>
    rw [splitOn]
    split
    · simp
    · split <;> simp

theorem splitOn_eq_singleton {s : Text} (h : sep ∉ s) : splitOn sep s = [s] := by
  induction s with
  | nil => rfl
  | cons c s ih =>
    have hc : c ≠ sep := fun he => h (by simp [he])
    rw [splitOn, if_neg hc, ih fun hm => h (List.mem_cons_of_mem c hm)]

theorem splitOn_append (s t : Text) : splitOn sep (s ++ sep :: t) = splitOn sep s ++ splitOn sep t := by
  induction s with
  | nil => simp [splitOn]
  | cons c s ih =>
    rw [List.cons_append, splitOn, splitOn, ih]
    split
    · rfl
    · cases hs : splitOn sep s with
      | nil => exact absurd hs (splitOn_ne_nil sep s)
      | cons first rest => rfl

/-- Joining at a separator undoes splitting at it. -/
theorem joinWith_splitOn (s : Text) : joinWith [sep] (splitOn sep s) = s := by
  induction s with
  | nil => rfl
  | cons c s ih =>
    rw [splitOn]
    cases hs : splitOn sep s with
    | nil => exact absurd hs (splitOn_ne_nil sep s)
    | cons first rest =>
      rw [hs] at ih
      split
      · next hc => rw [joinWith_cons [] (by simp), ih, hc]; rfl
      · cases rest with
        | nil =>
          obtain rfl : first = s := ih
          rfl
        | cons second rest =>
          rw [joinWith_cons _ (by simp)] at ih ⊢
          rw [← ih]
          rfl

theorem splitOn_append_cons {s : Text} (h : sep ∉ s) (t : Text) :
    splitOn sep (s ++ sep :: t) = s :: splitOn sep t := by
  rw [splitOn_append, splitOn_eq_singleton h, List.singleton_append]

theorem not_mem_of_mem_splitOn {s piece : Text} (h : piece ∈ splitOn sep s) : sep ∉ piece := by
  induction s generalizing piece with
  | nil =>
    rw [List.mem_singleton.1 h]
    exact List.not_mem_nil
  | cons c s ih =>
    rw [splitOn] at h
    by_cases hc : c = sep
    · rw [if_pos hc] at h
      cases h with
      | head => exact List.not_mem_nil
      | tail _ h => exact ih h
    · rw [if_neg hc] at h
      cases hs : splitOn sep s with
      | nil => exact absurd hs (splitOn_ne_nil sep s)
      | cons first rest =>
        rw [hs] at h
        cases h with
        | head =>
          intro hm
          cases hm with
          | head => exact hc rfl
          | tail _ hm => exact ih (hs ▸ List.mem_cons_self) hm
        | tail _ h => exact ih (hs ▸ List.mem_cons_of_mem first h)

theorem mem_of_mem_splitOn {c : Char} {s piece : Text} (h : piece ∈ splitOn sep s)
    (hc : c ∈ piece) : c ∈ s := by
  induction s generalizing piece with
  | nil =>
    rw [List.mem_singleton.1 h] at hc
    exact absurd hc List.not_mem_nil
  | cons d s ih =>
    rw [splitOn] at h
    split at h
    · cases h with
      | head => exact absurd hc List.not_mem_nil
      | tail _ h => exact List.mem_cons_of_mem d (ih h hc)
    · cases hs : splitOn sep s with
      | nil => exact absurd hs (splitOn_ne_nil sep s)
      | cons first rest =>
        rw [hs] at h
        cases h with
        | head =>
          cases hc with
          | head => exact List.mem_cons_self
          | tail _ hc => exact List.mem_cons_of_mem d (ih (hs ▸ List.mem_cons_self) hc)
        | tail _ h => exact List.mem_cons_of_mem d (ih (hs ▸ List.mem_cons_of_mem first h) hc)

theorem splitOn_joinWith_flatMap {pieces : List Text} (hne : pieces ≠ []) :
    splitOn sep (joinWith [sep] pieces) = pieces.flatMap (splitOn sep) := by
  induction pieces with
  | nil => exact absurd rfl hne
  | cons s rest ih =>
    cases rest with
    | nil => simp [joinWith]
    | cons t rest =>
      rw [joinWith, List.append_assoc, List.singleton_append, splitOn_append, ih (by simp)]
      rfl

theorem flatMap_splitOn {pieces : List Text} (h : ∀ s ∈ pieces, sep ∉ s) :
    pieces.flatMap (splitOn sep) = pieces := by
  induction pieces with
  | nil => rfl
  | cons s rest ih =>
    rw [List.flatMap_cons, splitOn_eq_singleton (h s (by simp)), List.singleton_append,
      ih fun u hu => h u (List.mem_cons_of_mem s hu)]

theorem splitOn_joinWith {pieces : List Text} (hne : pieces ≠ []) (h : ∀ s ∈ pieces, sep ∉ s) :
    splitOn sep (joinWith [sep] pieces) = pieces := by
  rw [splitOn_joinWith_flatMap hne, flatMap_splitOn h]

theorem mem_splitOn_joinWith {pieces : List Text} {s piece : Text} (hs : s ∈ pieces)
    (h : piece ∈ splitOn sep s) : piece ∈ splitOn sep (joinWith [sep] pieces) := by
  rw [splitOn_joinWith_flatMap (List.ne_nil_of_mem hs)]
  exact List.mem_flatMap.2 ⟨s, hs, h⟩

theorem mem_splitOn_unlines {ls : List Text} {l : Text} (hl : l ∈ ls) (hlf : '\n' ∉ l) :
    l ∈ splitOn '\n' (unlines ls) := by
  refine mem_splitOn_joinWith hl ?_
  rw [splitOn_eq_singleton hlf]
  exact List.mem_cons_self

/-- Texts with an empty line between them. -/
theorem mem_splitOn_joinWith_gap {ss : List Text} {s l : Text} (hs : s ∈ ss) (h : l ∈ splitOn '\n' s) :
    l ∈ splitOn '\n' (joinWith "\n\n" ss) := by
  induction ss with
  | nil => cases hs
  | cons t ss ih =>
    by_cases hss : ss = []
    · subst hss
      rwa [List.mem_singleton.1 hs] at h
    · have hgap (u : Text) : ("\n\n" : Text) ++ u = '\n' :: '\n' :: u := rfl
      rw [joinWith_cons t hss, hgap, splitOn_append]
      obtain rfl | hs := List.mem_cons.1 hs
      · exact List.mem_append_left _ h
      · exact List.mem_append_right _ (List.mem_cons_of_mem _ (ih hs))

theorem splitOn_ended_append (ls : List Text) (s : Text) :
    splitOn '\n' (ended ls ++ s) = ls.flatMap (splitOn '\n') ++ splitOn '\n' s := by
  induction ls with
  | nil => rfl
  | cons l ls ih =>
    rw [ended_cons, List.append_assoc, List.cons_append, splitOn_append, ih, List.flatMap_cons, List.append_assoc]

/-- Pieces joined by commas and spaces, split at the spaces: each but the last keeps its comma. -/
theorem splitOn_joinWith_comma {pieces : List Text} (h : ∀ s ∈ pieces, ' ' ∉ s) {last : Text}
    (hlast : ' ' ∉ last) :
    splitOn ' ' (joinWith ", " (pieces ++ [last])) = pieces.map (· ++ [',']) ++ [last] := by
  induction pieces with
  | nil => exact splitOn_eq_singleton hlast
  | cons s pieces ih =>
    have hs : ' ' ∉ s ++ [','] := by simpa using h s (by simp)
    have hsplit (t : Text) : s ++ (", " ++ t : Text) = (s ++ [',']) ++ ' ' :: t := by simp
    rw [List.cons_append, joinWith_cons s (by simp), hsplit, splitOn_append_cons hs,
      ih fun t ht => h t (List.mem_cons_of_mem s ht)]
    rfl

/-! ### Margins -/

theorem indent_line {l : Text} (hne : l ≠ []) (hlf : '\n' ∉ l) (margin : Nat) :
    indent margin l = spaces margin ++ l := by
  rw [indent, splitOn_eq_singleton hlf, List.map_singleton, if_neg hne, unlines_singleton]

/-- A margin before joined texts is a margin before each of them. -/
theorem indent_unlines (margin : Nat) (ls : List Text) :
    indent margin (unlines ls) = unlines (ls.map (indent margin)) := by
  by_cases hls : ls = []
  · subst hls
    rfl
  · rw [indent, unlines, unlines, unlines, splitOn_joinWith_flatMap hls, List.map_flatMap, List.flatMap_def,
      ← joinWith_map_joinWith, List.map_map]
    · rfl
    · intro ss hss
      obtain ⟨l, -, rfl⟩ := List.mem_map.1 hss
      exact mt List.map_eq_nil_iff.1 (splitOn_ne_nil '\n' l)

end Componentry.Text
