import Componentry.Text.Blank

/-!
The words of a text are not empty and hold no blanks.
-/
namespace Componentry.Text

theorem mem_wordsFrom {word s w : Text} (hword : ∀ c ∈ word, isBlank c = false)
    (h : w ∈ wordsFrom word s) : w ≠ [] ∧ ∀ c ∈ w, isBlank c = false := by
  induction s generalizing word with
  | nil =>
    rw [wordsFrom] at h
    split at h
    · exact absurd h List.not_mem_nil
    · next hne =>
      rw [List.mem_singleton.1 h]
      exact ⟨by simpa using hne, fun c hc => hword c (List.mem_reverse.1 hc)⟩
  | cons c s ih =>
    rw [wordsFrom] at h
    by_cases hc : isBlank c = true
    · rw [if_pos hc] at h
      split at h
      · exact ih (by simp) h
      · next hne =>
        obtain rfl | h := List.mem_cons.1 h
        · exact ⟨by simpa using hne, fun d hd => hword d (List.mem_reverse.1 hd)⟩
        · exact ih (by simp) h
    · rw [if_neg hc] at h
      refine ih (fun d hd => ?_) h
      obtain rfl | hd := List.mem_cons.1 hd
      · simpa using hc
      · exact hword d hd

theorem isBlank_of_mem_words {s w : Text} (h : w ∈ words s) {c : Char} (hc : c ∈ w) : isBlank c = false :=
  (mem_wordsFrom (by simp) h).2 c hc

end Componentry.Text
