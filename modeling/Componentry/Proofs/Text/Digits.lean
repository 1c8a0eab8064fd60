import Componentry.Text.Digits
import Componentry.Proofs.Text.Ascii
import Componentry.Proofs.Text.Trim

/-!
Numerals of ASCII digits are read as whole numbers, unless they are too long.
-/
namespace Componentry.Text

variable {c : Char} {s : Text}

theorem isDigit_iff : isDigit c = true ↔ 48 ≤ c.toNat ∧ c.toNat ≤ 57 := by
  simp only [isDigit, Bool.and_eq_true, decide_eq_true_eq, Char.le_def, UInt32.le_iff_toNat_le]
  exact Iff.rfl

theorem ascii_of_isDigit (h : isDigit c = true) : c.toNat < 128 := by
  have := isDigit_iff.1 h
  omega

theorem digit?_of_isDigit (h : isDigit c = true) : digit? c = some (c.toNat - 48) :=
  of_forall_ascii (p := fun c => isDigit c = true → digit? c = some (c.toNat - 48)) (by decide)
    (ascii_of_isDigit h) h

theorem isNumberBlank_of_isDigit (h : isDigit c = true) : isNumberBlank c = false :=
  of_forall_ascii (p := fun c => isDigit c = true → isNumberBlank c = false) (by decide)
    (ascii_of_isDigit h) h

theorem exists_digitsOf? (hne : s ≠ []) (hdigits : ∀ c ∈ s, isDigit c = true) :
    ∃ ds, digitsOf? s = some ds ∧ ds.length = s.length := by
  induction s with
  | nil => exact absurd rfl hne
  | cons c s ih =>
    have hc := digit?_of_isDigit (hdigits c List.mem_cons_self)
    by_cases hs : s = []
    · subst hs
      exact ⟨[c.toNat - 48], by rw [digitsOf?, hc]; rfl, rfl⟩
    · obtain ⟨ds, hds, hlength⟩ := ih hs fun c' hc' => hdigits c' (List.mem_cons_of_mem _ hc')
      refine ⟨(c.toNat - 48) :: ds, ?_, by rw [List.length_cons, List.length_cons, hlength]⟩
      have hunderscore : ∀ t, s ≠ '_' :: t := by
        rintro t rfl
        exact absurd (hdigits '_' (by simp)) (by decide)
      rw [digitsOf?, hc, Option.bind_some, hds]
      · rfl
      · exact hs
      · exact hunderscore

theorem int?_of_digits (hne : s ≠ []) (hdigits : ∀ c ∈ s, isDigit c = true) :
    (int? s).isSome = decide (s.length ≤ digitLimit) := by
  obtain ⟨ds, hds, hlength⟩ := exists_digitsOf? hne hdigits
  have htrim : trimWhere isNumberBlank s = s :=
    trimWhere_eq_self fun c hc => isNumberBlank_of_isDigit (hdigits c hc)
  unfold int?
  rw [htrim]
  split
  · exact absurd (hdigits '-' List.mem_cons_self) (by decide)
  · exact absurd (hdigits '+' List.mem_cons_self) (by decide)
  · dsimp only
    rw [hds, Option.bind_some, hlength]
    by_cases hlong : s.length > digitLimit
    · rw [if_pos hlong]
      simp [Nat.not_le.2 hlong]
    · rw [if_neg hlong]
      simp [Nat.not_lt.1 hlong]

end Componentry.Text
