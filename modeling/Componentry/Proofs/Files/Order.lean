import Componentry.Files.Listing

/-!
The order of listed files: leaving some of them out before they are put in order is the same as leaving
them out afterwards.
-/
namespace Componentry.Files
open Componentry.Text

theorem le_total (s t : Text) : le s t = true ∨ le t s = true := by
  induction s generalizing t with
  | nil => exact .inl (by simp [le])
  | cons c s ih =>
    cases t with
    | nil => exact .inr (by simp [le])
    | cons d t =>
      by_cases hcd : c = d
      · subst hcd
        simpa [le] using ih t
      · have hdc : d ≠ c := fun h => hcd h.symm
        have hne : c.toNat ≠ d.toNat := fun h => hcd (Char.toNat_inj.1 h)
        simp only [le, if_neg hcd, if_neg hdc, decide_eq_true_eq]
        omega

theorem le_trans {s t u : Text} (h : le s t = true) (h' : le t u = true) : le s u = true := by
  induction s generalizing t u with
  | nil => simp [le]
  | cons c s ih =>
    cases t with
    | nil => simp [le] at h
    | cons d t =>
      cases u with
      | nil => simp [le] at h'
      | cons e u =>
        simp only [le] at h h' ⊢
        by_cases hcd : c = d
        · subst hcd
          by_cases hce : c = e
          · subst hce
            simp only [if_true] at h h' ⊢
            exact ih h h'
          · simpa only [if_neg hce] using h'
        · by_cases hde : d = e
          · subst hde
            simpa only [if_neg hcd] using h
          · simp only [if_neg hcd, if_neg hde, decide_eq_true_eq] at h h'
            have hce : c ≠ e := by
              intro he
              subst he
              omega
            simp only [if_neg hce, decide_eq_true_eq]
            omega

theorem le_antisymm {s t : Text} (h : le s t = true) (h' : le t s = true) : s = t := by
  induction s generalizing t with
  | nil =>
    cases t with
    | nil => rfl
    | cons d t => simp [le] at h'
  | cons c s ih =>
    cases t with
    | nil => simp [le] at h
    | cons d t =>
      by_cases hcd : c = d
      · subst hcd
        simp only [le, if_true] at h h'
        rw [ih h h']
      · have hdc : d ≠ c := fun he => hcd he.symm
        simp only [le, if_neg hcd, if_neg hdc, decide_eq_true_eq] at h h'
        omega

theorem partsLe_total (p q : List Text) : partsLe p q = true ∨ partsLe q p = true := by
  induction p generalizing q with
  | nil => exact .inl (by simp [partsLe])
  | cons a p ih =>
    cases q with
    | nil => exact .inr (by simp [partsLe])
    | cons b q =>
      by_cases hab : a = b
      · subst hab
        simpa [partsLe] using ih q
      · have hba : b ≠ a := fun h => hab h.symm
        simpa only [partsLe, if_neg hab, if_neg hba] using le_total a b

theorem partsLe_trans {p q r : List Text} (h : partsLe p q = true) (h' : partsLe q r = true) :
    partsLe p r = true := by
  induction p generalizing q r with
  | nil => simp [partsLe]
  | cons a p ih =>
    cases q with
    | nil => simp [partsLe] at h
    | cons b q =>
      cases r with
      | nil => simp [partsLe] at h'
      | cons c r =>
        simp only [partsLe] at h h' ⊢
        by_cases hab : a = b
        · subst hab
          by_cases hac : a = c
          · subst hac
            simp only [if_true] at h h' ⊢
            exact ih h h'
          · simpa only [if_neg hac] using h'
        · by_cases hbc : b = c
          · subst hbc
            simpa only [if_neg hab] using h
          · simp only [if_neg hab, if_neg hbc] at h h'
            by_cases hac : a = c
            · subst hac
              exact absurd (le_antisymm h h') hab
            · rw [if_neg hac]
              exact le_trans h h'

/-! ### Insertion -/

variable {p : List Text} {qs : List (List Text)}

def InOrder (qs : List (List Text)) : Prop := qs.Pairwise fun p q => partsLe p q = true

theorem insertInOrder_eq_cons (h : ∀ q ∈ qs, partsLe p q = true) : insertInOrder p qs = p :: qs := by
  cases qs with
  | nil => rfl
  | cons q qs => rw [insertInOrder, if_pos (h q List.mem_cons_self)]

theorem InOrder.insert (h : InOrder qs) (p : List Text) : InOrder (insertInOrder p qs) := by
  induction qs with
  | nil => simp [InOrder, insertInOrder]
  | cons q qs ih =>
    obtain ⟨hfirst, hrest⟩ := List.pairwise_cons.1 h
    rw [insertInOrder]
    by_cases hpq : partsLe p q = true
    · rw [if_pos hpq]
      refine List.pairwise_cons.2 ⟨?_, h⟩
      intro r hr
      cases hr with
      | head => exact hpq
      | tail _ hr => exact partsLe_trans hpq (hfirst r hr)
    · rw [if_neg hpq]
      refine List.pairwise_cons.2 ⟨?_, ih hrest⟩
      intro r hr
      obtain rfl | hr := List.mem_cons.1 ((insertInOrder_perm p qs).mem_iff.1 hr)
      · exact (partsLe_total r q).resolve_left hpq
      · exact hfirst r hr

theorem inOrder_inOrder (ps : List (List Text)) : InOrder (inOrder ps) := by
  induction ps with
  | nil => exact .nil
  | cons p ps ih => exact ih.insert p

theorem insertInOrder_filter (keep : List Text → Bool) (h : InOrder qs) :
    (insertInOrder p qs).filter keep =
      if keep p then insertInOrder p (qs.filter keep) else qs.filter keep := by
  induction qs with
  | nil => by_cases hp : keep p <;> simp [insertInOrder, hp]
  | cons q qs ih =>
    obtain ⟨hfirst, hrest⟩ := List.pairwise_cons.1 h
    rw [insertInOrder]
    by_cases hpq : partsLe p q = true
    · rw [if_pos hpq, List.filter_cons]
      by_cases hp : keep p = true
      · have hall : ∀ r ∈ (q :: qs).filter keep, partsLe p r = true := by
          intro r hr
          cases (List.mem_filter.1 hr).1 with
          | head => exact hpq
          | tail _ hr => exact partsLe_trans hpq (hfirst r hr)
        rw [if_pos hp, if_pos hp, insertInOrder_eq_cons hall]
      · rw [if_neg hp, if_neg hp]
    · rw [if_neg hpq, List.filter_cons, List.filter_cons, ih hrest]
      by_cases hq : keep q = true
      · by_cases hp : keep p = true
        · rw [if_pos hq, if_pos hq, if_pos hp, if_pos hp, insertInOrder, if_neg hpq]
        · rw [if_pos hq, if_pos hq, if_neg hp, if_neg hp]
      · rw [if_neg hq, if_neg hq]

theorem inOrder_filter (keep : List Text → Bool) (ps : List (List Text)) :
    inOrder (ps.filter keep) = (inOrder ps).filter keep := by
  induction ps with
  | nil => rfl
  | cons p ps ih =>
    rw [inOrder, insertInOrder_filter keep (inOrder_inOrder ps), List.filter_cons, ← ih]
    split
    · rfl
    · rfl

end Componentry.Files
