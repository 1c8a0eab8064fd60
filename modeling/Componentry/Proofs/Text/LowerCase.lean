import Componentry.Proofs.Text.Ascii
import Componentry.Proofs.Text.Case
import Mathlib.Data.List.Basic

/-!
Lower case is final: what it makes of a text stays as it is, and a blank comes only of a blank.
-/
namespace Componentry.Text

/-! ### Sets of numbers, each as one number -/

/-- The number whose binary digits tell the members. -/
def bits (ns : List Nat) : Nat := ns.foldr (fun n m => 1 <<< n ||| m) 0

theorem testBit_bits (ns : List Nat) (n : Nat) : (bits ns).testBit n = decide (n ∈ ns) := by
  induction ns with
  | nil => exact Nat.zero_testBit n
  | cons k ns ih =>
    rw [bits, List.foldr_cons, ← bits, Nat.testBit_or, Nat.one_shiftLeft, Nat.testBit_two_pow, ih, ← Bool.decide_or]
    simp only [List.mem_cons, eq_comm]

theorem not_mem_of_bits {ns ks : List Nat} {n : Nat} (h : bits ns &&& bits ks = 0) (hn : n ∈ ns) : n ∉ ks := by
  intro hk
  have hboth : (bits ns &&& bits ks).testBit n = true := by
    rw [Nat.testBit_and, testBit_bits, testBit_bits, decide_eq_true hn, decide_eq_true hk]
    rfl
  rw [h, Nat.zero_testBit] at hboth
  cases hboth

/-! ### The runs of the table -/

namespace Shift
variable {r : Shift} {n k : Nat}

/-- The code points that a run moves. -/
def points (r : Shift) : List Nat :=
  (List.range ((r.last - r.first) / r.stride + 1)).map (r.first + r.stride * ·)

def target (r : Shift) (n : Nat) : Nat := (Int.ofNat n + r.offset).toNat

theorem of_apply? (h : r.apply? n = some k) : (r.first ≤ n ∧ n ≤ r.last) ∧ n ∈ r.points ∧ r.target n = k := by
  unfold Shift.apply? at h
  split at h
  · next hin =>
    obtain ⟨hfirst, hlast, hstride⟩ := hin
    refine ⟨⟨hfirst, hlast⟩, List.mem_map.2 ⟨(n - r.first) / r.stride, ?_, ?_⟩, Option.some.inj h⟩
    · exact List.mem_range.2 (Nat.lt_succ_of_le (Nat.div_le_div_right (Nat.sub_le_sub_right hlast _)))
    · have hdiv := Nat.div_add_mod (n - r.first) r.stride
      omega
  · cases h

end Shift

/-- Bounds between which stand neither blanks nor the capitals of ASCII. -/
def quiet : List (Nat × Nat) :=
  [(0x5A, 0x85), (0xA0, 0x1680), (0x1680, 0x2000), (0x205F, 0x3000), (0x3000, 0xD800), (0xDFFF, 0x110000)]

theorem of_quiet {k : Nat} (h : ∃ g ∈ quiet, g.1 < k ∧ k < g.2) :
    (Char.ofNat k).toNat = k ∧ 0x5A < k ∧ isBlank (Char.ofNat k) = false := by
  have hvalid : k.isValidChar ∧ 0x5A < k := by
    simp only [quiet, List.mem_cons, List.not_mem_nil, or_false, exists_eq_or_imp, exists_eq_left] at h
    simp only [Nat.isValidChar]
    omega
  have hk : (Char.ofNat k).toNat = k := by
    have hchar : Char.ofNat k = Char.ofNatAux k hvalid.1 := dif_pos hvalid.1
    rw [hchar]
    rfl
  refine ⟨hk, hvalid.2, ?_⟩
  simp only [quiet, List.mem_cons, List.not_mem_nil, or_false, exists_eq_or_imp, exists_eq_left] at h
  simp only [isBlank, hk, Bool.or_eq_false_iff, Bool.and_eq_false_iff, decide_eq_false_iff_not]
  omega

/-- The code points that lower case moves. -/
def moved : List Nat := 'İ'.toNat :: 'Σ'.toNat :: lowerShifts.flatMap Shift.points

/-- The runs lead between the quiet bounds, and none to a code point that is moved itself. -/
theorem lowerShifts_targets :
    (∀ r ∈ lowerShifts, ∃ g ∈ quiet, (g.1 : Int) < r.first + r.offset ∧ r.last + r.offset < (g.2 : Int)) ∧
      bits (lowerShifts.flatMap fun r => r.points.map r.target) &&& bits moved = 0 := by
  -- one meeting of two numbers; to hold every point against every run takes far too long
  decide +kernel

/-! ### Characters -/

/-- A character that lower case leaves alone, wherever it stands. -/
def IsLower (c : Char) : Prop := c ≠ 'Σ' ∧ lowerChar c = [c]

instance (c : Char) : Decidable (IsLower c) := inferInstanceAs (Decidable (_ ∧ _))

section Forms
variable {c d : Char}

theorem toLower_eq_self (h : 0x5A < c.toNat) : c.toLower = c := by
  delta Char.toLower
  refine dif_neg fun hcapital => ?_
  have hle : c.toNat ≤ 0x5A := UInt32.le_iff_toNat_le.1 hcapital.2
  omega

theorem shifted_eq_self (h : c.toNat ∉ moved) : shifted lowerShifts c = c := by
  rw [shifted]
  cases hfind : lowerShifts.findSome? fun r => r.apply? c.toNat with
  | none => rfl
  | some k =>
    obtain ⟨r, hr, happly⟩ := List.exists_of_findSome?_eq_some hfind
    have hmem := List.mem_flatMap.2 ⟨r, hr, (Shift.of_apply? happly).2.1⟩
    exact absurd (List.mem_cons_of_mem _ (List.mem_cons_of_mem _ hmem)) h

theorem isLower_of_not_mem_moved (h : c.toNat ∉ moved) (hcap : 0x5A < c.toNat) : IsLower c := by
  have hdot : c ≠ 'İ' := by
    rintro rfl
    exact h List.mem_cons_self
  have hsigma : c ≠ 'Σ' := by
    rintro rfl
    exact h (List.mem_cons_of_mem _ List.mem_cons_self)
  refine ⟨hsigma, ?_⟩
  rw [lowerChar, if_neg hdot, toLower_eq_self hcap, shifted_eq_self h, ite_self]

/-- A character that a run of the table has moved is final and no blank. -/
theorem moved_by_run {k : Nat} (h : (lowerShifts.findSome? fun r => r.apply? c.toNat) = some k) :
    IsLower (Char.ofNat k) ∧ isBlank (Char.ofNat k) = false := by
  obtain ⟨r, hr, happly⟩ := List.exists_of_findSome?_eq_some h
  obtain ⟨hin, hpoint, htarget⟩ := Shift.of_apply? happly
  have hquiet : ∃ g ∈ quiet, g.1 < k ∧ k < g.2 := by
    obtain ⟨g, hg, hlow, hhigh⟩ := lowerShifts_targets.1 r hr
    refine ⟨g, hg, ?_⟩
    rw [Shift.target] at htarget
    have hcast : Int.ofNat c.toNat = (c.toNat : Int) := rfl
    omega
  obtain ⟨hk, hcap, hblank⟩ := of_quiet hquiet
  have hfinal : k ∉ moved := by
    refine not_mem_of_bits lowerShifts_targets.2 (List.mem_flatMap.2 ⟨r, hr, ?_⟩)
    exact List.mem_map.2 ⟨c.toNat, hpoint, htarget⟩
  exact ⟨isLower_of_not_mem_moved (by rwa [hk]) (by rwa [hk]), hblank⟩

/-- What a character can become. -/
def lowerForms (c : Char) : Text := if c = 'Σ' then ['σ', 'ς'] else lowerChar c

theorem of_mem_lowerForms (h : d ∈ lowerForms c) : IsLower d ∧ (isBlank c = false → isBlank d = false) := by
  rw [lowerForms] at h
  split at h
  · have hsigma : d = 'σ' ∨ d = 'ς' := by simpa using h
    rcases hsigma with rfl | rfl
    · exact ⟨by decide, fun _ => by decide⟩
    · exact ⟨by decide, fun _ => by decide⟩
  · next hsigma =>
    rw [lowerChar] at h
    split at h
    · next hascii =>
      have hlow : IsLower c.toLower ∧ (isBlank c = false → isBlank c.toLower = false) :=
        of_forall_ascii (p := fun c => IsLower c.toLower ∧ (isBlank c = false → isBlank c.toLower = false))
          (by decide) hascii
      rwa [List.mem_singleton.1 h]
    · next hascii =>
      split at h
      · have hdot : d = 'i' ∨ d = '\u0307' := by simpa using h
        rcases hdot with rfl | rfl
        · exact ⟨by decide, fun _ => by decide⟩
        · exact ⟨by decide, fun _ => by decide⟩
      · next hdot =>
        rw [List.mem_singleton.1 h]
        cases hfind : lowerShifts.findSome? fun r => r.apply? c.toNat with
        | none =>
          have hself : shifted lowerShifts c = c := by rw [shifted, hfind]
          rw [hself]
          exact ⟨⟨hsigma, by rw [lowerChar, if_neg hascii, if_neg hdot, hself]⟩, id⟩
        | some k =>
          have hk : shifted lowerShifts c = Char.ofNat k := by rw [shifted, hfind]
          rw [hk]
          exact (moved_by_run hfind).imp_right fun hblank _ => hblank

theorem lowerForms_ne_nil (c : Char) : lowerForms c ≠ [] := by
  rw [lowerForms]
  split
  · simp
  · rw [lowerChar]
    split
    · simp
    · split <;> simp

end Forms

/-! ### Texts -/

section Lower
variable {before s : Text} {d : Char}

/-- A text is lowered character by character. -/
theorem lowerFrom_cons (before : Text) (c : Char) (s : Text) :
    ∃ here, here ≠ [] ∧ (∀ d ∈ here, d ∈ lowerForms c) ∧ lowerFrom before (c :: s) = here ++ lowerFrom (c :: before) s := by
  by_cases hc : c = 'Σ'
  · refine ⟨_, ?_, ?_, by rw [lowerFrom, if_pos hc]⟩
    · simp
    · intro d hd
      rw [List.mem_singleton.1 hd, lowerForms, if_pos hc]
      split <;> simp
  · refine ⟨lowerForms c, lowerForms_ne_nil c, fun d hd => hd, ?_⟩
    rw [lowerFrom, if_neg hc, lowerForms, if_neg hc]

theorem lowerFrom_eq_nil_iff : lowerFrom before s = [] ↔ s = [] := by
  cases s with
  | nil => exact Iff.rfl
  | cons c s =>
    obtain ⟨here, hne, -, heq⟩ := lowerFrom_cons before c s
    rw [heq]
    simp [hne]

theorem isLower_of_mem_lowerFrom (h : d ∈ lowerFrom before s) : IsLower d := by
  induction s generalizing before with
  | nil => cases h
  | cons c s ih =>
    obtain ⟨here, -, hforms, heq⟩ := lowerFrom_cons before c s
    rw [heq] at h
    rcases List.mem_append.1 h with h | h
    · exact (of_mem_lowerForms (hforms d h)).1
    · exact ih h

theorem lowerFrom_of_isLower (h : ∀ c ∈ s, IsLower c) : lowerFrom before s = s := by
  induction s generalizing before with
  | nil => rfl
  | cons c s ih =>
    obtain ⟨hsigma, hself⟩ := h c List.mem_cons_self
    rw [lowerFrom, if_neg hsigma, hself, ih fun d hd => h d (List.mem_cons_of_mem c hd)]
    rfl

theorem lower_lower (s : Text) : lower (lower s) = lower s :=
  lowerFrom_of_isLower fun _ => isLower_of_mem_lowerFrom

/-- The first character of a lowered text comes of the first, and the last of the last. -/
theorem isBlank_head_lowerFrom (hs : ∀ c, s.head? = some c → isBlank c = false)
    (h : (lowerFrom before s).head? = some d) : isBlank d = false := by
  cases s with
  | nil => cases h
  | cons c s =>
    obtain ⟨here, hne, hforms, heq⟩ := lowerFrom_cons before c s
    rw [heq, List.head?_append_of_ne_nil _ hne] at h
    exact (of_mem_lowerForms (hforms d (List.mem_of_head? h))).2 (hs c rfl)

theorem isBlank_getLast_lowerFrom (hs : ∀ c, s.getLast? = some c → isBlank c = false)
    (h : (lowerFrom before s).getLast? = some d) : isBlank d = false := by
  induction s generalizing before with
  | nil => cases h
  | cons c s ih =>
    obtain ⟨here, hne, hforms, heq⟩ := lowerFrom_cons before c s
    rw [heq] at h
    cases s with
    | nil =>
      rw [lowerFrom, List.append_nil] at h
      exact (of_mem_lowerForms (hforms d (List.mem_of_getLast? h))).2 (hs c rfl)
    | cons c' s =>
      rw [List.getLast?_append_of_ne_nil _ (mt lowerFrom_eq_nil_iff.1 (List.cons_ne_nil c' s))] at h
      exact ih (fun e he => hs e (by rwa [List.getLast?_cons_cons])) h

end Lower

end Componentry.Text
