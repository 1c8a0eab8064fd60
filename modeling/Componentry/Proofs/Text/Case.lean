import Componentry.Text.Case

/-!
Texts that changing case leaves alone, and the marks that no change of case brings in.
-/
namespace Componentry.Text

theorem lowerFrom_of_ascii {s : Text} (h : ∀ c ∈ s, c.toNat < 128) (before : Text) :
    lowerFrom before s = s.map Char.toLower := by
  induction s generalizing before with
  | nil => rfl
  | cons c s ih =>
    have hascii := h c (by simp)
    have hsigma : c ≠ 'Σ' := by rintro rfl; revert hascii; decide
    rw [lowerFrom, if_neg hsigma, lowerChar, if_pos hascii, ih fun d hd => h d (List.mem_cons_of_mem c hd)]
    rfl

theorem lower_of_ascii {s : Text} (h : ∀ c ∈ s, c.toNat < 128) : lower s = s.map Char.toLower :=
  lowerFrom_of_ascii h []

theorem lower_eq_self {s : Text} (h : ∀ c ∈ s, c.toNat < 128 ∧ c.toLower = c) : lower s = s := by
  have hmap : s.map Char.toLower = s.map id := List.map_congr_left fun c hc => (h c hc).2
  rw [lower_of_ascii fun c hc => (h c hc).1, hmap, List.map_id]

/-! ### Marks -/

/-- The ASCII marks and controls below the digits, the null character left out. -/
def isMark (c : Char) : Bool := 0 < c.toNat && c.toNat < 48

section Mark
variable {m c : Char} {s : Text}

theorem of_isMark (hm : isMark m = true) : 0 < m.toNat ∧ m.toNat < 48 := by
  simpa [isMark] using hm

theorem toLower_ne_mark (hm : isMark m = true) (h : c ≠ m) : c.toLower ≠ m := by
  intro he
  have hbound := (of_isMark hm).2
  delta Char.toLower at he
  split at he
  · next hup =>
    have hval := congrArg Char.toNat he
    simp only [Char.toNat, UInt32.le_iff_toNat_le] at hval hup
    simp at hval hup
    omega
  · exact h he

theorem toUpper_ne_mark (hm : isMark m = true) (h : c ≠ m) : c.toUpper ≠ m := by
  intro he
  have hbound := (of_isMark hm).2
  delta Char.toUpper at he
  split at he
  · next hlow =>
    have hval := congrArg Char.toNat he
    simp only [Char.toNat, UInt32.le_iff_toNat_le] at hval hlow
    simp at hval hlow
    omega
  · exact h he

theorem ofNat_ne_mark (hm : isMark m = true) {n : Nat} (h : 47 < n) : Char.ofNat n ≠ m := by
  intro he
  have hbound := of_isMark hm
  by_cases hvalid : n.isValidChar
  · have hchar : Char.ofNat n = Char.ofNatAux n hvalid := dif_pos hvalid
    have hval : n = m.toNat := congrArg Char.toNat (hchar.symm.trans he)
    omega
  · have hchar : Char.ofNat n = '\x00' := dif_neg hvalid
    have hzero : m.toNat = 0 := by rw [← he, hchar]; rfl
    omega

/-- The case tables lead to no code point below the letters. -/
theorem caseTables_above :
    (∀ r ∈ lowerShifts ++ upperShifts, (47 : Int) < r.first + r.offset) ∧
      ∀ e ∈ upperExpansions, ∀ n ∈ e.2, 47 < n := by
  decide +kernel

theorem lowerShifts_above : ∀ r ∈ lowerShifts, (47 : Int) < r.first + r.offset :=
  fun _ hr => caseTables_above.1 _ (List.mem_append_left _ hr)

theorem upperShifts_above : ∀ r ∈ upperShifts, (47 : Int) < r.first + r.offset :=
  fun _ hr => caseTables_above.1 _ (List.mem_append_right _ hr)

theorem Shift.lt_of_apply? {r : Shift} {n k : Nat} (habove : (47 : Int) < r.first + r.offset)
    (h : r.apply? n = some k) : 47 < k := by
  unfold Shift.apply? at h
  split at h
  · next hin =>
    have hk := Option.some.inj h
    have hfirst := hin.1
    have hn : Int.ofNat n = (n : Int) := rfl
    omega
  · exact absurd h (by simp)

theorem shifted_ne_mark (hm : isMark m = true) {rs : List Shift}
    (hrs : ∀ r ∈ rs, (47 : Int) < r.first + r.offset) (h : c ≠ m) : shifted rs c ≠ m := by
  rw [shifted]
  cases hfind : rs.findSome? fun r => r.apply? c.toNat with
  | none => exact h
  | some k =>
    obtain ⟨r, hr, happly⟩ := List.exists_of_findSome?_eq_some hfind
    exact ofNat_ne_mark hm (Shift.lt_of_apply? (hrs r hr) happly)

theorem mark_not_mem_lowerChar (hm : isMark m = true) (h : c ≠ m) : m ∉ lowerChar c := by
  rw [lowerChar]
  split
  · simpa using (toLower_ne_mark hm h).symm
  · split
    · intro hin
      obtain rfl | rfl : m = 'i' ∨ m = '\u0307' := by simpa using hin
      · exact absurd hm (by decide)
      · exact absurd hm (by decide)
    · simpa using (shifted_ne_mark hm lowerShifts_above h).symm

theorem mark_not_mem_upperChar (hm : isMark m = true) (h : c ≠ m) : m ∉ upperChar c := by
  rw [upperChar]
  split
  · simpa using (toUpper_ne_mark hm h).symm
  · cases hex : expansion? upperExpansions c with
    | none => simpa using (shifted_ne_mark hm upperShifts_above h).symm
    | some s =>
      obtain ⟨ns, hlook, rfl⟩ := Option.map_eq_some_iff.1 hex
      obtain ⟨before, after, htable, -⟩ := List.lookup_eq_some_iff.1 hlook
      have hmem : (c.toNat, ns) ∈ upperExpansions := by simp [htable]
      intro hin
      obtain ⟨n, hn, hmark⟩ := List.mem_map.1 hin
      exact ofNat_ne_mark hm (caseTables_above.2 _ hmem n hn) hmark

/-- Lower case brings no mark into a text. -/
theorem mark_not_mem_lower (hm : isMark m = true) (h : m ∉ s) : m ∉ lower s := by
  have hfrom : ∀ before, m ∉ lowerFrom before s := by
    induction s with
    | nil => exact fun _ => List.not_mem_nil
    | cons c s ih =>
      intro before hin
      have hc : c ≠ m := fun he => h (by simp [he])
      obtain hin | hin := List.mem_append.1 hin
      · split at hin
        · have hsigma : m = 'ς' ∨ m = 'σ' := by
            split at hin
            · exact .inl (List.mem_singleton.1 hin)
            · exact .inr (List.mem_singleton.1 hin)
          obtain rfl | rfl := hsigma
          · exact absurd hm (by decide)
          · exact absurd hm (by decide)
        · exact mark_not_mem_lowerChar hm hc hin
      · exact ih (fun hmem => h (List.mem_cons_of_mem c hmem)) _ hin
  exact hfrom []

end Mark

end Componentry.Text
