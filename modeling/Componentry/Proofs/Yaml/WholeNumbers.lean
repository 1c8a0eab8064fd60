import Componentry.Yaml.Number
import Componentry.Proofs.Text.Digits
import Componentry.Proofs.Text.Split

/-!
Plain scalars with the form of a whole number stand for one, unless nothing but underscores follows the
mark of a base, or a decimal numeral is too long.
-/
namespace Componentry.Yaml
open Componentry.Text

variable {s t : Text} {why : ScalarFault} {c : Char}

/-! ### Numerals of a base -/

theorem ascii_of_isHexDigit (h : isHexDigit c = true) : c.toNat < 128 := by
  unfold isHexDigit hexDigit? at h
  split at h
  · next hdigit => exact ascii_of_isDigit hdigit
  · split at h
    · next hletter =>
      have hle : c ≤ 'f' := by simpa using (Bool.and_eq_true_iff.1 hletter).2
      have hle' : c.toNat ≤ 'f'.toNat := hle
      exact Nat.lt_of_le_of_lt hle' (by decide)
    · split at h
      · next hletter =>
        have hle : c ≤ 'F' := by simpa using (Bool.and_eq_true_iff.1 hletter).2
        have hle' : c.toNat ≤ 'F'.toNat := hle
        exact Nat.lt_of_le_of_lt hle' (by decide)
      · cases h

/-- A hexadecimal digit that counts in the given base. -/
def countsIn (base : Nat) (c : Char) : Bool := isHexDigit c && (digitIn? base c).isSome

theorem isNumberBlank_of_isHexDigit (h : isHexDigit c = true) : isNumberBlank c = false :=
  of_forall_ascii (p := fun c => isHexDigit c = true → isNumberBlank c = false) (by decide)
    (ascii_of_isHexDigit h) h

theorem countsIn_sixteen (h : isHexDigit c = true) : countsIn 16 c = true :=
  of_forall_ascii (p := fun c => isHexDigit c = true → countsIn 16 c = true) (by decide)
    (ascii_of_isHexDigit h) h

theorem countsIn_eight (h : ('0' ≤ c && c ≤ '7') = true) : countsIn 8 c = true := by
  have hle : c ≤ '7' := by simpa using (Bool.and_eq_true_iff.1 h).2
  have hle' : c.toNat ≤ '7'.toNat := hle
  exact of_forall_ascii (p := fun c => ('0' ≤ c && c ≤ '7') = true → countsIn 8 c = true) (by decide)
    (Nat.lt_of_le_of_lt hle' (by decide)) h

theorem countsIn_two (h : (c = '0' || c = '1') = true) : countsIn 2 c = true := by
  simp only [Bool.or_eq_true, decide_eq_true_eq] at h
  obtain rfl | rfl := h
  · decide
  · decide

theorem not_mark_of_isDigit (h : isDigit c = true) : c ≠ '_' ∧ c ≠ '-' ∧ c ≠ '+' := by
  refine ⟨?_, ?_, ?_⟩
  all_goals
    rintro rfl
    exact absurd h (by decide)

theorem unsigned_eq_self (h : ∀ c, s.head? = some c → c ≠ '-' ∧ c ≠ '+') : unsigned s = s := by
  unfold unsigned
  split
  · exact absurd rfl (h _ rfl).1
  · exact absurd rfl (h _ rfl).2
  · rfl

theorem not_sign_of_isHexDigit (h : isHexDigit c = true) : c ≠ '-' ∧ c ≠ '+' := by
  constructor
  · rintro rfl
    exact absurd h (by decide)
  · rintro rfl
    exact absurd h (by decide)

theorem withoutBaseMark_eq_self {base : Nat} (hbase : base ∈ [2, 8, 16])
    (h : ∀ c ∈ s, countsIn base c = true) : withoutBaseMark base s = s := by
  have hmarks : ∀ b ∈ [2, 8, 16], ((baseMarks b).any (countsIn b)) = false := by decide
  unfold withoutBaseMark
  split
  · next mark s =>
    refine if_neg fun hmark => ?_
    exact List.any_eq_false.1 (hmarks base hbase) mark hmark (h mark (by simp))
  · rfl

/-- Items that each have a result have one together. -/
theorem exists_mapM {m : Type → Type} [Monad m] [LawfulMonad m] {α β : Type} {f : α → m β} {xs : List α}
    (h : ∀ x ∈ xs, ∃ y, f x = pure y) : ∃ ys, xs.mapM f = pure ys ∧ ys.length = xs.length := by
  induction xs with
  | nil => exact ⟨[], List.mapM_nil, rfl⟩
  | cons x xs ih =>
    obtain ⟨y, hy⟩ := h x List.mem_cons_self
    obtain ⟨ys, hys, hlength⟩ := ih fun x' hx' => h x' (List.mem_cons_of_mem _ hx')
    exact ⟨y :: ys, by rw [List.mapM_cons, hy, hys, pure_bind, pure_bind], by simp [hlength]⟩

theorem exists_basedInt {base : Nat} (hbase : base ∈ [2, 8, 16]) (hne : s ≠ [])
    (h : ∀ c ∈ s, countsIn base c = true) : ∃ n, basedInt base s = .ok n := by
  have hhex : ∀ c ∈ s, isHexDigit c = true := fun c hc => (Bool.and_eq_true_iff.1 (h c hc)).1
  have htrim : trimWhere isNumberBlank s = s :=
    trimWhere_eq_self fun c hc => isNumberBlank_of_isHexDigit (hhex c hc)
  have hsign : unsigned s = s :=
    unsigned_eq_self fun c hc => not_sign_of_isHexDigit (hhex c (List.mem_of_head? hc))
  obtain ⟨ds, hds, hlength⟩ : ∃ ds, s.mapM (digitIn? base) = pure ds ∧ ds.length = s.length :=
    exists_mapM fun c hc => Option.isSome_iff_exists.1 (Bool.and_eq_true_iff.1 (h c hc)).2
  cases ds with
  | nil => exact absurd (List.length_eq_zero_iff.1 hlength.symm) hne
  | cons d ds =>
    rw [basedInt, signed, htrim, hsign]
    dsimp only
    rw [withoutBaseMark_eq_self hbase h, hds]
    exact ⟨_, rfl⟩

/-! ### Decimal numerals -/

theorem decimalInt_of_short (hne : s ≠ []) (hdigits : ∀ c ∈ s, isDigit c = true)
    (hshort : s.length ≤ digitLimit) : ∃ n, decimalInt s = .ok n := by
  have hsome := int?_of_digits hne hdigits
  rw [decide_eq_true hshort] at hsome
  obtain ⟨n, hn⟩ := Option.isSome_iff_exists.1 hsome
  exact ⟨n, by rw [decimalInt, hn]⟩

theorem decimalInt_of_long (hdigits : ∀ c ∈ s, isDigit c = true) (hlong : digitLimit < s.length) :
    decimalInt s = .error (.longInt s.length) := by
  have hne : s ≠ [] := List.ne_nil_of_length_pos (Nat.zero_lt_of_lt hlong)
  have hnone : int? s = none := by
    have hsome := int?_of_digits hne hdigits
    rwa [decide_eq_false (Nat.not_le.2 hlong), Option.isSome_eq_false_iff, Option.isNone_iff_eq_none] at hsome
  have htrim : trimWhere isNumberBlank s = s :=
    trimWhere_eq_self fun c hc => isNumberBlank_of_isDigit (hdigits c hc)
  have hsign : unsigned s = s :=
    unsigned_eq_self fun c hc => (not_mark_of_isDigit (hdigits c (List.mem_of_head? hc))).2
  have hall : s.takeWhile (fun c => (digit? c).isSome) = s :=
    List.takeWhile_eq_self_iff.2 fun c hc => by rw [digit?_of_isDigit (hdigits c hc)]; rfl
  rw [decimalInt, hnone]
  dsimp only
  rw [htrim, hsign, hall, if_pos hlong]

/-! ### Forms of whole numbers -/

theorem isDigit_of_mem {c : Char} (h : ∀ c ∈ s, isSpacedDigit c = true) (hc : c ∈ withoutUnderscores s) :
    isDigit c = true := by
  obtain ⟨hin, hne⟩ := List.mem_filter.1 hc
  have hspaced := h c hin
  rw [isSpacedDigit, Bool.or_eq_true] at hspaced
  exact hspaced.resolve_right (by simpa using hne)

theorem exists_of_isSpacedNumeral (h : isSpacedNumeral s = true) :
    ∃ c t, s = c :: t ∧ isDigit c = true ∧ ∀ x ∈ t, isSpacedDigit x = true := by
  cases s with
  | nil => cases h
  | cons c t =>
    rw [isSpacedNumeral, Bool.and_eq_true, List.all_eq_true] at h
    exact ⟨c, t, rfl, h⟩

theorem digits_of_isSixtieth (h : isSixtieth s = true) :
    s ≠ [] ∧ s.length ≤ digitLimit ∧ ∀ c ∈ s, isDigit c = true := by
  unfold isSixtieth at h
  split at h
  · exact ⟨by simp, by show 1 ≤ 4300; decide, by simpa using h⟩
  · next c d =>
    simp only [Bool.and_eq_true, decide_eq_true_eq] at h
    have hc : isDigit c = true := by
      rw [isDigit_iff]
      have hlow : '0'.toNat ≤ c.toNat := h.1.1
      have hhigh : c.toNat ≤ '5'.toNat := h.1.2
      exact ⟨hlow, Nat.le_trans hhigh (by decide)⟩
    refine ⟨by simp, by show 2 ≤ 4300; decide, ?_⟩
    intro c' hc'
    simp only [List.mem_cons, List.not_mem_nil, or_false] at hc'
    obtain rfl | rfl := hc'
    · exact hc
    · exact h.2
  · cases h

theorem withoutUnderscores_of_digits (h : ∀ c ∈ s, isDigit c = true) : withoutUnderscores s = s := by
  refine List.filter_eq_self.2 fun c hc => ?_
  simpa using (not_mark_of_isDigit (h c hc)).1

/-- What a plain scalar with the form of a whole number is without its sign. -/
inductive IntForm : Text → Prop
  | zero : IntForm ['0']
  | binary {t : Text} (h : ∀ c ∈ t, c = '_' ∨ countsIn 2 c = true) : IntForm ('0' :: 'b' :: t)
  | octal {t : Text} (h : ∀ c ∈ t, c = '_' ∨ countsIn 8 c = true) : IntForm ('0' :: t)
  | hexadecimal {t : Text} (h : ∀ c ∈ t, c = '_' ∨ countsIn 16 c = true) : IntForm ('0' :: 'x' :: t)
  /-- A decimal numeral, perhaps with sixtieths after it. -/
  | decimal {c : Char} {t : Text} {rest : List Text} (hc : isDigit c = true) (hzero : c ≠ '0')
    (ht : ∀ x ∈ t, isSpacedDigit x = true) (hrest : ∀ s ∈ rest, isSixtieth s = true) :
    IntForm (joinWith [':'] ((c :: t) :: rest))

theorem exists_parts_of_isSexagesimal (h : isSexagesimal s = true) :
    ∃ first rest, s = joinWith [':'] (first :: rest) ∧ isSpacedNumeral first = true ∧ rest ≠ [] ∧
      ∀ t ∈ rest, isSixtieth t = true := by
  unfold isSexagesimal at h
  split at h
  · next first rest hsplit =>
    simp only [Bool.and_eq_true, decide_eq_true_eq, List.all_eq_true] at h
    exact ⟨first, rest, by rw [← hsplit, joinWith_splitOn], h.1.1, h.1.2, h.2⟩
  · cases h

theorem intForm_of_isInt (h : isInt s = true) : IntForm (unsigned s) := by
  unfold isInt at h
  split at h
  · cases h
  · next heq =>
    rw [heq]
    exact .zero
  · next t heq =>
    rw [heq]
    rw [Bool.and_eq_true, List.all_eq_true] at h
    refine .binary fun c hc => ?_
    have hbit := h.2 c hc
    rw [Bool.or_eq_true] at hbit
    exact hbit.symm.imp of_decide_eq_true countsIn_two
  · next t heq =>
    rw [heq]
    rw [Bool.and_eq_true, List.all_eq_true] at h
    refine .hexadecimal fun c hc => ?_
    have hdigit := h.2 c hc
    rw [Bool.or_eq_true] at hdigit
    exact hdigit.symm.imp of_decide_eq_true countsIn_sixteen
  · next t _ _ _ heq =>
    rw [heq]
    rw [List.all_eq_true] at h
    refine .octal fun c hc => ?_
    have hdigit := h c hc
    rw [Bool.or_eq_true] at hdigit
    exact hdigit.symm.imp of_decide_eq_true countsIn_eight
  · next hoctal =>
    obtain ⟨c, t, rest, heq, hc, ht, hrest⟩ : ∃ c t rest, unsigned s = joinWith [':'] ((c :: t) :: rest) ∧
        isDigit c = true ∧ (∀ x ∈ t, isSpacedDigit x = true) ∧ ∀ p ∈ rest, isSixtieth p = true := by
      rw [Bool.or_eq_true] at h
      cases h with
      | inl h =>
        obtain ⟨c, t, heq, hc, ht⟩ := exists_of_isSpacedNumeral h
        exact ⟨c, t, [], heq, hc, ht, by simp⟩
      | inr h =>
        obtain ⟨first, rest, heq, hfirst, -, hrest⟩ := exists_parts_of_isSexagesimal h
        obtain ⟨c, t, rfl, hc, ht⟩ := exists_of_isSpacedNumeral hfirst
        exact ⟨c, t, rest, heq, hc, ht, hrest⟩
    have hzero : c ≠ '0' := by
      rintro rfl
      exact hoctal _ (heq.trans (append_joinWith ['0'] t rest).symm)
    rw [heq]
    exact .decimal hc hzero ht hrest

/-- A whole number without its sign and its underscores that cannot be read, and why. -/
inductive NoInt (t : Text) : ScalarFault → Prop
  | binary (h : t = "0b") : NoInt t (.int 2 [])
  | hexadecimal (h : t = "0x") : NoInt t (.int 16 [])
  | long {first : Text} {rest : List Text} (hhead : t.head? ≠ some '0')
    (hsplit : splitOn ':' t = first :: rest) (hlong : digitLimit < first.length) :
    NoInt t (.longInt first.length)

theorem countsIn_of_mem {base : Nat} (h : ∀ c ∈ s, c = '_' ∨ countsIn base c = true) (hc : c ∈ withoutUnderscores s) :
    countsIn base c = true := by
  obtain ⟨hin, hne⟩ := List.mem_filter.1 hc
  exact (h c hin).resolve_left (by simpa using hne)

theorem sizeOfInt_marked {base : Nat} {mark : Char} (hbase : base ∈ [2, 8, 16])
    (h : ∀ c ∈ s, c = '_' ∨ countsIn base c = true)
    (hsize : ∀ t, sizeOfInt ('0' :: mark :: t) = basedInt base t) :
    sizeOfInt ('0' :: mark :: withoutUnderscores s) = .error why ↔
      withoutUnderscores s = [] ∧ why = .int base [] := by
  rw [hsize]
  by_cases hnil : withoutUnderscores s = []
  · have hempty : basedInt base [] = .error (.int base []) := rfl
    rw [hnil, hempty]
    simp [eq_comm]
  · obtain ⟨n, hn⟩ := exists_basedInt hbase hnil fun c hc => countsIn_of_mem h hc
    rw [hn]
    simp [hnil]

theorem exists_sizeOfInt_octal (h : ∀ c ∈ s, countsIn 8 c = true) : ∃ n, sizeOfInt ('0' :: s) = .ok n := by
  have hzero : countsIn 8 '0' = true := by decide
  have hall : ∀ c ∈ '0' :: s, countsIn 8 c = true := fun c hc => (List.mem_cons.1 hc).elim (· ▸ hzero) (h c)
  obtain ⟨n, hn⟩ := exists_basedInt (by decide) (List.cons_ne_nil '0' s) hall
  have hmark : ∀ c ∈ s, c ≠ 'b' ∧ c ≠ 'x' := by
    intro c hc
    constructor
    · rintro rfl
      exact absurd (h _ hc) (by decide)
    · rintro rfl
      exact absurd (h _ hc) (by decide)
  cases s with
  | nil => exact ⟨0, rfl⟩
  | cons c s =>
    obtain ⟨hb, hx⟩ := hmark c List.mem_cons_self
    refine ⟨n, ?_⟩
    rw [sizeOfInt]
    · exact hn
    all_goals simp [hb, hx]

theorem sizeOfInt_decimal {c : Char} (hzero : c ≠ '0') :
    sizeOfInt (c :: s) =
      ((splitOn ':' (c :: s)).mapM decimalInt).map fun parts => parts.foldl (fun n d => n * 60 + d) 0 := by
  rw [sizeOfInt]
  all_goals simp [hzero]

/-- Underscores stand only in the numeral in front. -/
theorem withoutUnderscores_parts {c : Char} {rest : List Text} (hc : isDigit c = true)
    (hrest : ∀ p ∈ rest, isSixtieth p = true) :
    withoutUnderscores (joinWith [':'] ((c :: t) :: rest)) =
      joinWith [':'] ((c :: withoutUnderscores t) :: rest) := by
  have hne := (not_mark_of_isDigit hc).1
  have hkept : rest.map (fun s => s.filter (· ≠ '_')) = rest.map id :=
    List.map_congr_left fun p hp => withoutUnderscores_of_digits (digits_of_isSixtieth (hrest p hp)).2.2
  have hfirst : (c :: t).filter (· ≠ '_') = c :: withoutUnderscores t := List.filter_cons_of_pos (by simp [hne])
  rw [withoutUnderscores, filter_joinWith, List.map_cons, hkept, List.map_id, hfirst]
  rfl

theorem splitOn_parts {first : Text} {rest : List Text} (hfirst : ∀ x ∈ first, isDigit x = true)
    (hrest : ∀ p ∈ rest, isSixtieth p = true) :
    splitOn ':' (joinWith [':'] (first :: rest)) = first :: rest := by
  refine splitOn_joinWith (List.cons_ne_nil _ _) fun p hp hin => ?_
  have hdigits : ∀ x ∈ p, isDigit x = true := by
    cases List.mem_cons.1 hp with
    | inl heq => exact heq ▸ hfirst
    | inr hp => exact (digits_of_isSixtieth (hrest p hp)).2.2
  exact absurd (hdigits ':' hin) (by decide)

theorem sizeOfInt_parts {c : Char} {rest : List Text} (hc : isDigit c = true) (hzero : c ≠ '0')
    (ht : ∀ x ∈ t, isDigit x = true) (hrest : ∀ p ∈ rest, isSixtieth p = true) :
    sizeOfInt (joinWith [':'] ((c :: t) :: rest)) = .error why ↔
      digitLimit < (c :: t).length ∧ why = .longInt (c :: t).length := by
  have hdigits : ∀ x ∈ c :: t, isDigit x = true := fun x hx => (List.mem_cons.1 hx).elim (· ▸ hc) (ht x)
  have hsplit := splitOn_parts hdigits hrest
  have hcons : joinWith [':'] ((c :: t) :: rest) = c :: joinWith [':'] (t :: rest) :=
    (append_joinWith [c] t rest).symm
  rw [hcons] at hsplit ⊢
  rw [sizeOfInt_decimal hzero, hsplit, List.mapM_cons]
  by_cases hlong : digitLimit < (c :: t).length
  · rw [decimalInt_of_long hdigits hlong]
    simp only [hlong, true_and]
    exact ⟨fun h => by cases h; rfl, fun h => by rw [h]; rfl⟩
  · obtain ⟨n, hn⟩ := decimalInt_of_short (List.cons_ne_nil c t) hdigits (Nat.le_of_not_lt hlong)
    obtain ⟨ns, hns, -⟩ : ∃ ns, rest.mapM decimalInt = pure ns ∧ ns.length = rest.length :=
      exists_mapM fun p hp =>
        have hp := digits_of_isSixtieth (hrest p hp)
        decimalInt_of_short hp.1 hp.2.2 hp.2.1
    rw [hn, hns]
    exact iff_of_false nofun fun h => hlong h.1

theorem noInt_zero_iff :
    NoInt ('0' :: s) why ↔ (s = ['b'] ∧ why = .int 2 []) ∨ (s = ['x'] ∧ why = .int 16 []) := by
  constructor
  · rintro (h | h | ⟨hhead, -, -⟩)
    · exact .inl ⟨List.tail_eq_of_cons_eq h, rfl⟩
    · exact .inr ⟨List.tail_eq_of_cons_eq h, rfl⟩
    · exact absurd rfl hhead
  · rintro (⟨rfl, rfl⟩ | ⟨rfl, rfl⟩)
    · exact .binary rfl
    · exact .hexadecimal rfl

theorem noInt_parts_iff {c : Char} {rest : List Text} (hzero : c ≠ '0')
    (hsplit : splitOn ':' (c :: s) = (c :: t) :: rest) :
    NoInt (c :: s) why ↔ digitLimit < (c :: t).length ∧ why = .longInt (c :: t).length := by
  constructor
  · rintro (h | h | ⟨-, hsplit', hlong⟩)
    · exact absurd (List.head_eq_of_cons_eq h) hzero
    · exact absurd (List.head_eq_of_cons_eq h) hzero
    · rw [hsplit] at hsplit'
      cases hsplit'
      exact ⟨hlong, rfl⟩
  · rintro ⟨hlong, rfl⟩
    exact .long (by simpa using hzero) hsplit hlong

theorem sizeOfInt_eq_error_iff (h : IntForm t) :
    sizeOfInt (withoutUnderscores t) = .error why ↔ NoInt (withoutUnderscores t) why := by
  cases h with
  | zero =>
    have hkept : withoutUnderscores ['0'] = ['0'] := rfl
    rw [hkept, noInt_zero_iff]
    simp [sizeOfInt]
  | @binary s h =>
    have hkept : withoutUnderscores ('0' :: 'b' :: s) = '0' :: 'b' :: withoutUnderscores s := rfl
    rw [hkept, sizeOfInt_marked (by decide) h fun _ => rfl, noInt_zero_iff]
    simp
  | @hexadecimal s h =>
    have hkept : withoutUnderscores ('0' :: 'x' :: s) = '0' :: 'x' :: withoutUnderscores s := rfl
    rw [hkept, sizeOfInt_marked (by decide) h fun _ => rfl, noInt_zero_iff]
    simp
  | @octal s h =>
    have hkept : withoutUnderscores ('0' :: s) = '0' :: withoutUnderscores s := rfl
    have hdigits : ∀ c ∈ withoutUnderscores s, countsIn 8 c = true := fun c hc => countsIn_of_mem h hc
    obtain ⟨n, hn⟩ := exists_sizeOfInt_octal hdigits
    rw [hkept, hn, noInt_zero_iff]
    refine iff_of_false (by simp) ?_
    rintro (⟨heq, -⟩ | ⟨heq, -⟩)
    · exact absurd (hdigits 'b' (heq ▸ List.mem_cons_self)) (by decide)
    · exact absurd (hdigits 'x' (heq ▸ List.mem_cons_self)) (by decide)
  | @decimal c s rest hc hzero hs hrest =>
    have hdigits : ∀ x ∈ withoutUnderscores s, isDigit x = true := fun x hx => isDigit_of_mem hs hx
    have hfirst : ∀ x ∈ c :: withoutUnderscores s, isDigit x = true :=
      fun x hx => (List.mem_cons.1 hx).elim (· ▸ hc) (hdigits x)
    have hsplit := splitOn_parts hfirst hrest
    rw [withoutUnderscores_parts hc hrest, sizeOfInt_parts hc hzero hdigits hrest]
    have hcons : joinWith [':'] ((c :: withoutUnderscores s) :: rest) =
        c :: joinWith [':'] (withoutUnderscores s :: rest) := (append_joinWith [c] _ rest).symm
    rw [hcons] at hsplit ⊢
    exact (noInt_parts_iff hzero hsplit).symm

theorem IntForm.exists_head (h : IntForm t) : ∃ c s, t = c :: s ∧ isDigit c = true := by
  cases h with
  | zero => exact ⟨'0', [], rfl, by decide⟩
  | binary => exact ⟨'0', _, rfl, by decide⟩
  | octal => exact ⟨'0', _, rfl, by decide⟩
  | hexadecimal => exact ⟨'0', _, rfl, by decide⟩
  | @decimal c t rest hc => exact ⟨c, _, (append_joinWith [c] t rest).symm, hc⟩

/-- What keeps signs can be done before a sign is left out, if another character follows the sign. -/
theorem unsigned_of_kept {f : Text → Text} (hminus : ∀ u, f ('-' :: u) = '-' :: f u)
    (hplus : ∀ u, f ('+' :: u) = '+' :: f u) (h : unsigned s = c :: t) (hc : c ≠ '-' ∧ c ≠ '+')
    (hkept : f (c :: t) = c :: f t) : unsigned (f s) = f (unsigned s) := by
  unfold unsigned at h
  split at h
  · rw [hminus]
    rfl
  · rw [hplus]
    rfl
  · subst h
    have hself (u : Text) : unsigned (c :: u) = c :: u := unsigned_eq_self (by simp [hc])
    rw [hself t, hkept, hself]

theorem map_eq_error_iff {α β : Type} {f : α → β} {r : Except ScalarFault α} :
    r.map f = .error why ↔ r = .error why := by
  cases r with
  | ok a => exact iff_of_false nofun nofun
  | error g => exact ⟨fun h => by cases h; rfl, fun h => by cases h; rfl⟩

/-- A plain scalar with the form of a whole number stands for one, unless `NoInt` tells why not. -/
theorem intOfScalar_eq_error_iff (h : isInt s = true) :
    intOfScalar s = .error why ↔ NoInt (withoutUnderscores (unsigned s)) why := by
  have hform := intForm_of_isInt h
  obtain ⟨c, t, heq, hc⟩ := hform.exists_head
  obtain ⟨hunderscore, hsign⟩ := not_mark_of_isDigit hc
  have hkept : withoutUnderscores (c :: t) = c :: withoutUnderscores t :=
    List.filter_cons_of_pos (by simp [hunderscore])
  have hunsigned := unsigned_of_kept (f := withoutUnderscores) (fun _ => rfl) (fun _ => rfl) heq hsign hkept
  rw [intOfScalar, signed]
  dsimp only
  rw [map_eq_error_iff, hunsigned, sizeOfInt_eq_error_iff hform]

end Componentry.Yaml
