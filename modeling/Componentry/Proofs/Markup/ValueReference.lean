import Componentry.Proofs.Markup.ReferenceNames
import Componentry.Proofs.Text.Span
import Mathlib.Data.List.TakeWhile

/-!
What stands after an ampersand in an attribute value either begins a reference, which is read as less than
was written, or is read as it stands.
-/
namespace Componentry.Markup
open Componentry.Text

/-! ### References -/

/-- The shortest texts that make a reference of the ampersand before them. -/
inductive OpensReference : Text → Prop where
  | decimal {d : Char} : isDigit d → OpensReference ['#', d]
  | hexadecimal {x d : Char} : x = 'x' ∨ x = 'X' → isHexDigit d → OpensReference ['#', x, d]
  | terminated {name : Text} : (named? name).isSome → OpensReference (name ++ [';'])
  | unterminated {name : Text} : isUnterminated name → OpensReference name

def BeginsReference (s : Text) : Prop := ∃ p, OpensReference p ∧ p <+: s

theorem isReferenceChar_of_isWordChar {c : Char} (h : isWordChar c = true) : isReferenceChar c = true := by
  have hne {d : Char} (hd : isWordChar d = false) : c ≠ d := by
    rintro rfl
    rw [h] at hd
    cases hd
  simp only [isReferenceChar, Bool.not_eq_true', Bool.or_eq_false_iff, decide_eq_false_iff_not]
  exact ⟨⟨⟨⟨⟨⟨⟨hne rfl, hne rfl⟩, hne rfl⟩, hne rfl⟩, hne rfl⟩, hne rfl⟩, hne rfl⟩, hne rfl⟩

theorem exists_cons_of_takeWhile {isNumeral : Char → Bool} {s : Text} (h : s.takeWhile isNumeral ≠ []) :
    ∃ d t, s = d :: t ∧ isNumeral d = true := by
  cases s with
  | nil => exact absurd rfl h
  | cons d t =>
    refine ⟨d, t, rfl, ?_⟩
    by_contra hd
    exact h (List.takeWhile_cons_of_neg hd)

/-- No name begins with a hash. -/
theorem named?_hash (s : Text) : named? ('#' :: s) = none := rfl

theorem beginsReference_hash_iff {r : Text} :
    BeginsReference ('#' :: r) ↔ r.takeWhile isDigit ≠ [] ∨
      ∃ x t, r = x :: t ∧ (x = 'x' ∨ x = 'X') ∧ t.takeWhile isHexDigit ≠ [] := by
  have hname {name v w : Text} (hv : named? name = some v) : ¬ name ++ w <+: '#' :: r := by
    intro hpre
    cases name with
    | nil => cases hv
    | cons c name =>
      rw [List.cons_append, List.cons_prefix_cons] at hpre
      rw [hpre.1, named?_hash] at hv
      cases hv
  constructor
  · rintro ⟨p, hp, hpre⟩
    cases hp with
    | decimal hd =>
      obtain ⟨t, ht⟩ := (List.cons_prefix_cons.1 hpre).2
      rw [← ht]
      exact .inl (by simp [hd])
    | hexadecimal hx hd =>
      obtain ⟨t, ht⟩ := (List.cons_prefix_cons.1 hpre).2
      rw [← ht]
      exact .inr ⟨_, _, rfl, hx, by simp [hd]⟩
    | terminated hsome =>
      obtain ⟨v, hv⟩ := Option.isSome_iff_exists.1 hsome
      exact absurd hpre (hname hv)
    | unterminated hbare =>
      obtain ⟨v, hv⟩ := named?_of_isUnterminated hbare
      rw [← List.append_nil p] at hpre
      exact absurd hpre (hname hv)
  · rintro (hdigits | ⟨x, t, rfl, hx, hdigits⟩)
    · obtain ⟨d, t, rfl, hd⟩ := exists_cons_of_takeWhile hdigits
      exact ⟨_, .decimal hd, t, rfl⟩
    · obtain ⟨d, t, rfl, hd⟩ := exists_cons_of_takeWhile hdigits
      exact ⟨_, .hexadecimal hx hd, t, rfl⟩

theorem beginsReference_name {s : Text} (h : BeginsReference s) (hs : s.head? ≠ some '#') :
    ∃ name v, named? name = some v ∧ (name ++ [';'] <+: s ∨ isUnterminated name ∧ name <+: s) := by
  obtain ⟨p, hp, hpre⟩ := h
  have hhash {t : Text} : ¬ '#' :: t <+: s := by
    rintro ⟨w, rfl⟩
    exact hs rfl
  cases hp with
  | decimal => exact absurd hpre hhash
  | hexadecimal => exact absurd hpre hhash
  | terminated hname =>
    obtain ⟨v, hv⟩ := Option.isSome_iff_exists.1 hname
    exact ⟨_, v, hv, .inl hpre⟩
  | unterminated hname =>
    obtain ⟨v, hv⟩ := named?_of_isUnterminated hname
    exact ⟨_, v, hv, .inr ⟨hname, hpre⟩⟩

/-! ### Reading them -/

/-- How the text after an ampersand is read. -/
inductive ReferenceAt (s : Text) : Prop where
  | tooLong {digits : Nat} : valueReference? s = .error digits → BeginsReference s → ReferenceAt s
  | nothing : valueReference? s = .ok none → ¬ BeginsReference s → ReferenceAt s
  | asItStands {p t : Text} : s = p ++ t → '&' ∉ p → valueReference? s = .ok (some ('&' :: p, p.length)) →
      ¬ BeginsReference s → ReferenceAt s
  | shorter {p t v : Text} : s = p ++ t → '&' ∉ p → valueReference? s = .ok (some (v, p.length)) →
      v.length ≤ p.length → BeginsReference s → ReferenceAt s

/-- What a semicolon adds to a reference that it ends. -/
def ending (terminated : Bool) : Text := if terminated then [';'] else []

theorem amp_not_mem_ending (terminated : Bool) : '&' ∉ ending terminated := by cases terminated <;> decide

theorem semicolons_split (s : Text) :
    ∃ t, s = ending (semicolons s = 1) ++ t ∧ (ending (semicolons s = 1)).length = semicolons s := by
  unfold semicolons
  split
  · next t => exact ⟨t, rfl, rfl⟩
  · exact ⟨s, rfl, rfl⟩

theorem length_valueOfNumber_le (n : Nat) : (valueOfNumber n).length ≤ 1 := by
  unfold valueOfNumber
  split
  · exact Nat.zero_le 1
  · exact Nat.le_refl 1

/-- A text cut after its leading digits and after a semicolon that follows them. -/
theorem digits_split {isNumeral : Char → Bool} (hamp : isNumeral '&' = false) (s : Text) :
    ∃ e t, s = s.takeWhile isNumeral ++ e ++ t ∧
      semicolons (s.drop (s.takeWhile isNumeral).length) = e.length ∧
      '&' ∉ s.takeWhile isNumeral ++ e := by
  have hcut := List.takeWhile_append_dropWhile (p := isNumeral) (l := s)
  have hrest : s.drop (s.takeWhile isNumeral).length = s.dropWhile isNumeral :=
    calc s.drop (s.takeWhile isNumeral).length
        = (s.takeWhile isNumeral ++ s.dropWhile isNumeral).drop (s.takeWhile isNumeral).length := by rw [hcut]
      _ = s.dropWhile isNumeral := List.drop_left
  obtain ⟨t, hs, he⟩ := semicolons_split (s.dropWhile isNumeral)
  refine ⟨_, t, by rw [List.append_assoc, ← hs, hcut], by rw [hrest, he], ?_⟩
  rw [List.mem_append]
  rintro (hin | hin)
  · have hdigit := List.mem_takeWhile_imp hin
    rw [hamp] at hdigit
    cases hdigit
  · exact amp_not_mem_ending _ hin

theorem valueReference?_decimal {r : Text} (h : r.takeWhile isDigit ≠ []) :
    valueReference? ('#' :: r) = (decimalNumber (r.takeWhile isDigit)).map fun n =>
      some (valueOfNumber n, 1 + (r.takeWhile isDigit).length +
        semicolons (r.drop (r.takeWhile isDigit).length)) := if_pos h

theorem valueReference?_hexadecimal {x : Char} {t : Text} (hdecimal : (x :: t).takeWhile isDigit = [])
    (h : (x = 'x' ∨ x = 'X') ∧ t.takeWhile isHexDigit ≠ []) :
    valueReference? ('#' :: x :: t) = .ok (some (valueOfNumber (numeral 16 (t.takeWhile isHexDigit)),
      2 + (t.takeWhile isHexDigit).length + semicolons (t.drop (t.takeWhile isHexDigit).length))) :=
  (if_neg (not_not.2 hdecimal)).trans (if_pos h)

theorem valueReference?_hash_eq_none {r : Text} (h : ¬ BeginsReference ('#' :: r)) :
    valueReference? ('#' :: r) = .ok none := by
  rw [beginsReference_hash_iff, not_or, not_not] at h
  cases r with
  | nil => rfl
  | cons x t =>
    have hno : ¬ ((x = 'x' ∨ x = 'X') ∧ t.takeWhile isHexDigit ≠ []) := fun hx => h.2 ⟨x, t, rfl, hx⟩
    exact (if_neg (not_not.2 h.1)).trans (if_neg hno)

theorem ReferenceAt.number {s p t : Text} {n : Nat} (hs : s = p ++ t) (hamp : '&' ∉ p) (hp : p ≠ [])
    (hread : valueReference? s = .ok (some (valueOfNumber n, p.length))) (hbegins : BeginsReference s) :
    ReferenceAt s :=
  .shorter hs hamp hread (Nat.le_trans (length_valueOfNumber_le n) (List.length_pos_iff.2 hp)) hbegins

theorem referenceAt_hash (r : Text) : ReferenceAt ('#' :: r) := by
  by_cases hbegins : BeginsReference ('#' :: r)
  · by_cases hdecimal : r.takeWhile isDigit = []
    · obtain ⟨x, t, rfl, hhex⟩ := (beginsReference_hash_iff.1 hbegins).resolve_left (· hdecimal)
      obtain ⟨e, w, ht, hlength, hamp⟩ := @digits_split isHexDigit (by decide) t
      have hread := valueReference?_hexadecimal hdecimal hhex
      have hcut : '#' :: x :: t = '#' :: x :: (t.takeWhile isHexDigit ++ e) ++ w := by
        rw [List.cons_append, List.cons_append, ← ht]
      have hx : '&' ≠ x := by obtain rfl | rfl := hhex.1 <;> decide
      have hp : 2 + (t.takeWhile isHexDigit).length + e.length =
          ('#' :: x :: (t.takeWhile isHexDigit ++ e)).length := by
        simp only [List.length_cons, List.length_append]
        omega
      rw [hlength, hp] at hread
      exact .number hcut (by simp [hx, hamp]) (List.cons_ne_nil _ _) hread hbegins
    · obtain ⟨e, w, hr, hlength, hamp⟩ := @digits_split isDigit (by decide) r
      have hread := valueReference?_decimal hdecimal
      cases hnumber : decimalNumber (r.takeWhile isDigit) with
      | error digits =>
        rw [hnumber] at hread
        exact .tooLong hread hbegins
      | ok n =>
        have hcut : '#' :: r = '#' :: (r.takeWhile isDigit ++ e) ++ w := by rw [List.cons_append, ← hr]
        have hp : 1 + (r.takeWhile isDigit).length + e.length = ('#' :: (r.takeWhile isDigit ++ e)).length := by
          simp only [List.length_cons, List.length_append]
          omega
        rw [hnumber, hlength, hp] at hread
        exact .number hcut (by simp [hamp]) (List.cons_ne_nil _ _) hread hbegins
  · exact .nothing (valueReference?_hash_eq_none hbegins) hbegins

/-! ### Names -/

/-- A name, or a beginning of it, is one of a reference. -/
def IsNamed (name : Text) (terminated : Bool) : Prop :=
  (terminated ∧ (named? name).isSome) ∨ ∃ n ≤ name.length, isUnterminated (name.take n)

theorem IsNamed.ne_nil {name : Text} {terminated : Bool} (h : IsNamed name terminated) : name ≠ [] := by
  rintro rfl
  obtain ⟨-, hname⟩ | ⟨n, -, hbare⟩ := h
  · cases hname
  · rw [List.take_nil] at hbare
    obtain ⟨v, hv⟩ := named?_of_isUnterminated hbare
    cases hv

theorem length_named?_getD (name : Text) : ((named? name).getD []).length ≤ 2 := by
  cases hv : named? name with
  | none => exact Nat.zero_le 2
  | some v => exact (named?_spec hv).2.2.2

theorem valueOfName_cases (name : Text) (terminated : Bool) :
    (IsNamed name terminated ∧
      (valueOfName name terminated).length ≤ (name ++ ending terminated).length) ∨
    (¬ IsNamed name terminated ∧ valueOfName name terminated = '&' :: (name ++ ending terminated)) := by
  have hend : (ending terminated).length ≤ 1 := by cases terminated <;> decide
  have hfold : (if terminated then [';'] else [] : Text) = ending terminated := rfl
  simp only [valueOfName, hfold]
  cases hwhole : (if terminated || isUnterminated name then named? name else none) with
  | some v =>
    obtain ⟨hcond, hv⟩ := Option.ite_none_right_eq_some.1 hwhole
    obtain ⟨-, hlong, -, hvalue⟩ := named?_spec hv
    refine .inl ⟨?_, ?_⟩
    · obtain hterminated | hbare := Bool.or_eq_true_iff.1 hcond
      · exact .inl ⟨hterminated, by rw [hv]; rfl⟩
      · exact .inr ⟨name.length, Nat.le_refl _, by rwa [List.take_length]⟩
    · rw [List.length_append]
      exact Nat.le_trans hvalue (Nat.le_trans hlong (Nat.le_add_right _ _))
  | none =>
    cases hfind : ((List.range (name.length + (ending terminated).length)).reverse.filter (2 ≤ ·)).find?
        fun n => isUnterminated (name.take n) with
    | some n =>
      have hbare : isUnterminated (name.take n) = true := by simpa using List.find?_some hfind
      have hrange := List.mem_of_find?_eq_some hfind
      simp only [List.mem_filter, List.mem_reverse, List.mem_range, decide_eq_true_eq] at hrange
      have hvalue := length_named?_getD (name.take n)
      refine .inl ⟨.inr ⟨n, by omega, hbare⟩, ?_⟩
      simp only [List.length_append, List.length_drop]
      omega
    | none =>
      refine .inr ⟨?_, rfl⟩
      rintro (⟨hterminated, hname⟩ | ⟨n, hn, hbare⟩)
      · rw [hterminated, Bool.true_or, if_pos rfl] at hwhole
        rw [hwhole] at hname
        cases hname
      · obtain ⟨v, hv⟩ := named?_of_isUnterminated hbare
        obtain ⟨-, hlong, -⟩ := named?_spec hv
        rw [List.length_take, Nat.min_eq_left hn] at hlong
        -- without a semicolon the search leaves out the whole name, which was looked up before
        by_cases hall : n = name.length
        · rw [hall, List.take_length] at hbare hv
          rw [hbare, Bool.or_true, if_pos rfl, hv] at hwhole
          cases hwhole
        · have hrange : n ∈ (List.range (name.length + (ending terminated).length)).reverse.filter (2 ≤ ·) := by
            simp only [List.mem_filter, List.mem_reverse, List.mem_range, decide_eq_true_eq]
            omega
          exact List.find?_eq_none.1 hfind n hrange hbare

/-- The name that a text begins with, cut at the greatest length of a name. -/
def leadingName (s : Text) : Text := (s.take 32).takeWhile isReferenceChar

/-- A semicolon ends that name. -/
def isTerminated (s : Text) : Bool := semicolons (s.drop (leadingName s).length) = 1

section LeadingName
variable {s name v : Text}

theorem leadingName_begins (s : Text) : leadingName s <+: s := by
  have hcut : leadingName s <+: s.take 32 := List.takeWhile_prefix _
  exact hcut.trans <| List.take_prefix 32 s

theorem amp_not_mem_leadingName (s : Text) : '&' ∉ leadingName s := fun h =>
  absurd (List.mem_takeWhile_imp h) (by decide)

theorem prefix_leadingName (hv : named? name = some v) (h : name <+: s) : name <+: leadingName s := by
  obtain ⟨hword, -, hlength, -⟩ := named?_spec hv
  exact prefix_takeWhile (List.prefix_take_iff.2 ⟨h, hlength⟩) fun c hc =>
    isReferenceChar_of_isWordChar (hword c hc)

theorem eq_leadingName (hv : named? name = some v) (h : name ++ [';'] <+: s) :
    name = leadingName s ∧ isTerminated s := by
  obtain ⟨t, rfl⟩ := h
  rw [List.append_assoc]
  have hpre : name <+: name ++ ([';'] ++ t) := List.prefix_append _ _
  obtain ⟨w, hw⟩ := prefix_leadingName hv hpre
  have hrest : w <+: [';'] ++ t := by
    have hall := leadingName_begins (name ++ ([';'] ++ t))
    rw [← hw] at hall
    exact (List.prefix_append_right_inj name).1 hall
  cases w with
  | nil =>
    rw [List.append_nil] at hw
    rw [isTerminated, ← hw, List.drop_left]
    exact ⟨rfl, rfl⟩
  | cons c w =>
    have hc : c = ';' := (List.cons_prefix_cons.1 hrest).1
    have hmem : c ∈ leadingName (name ++ ([';'] ++ t)) := by
      rw [← hw]
      exact List.mem_append_right _ List.mem_cons_self
    exact absurd (List.mem_takeWhile_imp hmem) (by rw [hc]; decide)

theorem leadingName_split (s : Text) :
    ∃ t, s = leadingName s ++ ending (isTerminated s) ++ t ∧
      semicolons (s.drop (leadingName s).length) = (ending (isTerminated s)).length := by
  obtain ⟨t, ht, hlength⟩ := semicolons_split (s.drop (leadingName s).length)
  refine ⟨t, ?_, hlength.symm⟩
  rw [List.append_assoc, isTerminated, ← ht, List.prefix_iff_eq_append.1 (leadingName_begins s)]

/-- A reference by name shows in the name that the text begins with. -/
theorem beginsReference_name_iff (hs : s.head? ≠ some '#') :
    BeginsReference s ↔ IsNamed (leadingName s) (isTerminated s) := by
  constructor
  · intro h
    obtain ⟨name, v, hv, hterminated | ⟨hbare, hpre⟩⟩ := beginsReference_name h hs
    · obtain ⟨rfl, hsemicolon⟩ := eq_leadingName hv hterminated
      exact .inl ⟨hsemicolon, by rw [hv]; rfl⟩
    · have hpre := prefix_leadingName hv hpre
      exact .inr ⟨name.length, hpre.length_le, by rwa [← List.prefix_iff_eq_take.1 hpre]⟩
  · rintro (⟨hsemicolon, hname⟩ | ⟨n, -, hbare⟩)
    · obtain ⟨t, ht, -⟩ := leadingName_split s
      rw [hsemicolon] at ht
      exact ⟨_, .terminated hname, t, ht.symm⟩
    · have hcut : (leadingName s).take n <+: leadingName s := List.take_prefix n _
      exact ⟨_, .unterminated hbare, hcut.trans (leadingName_begins s)⟩

theorem valueReference?_name (hs : s.head? ≠ some '#') (hname : leadingName s ≠ []) :
    valueReference? s = .ok (some (valueOfName (leadingName s) (isTerminated s),
      (leadingName s ++ ending (isTerminated s)).length)) := by
  obtain ⟨t, -, hlength⟩ := leadingName_split s
  rw [List.length_append, ← hlength]
  unfold valueReference?
  split
  · exact absurd rfl hs
  · exact if_neg hname

theorem referenceAt_name (hs : s.head? ≠ some '#') : ReferenceAt s := by
  have hbegins := beginsReference_name_iff hs
  by_cases hname : leadingName s = []
  · refine .nothing ?_ fun h => (hbegins.1 h).ne_nil hname
    unfold valueReference?
    split
    · exact absurd rfl hs
    · exact if_pos hname
  · obtain ⟨t, hsplit, -⟩ := leadingName_split s
    have hread := valueReference?_name hs hname
    have hamp : '&' ∉ leadingName s ++ ending (isTerminated s) := by
      simp [amp_not_mem_leadingName, amp_not_mem_ending]
    obtain ⟨hnamed, hvalue⟩ | ⟨hnot, hvalue⟩ := valueOfName_cases (leadingName s) (isTerminated s)
    · exact .shorter hsplit hamp hread hvalue (hbegins.2 hnamed)
    · rw [hvalue] at hread
      exact .asItStands hsplit hamp hread (mt hbegins.1 hnot)

end LeadingName

theorem referenceAt (s : Text) : ReferenceAt s := by
  by_cases hs : s.head? = some '#'
  · obtain ⟨r, rfl⟩ := List.head?_eq_some_iff.1 hs
    exact referenceAt_hash r
  · exact referenceAt_name hs

end Componentry.Markup
