import Componentry.Proofs.Text.Case
import Componentry.Proofs.Text.Span
import Componentry.Proofs.Yaml.WholeNumbers

/-!
Plain scalars with the form of a floating point number stand for one, unless they have so many sixtieths
that the unit of the first part is too large.
-/
namespace Componentry.Yaml
open Componentry.Text

variable {s t w f e : Text} {why : ScalarFault} {c : Char}

/-! ### Decimal numbers -/

/-- Nothing, or an exponent with its sign, in lower case. -/
def IsPower (e : Text) : Prop :=
  e = [] ∨ ∃ sign ds, e = 'e' :: sign :: ds ∧ (sign = '+' ∨ sign = '-') ∧ ds ≠ [] ∧ ∀ c ∈ ds, isDigit c = true

/-- A number as it is written in decimal digits. -/
inductive DecimalText : Text → Prop
  | whole {w : Text} (hne : w ≠ []) (hw : ∀ c ∈ w, isDigit c = true) : DecimalText w
  | fraction {w f e : Text} (hne : w ≠ [] ∨ f ≠ []) (hw : ∀ c ∈ w, isDigit c = true)
    (hf : ∀ c ∈ f, isDigit c = true) (he : IsPower e) : DecimalText (w ++ '.' :: (f ++ e))

def isDecimalChar (c : Char) : Bool := isDigit c || c ∈ ['.', 'e', '+', '-']

theorem isDecimalChar_of_isDigit (h : isDigit c = true) : isDecimalChar c = true := by
  rw [isDecimalChar, h, Bool.true_or]

theorem ascii_of_isDecimalChar (h : isDecimalChar c = true) : c.toNat < 128 := by
  simp only [isDecimalChar, Bool.or_eq_true, decide_eq_true_eq, List.mem_cons, List.not_mem_nil, or_false] at h
  obtain h | rfl | rfl | rfl | rfl := h
  · exact ascii_of_isDigit h
  all_goals decide

theorem isNumberBlank_of_isDecimalChar (h : isDecimalChar c = true) : isNumberBlank c = false :=
  of_forall_ascii (p := fun c => isDecimalChar c = true → isNumberBlank c = false) (by decide)
    (ascii_of_isDecimalChar h) h

theorem plainDigit_of_isDecimalChar (h : isDecimalChar c = true) : plainDigit c = c :=
  of_forall_ascii (p := fun c => isDecimalChar c = true → plainDigit c = c) (by decide)
    (ascii_of_isDecimalChar h) h

theorem IsPower.isDecimalChar (h : IsPower e) (hc : c ∈ e) : isDecimalChar c = true := by
  obtain rfl | ⟨sign, ds, rfl, hsign, -, hds⟩ := h
  · cases hc
  · simp only [List.mem_cons] at hc
    obtain rfl | rfl | hc := hc
    · decide
    · obtain rfl | rfl := hsign <;> decide
    · exact isDecimalChar_of_isDigit (hds c hc)

theorem DecimalText.isDecimalChar (h : DecimalText s) (hc : c ∈ s) : isDecimalChar c = true := by
  cases h with
  | whole hne hw => exact isDecimalChar_of_isDigit (hw c hc)
  | fraction hne hw hf he =>
    simp only [List.mem_append, List.mem_cons] at hc
    obtain hc | rfl | hc | hc := hc
    · exact isDecimalChar_of_isDigit (hw c hc)
    · decide
    · exact isDecimalChar_of_isDigit (hf c hc)
    · exact he.isDecimalChar hc

theorem DecimalText.head_not_sign (h : DecimalText s) (hc : s.head? = some c) : c ≠ '-' ∧ c ≠ '+' := by
  have hhead : isDigit c = true ∨ c = '.' := by
    cases h with
    | whole hne hw => exact .inl (hw c (List.mem_of_head? hc))
    | @fraction w f e hne hw hf he =>
      cases w with
      | nil => exact .inr (Option.some.inj hc).symm
      | cons x w =>
        cases hc
        exact .inl (hw _ List.mem_cons_self)
  obtain hdigit | rfl := hhead
  · exact (not_mark_of_isDigit hdigit).2
  · decide

theorem IsPower.head_not_digit (h : IsPower e) (hc : e.head? = some c) : isDigit c = false := by
  obtain rfl | ⟨sign, ds, rfl, -⟩ := h
  · cases hc
  · cases hc
    decide

theorem DecimalText.isDecimal (h : DecimalText s) : isDecimal s = true := by
  cases h with
  | whole hne hw =>
    have htake : s.takeWhile isDigit = s := List.takeWhile_eq_self_iff.2 hw
    have hdrop : s.dropWhile isDigit = [] := List.dropWhile_eq_nil_iff.2 hw
    rw [Yaml.isDecimal, htake, hdrop]
    simp [hne]
  | @fraction w f e hne hw hf he =>
    have hdot : ∀ c, ('.' :: (f ++ e)).head? = some c → isDigit c = false := by
      rintro c ⟨⟩
      decide
    have hftake : (f ++ e).takeWhile isDigit = f := takeWhile_append_stop hf fun c => he.head_not_digit
    have hfdrop : (f ++ e).dropWhile isDigit = e := dropWhile_append_stop hf fun c => he.head_not_digit
    rw [Yaml.isDecimal, takeWhile_append_stop hw hdot, dropWhile_append_stop hw hdot]
    simp only [hftake, hfdrop]
    obtain rfl | ⟨sign, ds, rfl, hsign, hds, hdigits⟩ := he
    · simpa using hne
    · have hunsigned : unsigned (sign :: ds) = ds := by
        obtain rfl | rfl := hsign <;> rfl
      simp only [hunsigned]
      simpa [hds] using ⟨hne, hdigits⟩

theorem DecimalText.exists_floatPart (h : DecimalText s) : ∃ x, floatPart s = .ok x := by
  have htrim : trimWhere isNumberBlank s = s :=
    trimWhere_eq_self fun c hc => isNumberBlank_of_isDecimalChar (h.isDecimalChar hc)
  have hplain : s.map plainDigit = s.map id :=
    List.map_congr_left fun c hc => plainDigit_of_isDecimalChar (h.isDecimalChar hc)
  have hsign : unsigned s = s := unsigned_eq_self fun c => h.head_not_sign
  rw [floatPart, htrim, hplain, List.map_id, signed, hsign]
  dsimp only
  rw [if_pos h.isDecimal]
  exact ⟨_, rfl⟩

/-! ### Sixtieths -/

/-- Each part needs a unit below the limit. -/
theorem sumSixtieths_eq_error_iff {unit : Nat} {sum : Float} {xs : List Float} :
    sumSixtieths unit sum xs = .error why ↔
      why = .longFloat ∧ ∃ i < xs.length, floatLimit ≤ unit * Nat.pow 60 i := by
  induction xs generalizing unit sum with
  | nil => exact iff_of_false nofun fun h => by simpa using h.2
  | cons x xs ih =>
    have hunit (i : Nat) : unit * 60 * Nat.pow 60 i = unit * Nat.pow 60 (i + 1) :=
      (Nat.mul_assoc _ _ _).trans (congrArg (unit * ·) Nat.pow_succ'.symm)
    rw [sumSixtieths]
    by_cases hlong : unit ≥ floatLimit
    · rw [if_pos hlong]
      refine ⟨fun h => ?_, fun h => by rw [h.1]⟩
      cases h
      exact ⟨rfl, 0, by simp, by simpa using hlong⟩
    · rw [if_neg hlong, ih]
      refine and_congr_right fun _ => ⟨?_, ?_⟩
      · rintro ⟨i, hi, hle⟩
        exact ⟨i + 1, by simpa using hi, hunit i ▸ hle⟩
      · rintro ⟨i, hi, hle⟩
        cases i with
        | zero => exact absurd (by simpa using hle) hlong
        | succ i => exact ⟨i, by simpa using hi, (hunit i).symm ▸ hle⟩

/-- How many parts can be summed. -/
def mostParts : Nat := 174

theorem floatLimit_le_iff {i : Nat} : floatLimit ≤ 1 * Nat.pow 60 i ↔ mostParts ≤ i := by
  have hbelow : Nat.pow 60 173 < floatLimit := by decide +kernel
  have habove : floatLimit ≤ Nat.pow 60 mostParts := by decide +kernel
  rw [Nat.one_mul]
  constructor
  · intro h
    by_contra hlt
    have hle : i ≤ 173 := Nat.le_of_lt_succ (Nat.lt_of_not_le hlt)
    have hpow : Nat.pow 60 i ≤ Nat.pow 60 173 := Nat.pow_le_pow_right (by decide) hle
    exact absurd (Nat.le_trans h hpow) (Nat.not_le.2 hbelow)
  · intro h
    exact Nat.le_trans habove (Nat.pow_le_pow_right (by decide) h)

theorem sumSixtieths_one_iff {xs : List Float} :
    sumSixtieths 1 0.0 xs = .error why ↔ why = .longFloat ∧ mostParts < xs.length := by
  rw [sumSixtieths_eq_error_iff]
  refine and_congr_right fun _ => ⟨?_, fun h => ⟨mostParts, h, floatLimit_le_iff.2 (Nat.le_refl _)⟩⟩
  rintro ⟨i, hi, hle⟩
  exact Nat.lt_of_le_of_lt (floatLimit_le_iff.1 hle) hi

/-! ### Forms of floating point numbers -/

/-- What a plain scalar with the form of a floating point number is without its sign. -/
inductive FloatForm : Text → Prop
  | word {s : Text} (h : s ∈ infinityWords ++ nanWords) : FloatForm s
  | decimal {w f e : Text} (hne : isSpacedNumeral w = true ∨ w = [] ∧ isSpacedNumeral f = true)
    (hf : ∀ c ∈ f, isSpacedDigit c = true) (he : isExponent e = true) : FloatForm (w ++ '.' :: (f ++ e))
  /-- Parts between colons, the last with a fraction. -/
  | sexagesimal {first last f : Text} {rest : List Text} (hfirst : isSpacedNumeral first = true)
    (hrest : ∀ p ∈ rest, isSixtieth p = true) (hlast : isSixtieth last = true)
    (hf : ∀ c ∈ f, isSpacedDigit c = true) :
    FloatForm (joinWith [':'] (first :: rest ++ [last ++ '.' :: f]))

theorem unsigned_append (h : s ≠ []) (t : Text) : unsigned (s ++ t) = unsigned s ++ t := by
  cases s with
  | nil => exact absurd rfl h
  | cons c s =>
    unfold unsigned
    split
    · next heq =>
      cases heq
      rfl
    · next heq =>
      cases heq
      rfl
    · next hminus hplus =>
      split
      · next heq =>
        cases heq
        exact absurd rfl (hminus _)
      · next heq =>
        cases heq
        exact absurd rfl (hplus _)
      · rfl

theorem spaced_takeWhile (s : Text) : ∀ c ∈ s.takeWhile isSpacedDigit, isSpacedDigit c = true :=
  fun _ hc => List.mem_takeWhile_imp hc

theorem floatForm_of_isFloat (h : isFloat s = true) : FloatForm (unsigned s) := by
  rw [isFloat, Bool.or_eq_true, Bool.or_eq_true] at h
  obtain (h | h) | h := h
  · exact .word (List.mem_append_left _ (of_decide_eq_true h))
  · have hsame : (nanWords.all fun w => unsigned w = w) = true := by decide
    have hin := of_decide_eq_true h
    rw [of_decide_eq_true (List.all_eq_true.1 hsame s hin)]
    exact .word (List.mem_append_right _ hin)
  · split at h
    · cases h
    · next fraction hcut =>
      rw [Bool.and_eq_true] at h
      have hself : unsigned ('.' :: fraction) = '.' :: fraction := rfl
      rw [eq_append_of_cut? hcut, List.nil_append, hself,
        ← List.takeWhile_append_dropWhile (p := isSpacedDigit) (l := fraction)]
      exact .decimal (.inr ⟨rfl, h.1⟩) (spaced_takeWhile fraction) h.2
    · next whole fraction hne hcut =>
      rw [eq_append_of_cut? hcut, unsigned_append hne]
      rw [Bool.or_eq_true, Bool.and_eq_true, Bool.and_eq_true, List.all_eq_true] at h
      obtain ⟨hwhole, hexponent⟩ | ⟨hwhole, hfraction⟩ := h
      · rw [← List.takeWhile_append_dropWhile (p := isSpacedDigit) (l := fraction)]
        exact .decimal (.inl hwhole) (spaced_takeWhile fraction) hexponent
      · obtain ⟨first, rest, heq, hfirst, hrest, hsixtieths⟩ := exists_parts_of_isSexagesimal hwhole
        obtain ⟨init, last, rfl⟩ : ∃ init last, rest = init ++ [last] :=
          ⟨_, _, (List.dropLast_concat_getLast hrest).symm⟩
        have hjoin : joinWith [':'] (first :: (init ++ [last])) ++ '.' :: fraction =
            joinWith [':'] (first :: init ++ [last ++ '.' :: fraction]) := by
          rw [← List.cons_append, joinWith_concat (List.cons_ne_nil first init),
            joinWith_concat (List.cons_ne_nil first init), List.append_assoc, List.append_assoc]
        rw [heq, hjoin]
        exact .sexagesimal hfirst (fun p hp => hsixtieths p (List.mem_append_left _ hp))
          (hsixtieths last (by simp)) hfraction

/-! ### Reading the forms -/

/-- In lower case and without underscores. -/
def bare (s : Text) : Text := (withoutUnderscores s).map Char.toLower

theorem bare_append (s t : Text) : bare (s ++ t) = bare s ++ bare t := by
  simp [bare, withoutUnderscores]

theorem bare_cons (hne : c ≠ '_') (hlower : c.toLower = c) : bare (c :: s) = c :: bare s := by
  simp [bare, withoutUnderscores, hne, hlower]

theorem toLower_of_isDigit (h : isDigit c = true) : c.toLower = c :=
  of_forall_ascii (p := fun c => isDigit c = true → c.toLower = c) (by decide) (ascii_of_isDigit h) h

theorem bare_of_spaced (h : ∀ c ∈ s, isSpacedDigit c = true) : bare s = withoutUnderscores s := by
  have hmap : (withoutUnderscores s).map Char.toLower = (withoutUnderscores s).map id :=
    List.map_congr_left fun c hc => toLower_of_isDigit (isDigit_of_mem h hc)
  rw [bare, hmap, List.map_id]

theorem isDigit_of_mem_bare (h : ∀ c ∈ s, isSpacedDigit c = true) (hc : c ∈ bare s) : isDigit c = true :=
  isDigit_of_mem h (bare_of_spaced h ▸ hc)

theorem colon_mem_bare (h : ':' ∈ s) : ':' ∈ bare s :=
  List.mem_map.2 ⟨':', List.mem_filter.2 ⟨h, by decide⟩, by decide⟩

theorem bare_joinWith (ps : List Text) : bare (joinWith [':'] ps) = joinWith [':'] (ps.map bare) := by
  have hsep : ([':'].filter (· ≠ '_')).map Char.toLower = [':'] := by decide
  rw [bare, withoutUnderscores, filter_joinWith, map_joinWith, hsep, List.map_map]
  rfl

theorem spaced_of_isSpacedNumeral (h : isSpacedNumeral s = true) :
    bare s ≠ [] ∧ ∀ c ∈ s, isSpacedDigit c = true := by
  obtain ⟨c, t, rfl, hc, ht⟩ := exists_of_isSpacedNumeral h
  rw [bare_cons (not_mark_of_isDigit hc).1 (toLower_of_isDigit hc)]
  refine ⟨List.cons_ne_nil _ _, fun x hx => ?_⟩
  rcases List.mem_cons.1 hx with rfl | hx
  · rw [isSpacedDigit, hc, Bool.true_or]
  · exact ht x hx

theorem isPower_bare (h : isExponent e = true) : IsPower (bare e) := by
  unfold isExponent at h
  split at h
  · exact .inl rfl
  · next x sign ds =>
    simp only [Bool.and_eq_true, Bool.or_eq_true, decide_eq_true_eq, List.all_eq_true] at h
    obtain ⟨⟨⟨hx, hsign⟩, hds⟩, hdigits⟩ := h
    have hbare : bare ds = ds := by
      rw [bare_of_spaced fun c hc => by rw [isSpacedDigit, hdigits c hc, Bool.true_or],
        withoutUnderscores_of_digits hdigits]
    refine .inr ⟨sign, ds, ?_, hsign, hds, hdigits⟩
    have hmark : bare (x :: sign :: ds) = 'e' :: sign :: bare ds := by
      obtain rfl | rfl := hx <;> obtain rfl | rfl := hsign <;> rfl
    rw [hmark, hbare]
  · cases h

theorem decimalText_bare (hne : isSpacedNumeral w = true ∨ w = [] ∧ isSpacedNumeral f = true)
    (hf : ∀ c ∈ f, isSpacedDigit c = true) (he : isExponent e = true) :
    DecimalText (bare (w ++ '.' :: (f ++ e))) := by
  have hdot : bare ('.' :: (f ++ e)) = '.' :: (bare f ++ bare e) := by
    rw [bare_cons (by decide) (by decide), bare_append]
  rw [bare_append, hdot]
  have hfraction : ∀ c ∈ bare f, isDigit c = true := fun c hc => isDigit_of_mem_bare hf hc
  obtain hw | ⟨rfl, hnumeral⟩ := hne
  · obtain ⟨hnonempty, hspaced⟩ := spaced_of_isSpacedNumeral hw
    exact .fraction (.inl hnonempty) (fun c hc => isDigit_of_mem_bare hspaced hc) hfraction (isPower_bare he)
  · exact .fraction (.inr (spaced_of_isSpacedNumeral hnumeral).1) (by simp [bare, withoutUnderscores]) hfraction
      (isPower_bare he)

theorem spaced_of_isSixtieth (h : isSixtieth s = true) : ∀ c ∈ s, isSpacedDigit c = true :=
  fun c hc => by rw [isSpacedDigit, (digits_of_isSixtieth h).2.2 c hc, Bool.true_or]

theorem bare_of_isSixtieth (h : isSixtieth s = true) : bare s = s := by
  rw [bare_of_spaced (spaced_of_isSixtieth h), withoutUnderscores_of_digits (digits_of_isSixtieth h).2.2]

theorem decimalText_parts {first last : Text} {rest : List Text} (hfirst : isSpacedNumeral first = true)
    (hrest : ∀ p ∈ rest, isSixtieth p = true) (hlast : isSixtieth last = true)
    (hf : ∀ c ∈ f, isSpacedDigit c = true) {p : Text}
    (hp : p ∈ (first :: rest ++ [last ++ '.' :: f]).map bare) : DecimalText p := by
  obtain ⟨q, hq, rfl⟩ := List.mem_map.1 hp
  simp only [List.cons_append, List.mem_cons, List.mem_append, List.not_mem_nil, or_false] at hq
  obtain rfl | hq | rfl := hq
  · obtain ⟨hne, hspaced⟩ := spaced_of_isSpacedNumeral hfirst
    exact .whole hne fun c hc => isDigit_of_mem_bare hspaced hc
  · rw [bare_of_isSixtieth (hrest q hq)]
    obtain ⟨hne, -, hdigits⟩ := digits_of_isSixtieth (hrest q hq)
    exact .whole hne hdigits
  · obtain ⟨hne, -, hdigits⟩ := digits_of_isSixtieth hlast
    have hdot : bare ('.' :: f) = '.' :: (bare f ++ []) := by
      rw [bare_cons (by decide) (by decide), List.append_nil]
    rw [bare_append, hdot, bare_of_isSixtieth hlast]
    exact .fraction (.inl hne) hdigits (fun c hc => isDigit_of_mem_bare hf hc) (.inl rfl)

theorem DecimalText.colon_not_mem (h : DecimalText s) : ':' ∉ s :=
  fun hin => absurd (h.isDecimalChar hin) (by decide)

theorem sizeOfFloat_of_decimal (h : DecimalText s) : ∃ x, sizeOfFloat s = .ok x := by
  rw [sizeOfFloat]
  split
  · exact ⟨_, rfl⟩
  · split
    · exact ⟨_, rfl⟩
    · rw [if_neg h.colon_not_mem]
      exact h.exists_floatPart

theorem sizeOfFloat_of_parts {ps : List Text} (hlength : 1 < ps.length) (h : ∀ p ∈ ps, DecimalText p) :
    sizeOfFloat (joinWith [':'] ps) = .error why ↔ why = .longFloat ∧ mostParts < ps.length := by
  have hne : ps ≠ [] := List.ne_nil_of_length_pos (Nat.zero_lt_of_lt hlength)
  have hsplit : splitOn ':' (joinWith [':'] ps) = ps := splitOn_joinWith hne fun p hp => (h p hp).colon_not_mem
  have hcolon : ':' ∈ joinWith [':'] ps := by
    by_contra hnot
    rw [splitOn_eq_singleton hnot] at hsplit
    rw [← hsplit] at hlength
    exact absurd hlength (by simp)
  have hword {word : Text} (hword : ':' ∉ word) : joinWith [':'] ps ≠ word := fun heq => hword (heq ▸ hcolon)
  obtain ⟨xs, hxs, hxslength⟩ : ∃ xs, ps.mapM floatPart = pure xs ∧ xs.length = ps.length :=
    exists_mapM fun p hp => (h p hp).exists_floatPart
  rw [sizeOfFloat, if_neg (hword (by decide)), if_neg (hword (by decide)), if_pos hcolon, hsplit, hxs]
  rw [pure_bind, sumSixtieths_one_iff, List.length_reverse, hxslength]

theorem sizeOfFloat_eq_error_iff (h : FloatForm s) :
    sizeOfFloat (bare s) = .error why ↔ why = .longFloat ∧ mostParts < (splitOn ':' s).length := by
  have hsingle (hcolon : ':' ∉ s) (hok : ∃ x, sizeOfFloat (bare s) = .ok x) :
      sizeOfFloat (bare s) = .error why ↔ why = .longFloat ∧ mostParts < (splitOn ':' s).length := by
    obtain ⟨x, hx⟩ := hok
    rw [hx, splitOn_eq_singleton hcolon]
    exact iff_of_false nofun fun h => absurd h.2 (by simp [mostParts])
  cases h with
  | word hword =>
    have hwords : ((infinityWords ++ nanWords).all fun w =>
        ':' ∉ w && (bare w = (".inf" : Text) || bare w = (".nan" : Text))) = true := by decide
    have hs := List.all_eq_true.1 hwords s hword
    rw [Bool.and_eq_true, Bool.or_eq_true] at hs
    refine hsingle (of_decide_eq_true hs.1) ?_
    obtain heq | heq := hs.2
    · rw [of_decide_eq_true heq]
      exact ⟨_, rfl⟩
    · rw [of_decide_eq_true heq]
      exact ⟨_, rfl⟩
  | decimal hne hf he =>
    have hdecimal := decimalText_bare hne hf he
    exact hsingle (fun hin => hdecimal.colon_not_mem (colon_mem_bare hin)) (sizeOfFloat_of_decimal hdecimal)
  | @sexagesimal first last f rest hfirst hrest hlast hf =>
    have hparts := fun p => decimalText_parts (p := p) hfirst hrest hlast hf
    have hcolon : ∀ p ∈ first :: rest ++ [last ++ '.' :: f], ':' ∉ p := fun p hp hin =>
      (hparts (bare p) (List.mem_map_of_mem hp)).colon_not_mem (colon_mem_bare hin)
    rw [bare_joinWith, sizeOfFloat_of_parts (by simp) hparts, splitOn_joinWith (by simp) hcolon, List.length_map]

theorem FloatForm.exists_head (h : FloatForm s) :
    ∃ c t, s = c :: t ∧ (c ≠ '_' ∧ c ≠ '-' ∧ c ≠ '+') ∧ c.toLower = c := by
  have hdigit {c : Char} (hc : isDigit c = true) := And.intro (not_mark_of_isDigit hc) (toLower_of_isDigit hc)
  cases h with
  | word hword =>
    have hdots : ((infinityWords ++ nanWords).all fun w => w.head? = some '.') = true := by decide
    obtain ⟨t, rfl⟩ := List.head?_eq_some_iff.1 (of_decide_eq_true (List.all_eq_true.1 hdots s hword))
    exact ⟨'.', t, rfl, by decide⟩
  | @decimal w f e hne =>
    obtain hw | ⟨rfl, -⟩ := hne
    · obtain ⟨c, t, rfl, hc, -⟩ := exists_of_isSpacedNumeral hw
      exact ⟨c, _, rfl, hdigit hc⟩
    · exact ⟨'.', _, rfl, by decide⟩
  | @sexagesimal first last f rest hfirst =>
    obtain ⟨c, t, rfl, hc, -⟩ := exists_of_isSpacedNumeral hfirst
    exact ⟨c, _, (append_joinWith [c] t _).symm, hdigit hc⟩

theorem ascii_of_toLower (h : c.toLower.toNat < 128) : c.toNat < 128 := by
  unfold Char.toLower at h
  split at h
  · next hupper =>
    have hle : c.toNat ≤ 'Z'.toNat := hupper.2
    exact Nat.lt_of_le_of_lt hle (by decide)
  · exact h

theorem FloatForm.ascii_bare (h : FloatForm s) : ∀ c ∈ bare s, c.toNat < 128 := by
  intro c hc
  cases h with
  | word hword =>
    have hwords : ((infinityWords ++ nanWords).all fun w => (bare w).all fun c => c.toNat < 128) = true := by decide
    exact of_decide_eq_true (List.all_eq_true.1 (List.all_eq_true.1 hwords s hword) c hc)
  | decimal hne hf he => exact ascii_of_isDecimalChar ((decimalText_bare hne hf he).isDecimalChar hc)
  | sexagesimal hfirst hrest hlast hf =>
    rw [bare_joinWith] at hc
    obtain hc | ⟨p, hp, hc⟩ := mem_of_mem_joinWith hc
    · rw [List.mem_singleton.1 hc]
      decide
    · exact ascii_of_isDecimalChar ((decimalText_parts hfirst hrest hlast hf hp).isDecimalChar hc)

theorem FloatForm.ascii (h : FloatForm s) : ∀ c ∈ withoutUnderscores s, c.toNat < 128 :=
  fun _ hc => ascii_of_toLower (h.ascii_bare _ (List.mem_map_of_mem hc))

theorem mem_unsigned_or_sign (h : c ∈ s) : c ∈ unsigned s ∨ c = '-' ∨ c = '+' := by
  unfold unsigned
  split
  · exact (List.mem_cons.1 h).symm.imp_right .inl
  · exact (List.mem_cons.1 h).symm.imp_right .inr
  · exact .inl h

theorem lower_eq_bare (h : FloatForm (unsigned s)) : lower (withoutUnderscores s) = bare s := by
  refine lower_of_ascii fun c hc => ?_
  obtain ⟨hin, hne⟩ := List.mem_filter.1 hc
  obtain hin | rfl | rfl := mem_unsigned_or_sign hin
  · exact h.ascii c (List.mem_filter.2 ⟨hin, hne⟩)
  · decide
  · decide

/-- A plain scalar with the form of a floating point number stands for one, unless it has too many parts. -/
theorem floatOfScalar_eq_error_iff (h : isFloat s = true) :
    floatOfScalar s = .error why ↔ why = .longFloat ∧ mostParts < (splitOn ':' (unsigned s)).length := by
  have hform := floatForm_of_isFloat h
  obtain ⟨c, t, heq, ⟨hunderscore, hsign⟩, hlower⟩ := hform.exists_head
  have hkept : bare (c :: t) = c :: bare t := bare_cons hunderscore hlower
  have hunsigned := unsigned_of_kept (f := bare) (fun _ => rfl) (fun _ => rfl) heq hsign hkept
  have hne : bare s ≠ [] := by
    intro hnil
    rw [hnil, heq, hkept] at hunsigned
    cases hunsigned
  rw [floatOfScalar, lower_eq_bare hform]
  dsimp only
  rw [if_neg hne, signed, map_eq_error_iff, hunsigned, sizeOfFloat_eq_error_iff hform]

end Componentry.Yaml
