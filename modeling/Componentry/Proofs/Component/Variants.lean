import Componentry.Component.Spec
import Componentry.Proofs.Component.Tokens
import Componentry.Proofs.Text.Words

/-!
Which variants a page documents: the values of a dimension are the words of its vocabulary whose
class the page carries, in the order in which the walk over the page first meets them.
-/
namespace Componentry.Component
open Componentry.Markup Componentry.Text Componentry.Document

/-- The class of a variant of the base class. -/
def variantClass (base value : Text) : Text := base ++ '-' :: value

theorem variantClass_inj {base v w : Text} (h : variantClass base v = variantClass base w) : v = w :=
  (List.cons.inj (List.append_cancel_left h)).2

theorem variantClass_ne_base (base v : Text) : variantClass base v ≠ base := by
  intro h
  have hlen := congrArg List.length h
  simp [variantClass] at hlen

theorem drop_variantClass (base v : Text) : (variantClass base v).drop (base.length + 1) = v := by
  simp [variantClass, List.drop_append]

/-! ### Sorting a token -/

theorem vocabularies_disjoint :
    ∀ d ∈ Dimension.all, ∀ e ∈ Dimension.all, ∀ v ∈ d.vocabulary, v ∈ e.vocabulary → d = e := by
  decide

theorem mem_all_of_mem_vocabulary {d : Dimension} {v : Text} (h : v ∈ d.vocabulary) :
    d ∈ Dimension.all := by
  cases d with
  | custom name => exact absurd h List.not_mem_nil
  | _ => decide

theorem ne_nil_of_mem_vocabulary {d : Dimension} {v : Text} (hv : v ∈ d.vocabulary) : v ≠ [] := by
  have hwords : ∀ d ∈ Dimension.all, ∀ v ∈ d.vocabulary, v ≠ [] := by decide
  exact hwords d (mem_all_of_mem_vocabulary hv) v hv

theorem eq_of_mem_vocabulary {d e : Dimension} {v : Text} (hd : v ∈ d.vocabulary)
    (he : v ∈ e.vocabulary) : d = e :=
  vocabularies_disjoint d (mem_all_of_mem_vocabulary hd) e (mem_all_of_mem_vocabulary he) v hd he

theorem isVariant_iff {base token : Text} {words : List Text} (hwords : words ≠ [])
    (htoken : '\n' ∉ token) :
    isVariant base words token = true ↔ ∃ v ∈ words, token = variantClass base v := by
  rw [isVariant, if_neg hwords]
  constructor
  · intro h
    split at h
    · exact absurd h (by simp)
    · next s hs =>
      have htext : token = variantClass base s := by
        simpa [variantClass] using eq_append_of_after? hs
      obtain ⟨v, hv, heq⟩ := List.any_eq_true.1 h
      obtain heq | heq : s = v ∨ s = v ++ ['\n'] := by simpa using heq
      · exact ⟨v, hv, heq ▸ htext⟩
      · exact absurd (by simp [htext, heq, variantClass]) htoken
  · intro h
    obtain ⟨v, hv, rfl⟩ := h
    have hafter : after? (base ++ ['-']) (variantClass base v) = some v := by
      simpa [variantClass] using after?_append (base ++ ['-']) v
    rw [hafter]
    exact List.any_eq_true.2 ⟨v, hv, by simp⟩

theorem vocabulary_ne_nil {d : Dimension} (h : d ∈ Dimension.all) : d.vocabulary ≠ [] := by
  revert d
  decide

/-- The dimension that is found for a token has the word that the token ends in. -/
theorem exists_word_of_find? {base token : Text} {d : Dimension} (htoken : '\n' ∉ token)
    (h : (Dimension.all.find? fun e => isVariant base e.vocabulary token) = some d) :
    ∃ v ∈ d.vocabulary, token = variantClass base v := by
  have hvariant : isVariant base d.vocabulary token = true := by
    simpa using List.find?_some h
  exact (isVariant_iff (vocabulary_ne_nil (List.mem_of_find?_eq_some h)) htoken).1 hvariant

/-- A token names at most one variant, and names it by its class. -/
theorem variant?_ofToken_iff {base token v : Text} {d : Dimension} (htoken : '\n' ∉ token) :
    (Category.ofToken base token).variant? = some (d, v) ↔
      v ∈ d.vocabulary ∧ token = variantClass base v := by
  rw [Category.ofToken]
  constructor
  · intro h
    split at h
    · exact absurd h (by simp [Category.variant?])
    · split at h
      · next e he =>
        obtain ⟨rfl, hdrop⟩ : e = d ∧ token.drop (base.length + 1) = v := by
          simpa [Category.variant?] using h
        obtain ⟨w, hw, rfl⟩ := exists_word_of_find? htoken he
        rw [drop_variantClass] at hdrop
        exact hdrop ▸ ⟨hw, rfl⟩
      · exact absurd h (by simp [Category.variant?])
  · intro h
    obtain ⟨hv, rfl⟩ := h
    rw [if_neg (variantClass_ne_base base v)]
    have hd := mem_all_of_mem_vocabulary hv
    have hself := (isVariant_iff (vocabulary_ne_nil hd) htoken).2 ⟨v, hv, rfl⟩
    cases hfind : Dimension.all.find? fun e => isVariant base e.vocabulary (variantClass base v) with
    | none => exact absurd hself (List.find?_eq_none.1 hfind d hd)
    | some e =>
      obtain ⟨w, hw, heq⟩ := exists_word_of_find? htoken hfind
      rw [← variantClass_inj heq] at hw
      simp [Category.variant?, drop_variantClass, eq_of_mem_vocabulary hv hw]

/-! ### The values of a dimension -/

/-- The value of the dimension that a token names. -/
def namedValue? (base : Text) (d : Dimension) (token : Text) : Option Text :=
  ((Category.ofToken base token).variant?.filter (·.1 = d)).map (·.2)

theorem namedValue?_eq_some_iff {base token v : Text} {d : Dimension} (htoken : '\n' ∉ token) :
    namedValue? base d token = some v ↔ v ∈ d.vocabulary ∧ token = variantClass base v := by
  rw [← variant?_ofToken_iff htoken, namedValue?]
  cases (Category.ofToken base token).variant? with
  | none => simp
  | some dv => simp [Option.filter_some, Prod.ext_iff]

section Values
variable {base v : Text} {tokens : List Text} {d : Dimension}

theorem mem_filterMap_namedValue? (htokens : ∀ t ∈ tokens, '\n' ∉ t) :
    v ∈ tokens.filterMap (namedValue? base d) ↔ v ∈ d.vocabulary ∧ variantClass base v ∈ tokens := by
  rw [List.mem_filterMap]
  constructor
  · intro h
    obtain ⟨t, ht, hv⟩ := h
    obtain ⟨hword, rfl⟩ := (namedValue?_eq_some_iff (htokens t ht)).1 hv
    exact ⟨hword, ht⟩
  · intro h
    exact ⟨_, h.2, (namedValue?_eq_some_iff (htokens _ h.2)).2 ⟨h.1, rfl⟩⟩

theorem pairwise_filterMap_namedValue? (base : Text) (d : Dimension) (htokens : ∀ t ∈ tokens, '\n' ∉ t) :
    ((unique tokens).filterMap (namedValue? base d)).Pairwise fun v w =>
      tokens.idxOf (variantClass base v) < tokens.idxOf (variantClass base w) := by
  refine List.pairwise_filterMap.2 ((pairwise_idxOf_unique tokens).imp_of_mem ?_)
  intro t u ht hu hlt v hv w hw
  have hvt := (namedValue?_eq_some_iff (htokens t (mem_unique.1 ht))).1 hv
  have hwu := (namedValue?_eq_some_iff (htokens u (mem_unique.1 hu))).1 hw
  rw [← hvt.2, ← hwu.2]
  exact hlt

theorem lookup_filterMap {α : Type} (g : Dimension → Option α) (ds : List Dimension) (d : Dimension) :
    (ds.filterMap fun e => (g e).map (e, ·)).lookup d = if d ∈ ds then g d else none := by
  induction ds with
  | nil => rfl
  | cons e ds ih =>
    cases hg : g e with
    | none =>
      rw [List.filterMap_cons_none (by simp [hg]), ih]
      by_cases hd : d = e
      · simp [hd, hg]
      · simp [hd]
    | some a =>
      rw [List.filterMap_cons_some (b := (e, a)) (by simp [hg])]
      by_cases hd : d = e
      · simp [hd, hg]
      · simp [List.lookup_cons, beq_eq_false_iff_ne.2 hd, hd, ih]

/-- The values that the tokens name, each at its first place, if there are any. -/
def namedValues? (base : Text) (tokens : List Text) (d : Dimension) : Option (List Text) :=
  match tokens.filterMap (namedValue? base d) with
  | [] => none
  | values => some (unique values)

theorem ofTokens_eq_filterMap (base : Text) (tokens : List Text) :
    Variants.ofTokens (some base) tokens =
      Dimension.all.filterMap fun d => (namedValues? base tokens d).map (d, ·) := by
  rw [Variants.ofTokens]
  refine List.filterMap_congr fun d _ => ?_
  have hhits : ((tokens.filterMap fun t => (Category.ofToken base t).variant?).filter (·.1 = d)).map
      (·.2) = tokens.filterMap (namedValue? base d) := by
    rw [List.filter_filterMap, List.map_filterMap]
    rfl
  simp only [namedValues?, ← hhits]
  cases (tokens.filterMap fun t => (Category.ofToken base t).variant?).filter (·.1 = d) <;> rfl

theorem get?_ofTokens (htokens : ∀ t ∈ tokens, '\n' ∉ t) :
    (Variants.ofTokens (some base) tokens).get? d = namedValues? base tokens d := by
  rw [ofTokens_eq_filterMap, Variants.get?, lookup_filterMap]
  split
  · rfl
  · next hd =>
    have hnone : tokens.filterMap (namedValue? base d) = [] := by
      refine List.eq_nil_iff_forall_not_mem.2 fun v hv => ?_
      exact hd (mem_all_of_mem_vocabulary ((mem_filterMap_namedValue? htokens).1 hv).1)
    rw [namedValues?, hnone]

theorem values_ofTokens (htokens : ∀ t ∈ tokens, '\n' ∉ t) :
    (Variants.ofTokens (some base) tokens).values d =
      unique (tokens.filterMap (namedValue? base d)) := by
  rw [Variants.values, get?_ofTokens htokens, namedValues?]
  cases tokens.filterMap (namedValue? base d) <;> rfl

theorem get?_ofTokens_eq_none_iff (htokens : ∀ t ∈ tokens, '\n' ∉ t) :
    (Variants.ofTokens (some base) tokens).get? d = none ↔
      (Variants.ofTokens (some base) tokens).values d = [] := by
  rw [Variants.values, get?_ofTokens htokens, namedValues?]
  cases tokens.filterMap (namedValue? base d) <;> simp [unique]

end Values

/-- Dimensions are listed in their fixed order. -/
theorem sublist_keys_ofTokens (base : Option Text) (tokens : List Text) :
    ((Variants.ofTokens base tokens).map (·.1)).Sublist Dimension.all := by
  cases base with
  | none => exact List.nil_sublist _
  | some base =>
    have hkeys : (Variants.ofTokens (some base) tokens).map (·.1) =
        Dimension.all.filterMap fun d => (namedValues? base tokens d).map fun _ => d := by
      rw [ofTokens_eq_filterMap, List.map_filterMap]
      simp only [Option.map_map, Function.comp_def]
    have hfilter : (Dimension.all.filterMap fun d => (namedValues? base tokens d).map fun _ => d) =
        Dimension.all.filter fun d => (namedValues? base tokens d).isSome := by
      rw [← List.filterMap_eq_filter]
      refine List.filterMap_congr fun d _ => ?_
      cases h : namedValues? base tokens d <;> simp [Option.guard, h]
    rw [hkeys, hfilter]
    exact List.filter_sublist

/-! ### Pages -/

/-- The values are those words of the dimension whose class the walk meets, each once, in the order
in which it first meets them. -/
structure ListsMet (base : Text) (walk : List Text) (d : Dimension) (values : List Text) : Prop where
  mem_iff : ∀ v, v ∈ values ↔ v ∈ d.vocabulary ∧ variantClass base v ∈ walk
  nodup : values.Nodup
  ordered : values.Pairwise fun v w =>
    walk.idxOf (variantClass base v) < walk.idxOf (variantClass base w)

theorem listsMet_values {base : Text} {walk : List Text} (hwalk : ∀ t ∈ walk, '\n' ∉ t) (d : Dimension) :
    ListsMet base walk d ((Variants.ofTokens (some base) (unique walk)).values d) := by
  have htokens : ∀ t ∈ unique walk, '\n' ∉ t := fun t ht => hwalk t (mem_unique.1 ht)
  have hordered := pairwise_filterMap_namedValue? base d hwalk
  have hnodup : ((unique walk).filterMap (namedValue? base d)).Nodup :=
    hordered.imp fun hlt he => absurd (he ▸ hlt) (Nat.lt_irrefl _)
  rw [values_ofTokens htokens, unique_eq_self hnodup]
  refine ⟨fun v => ?_, hnodup, hordered⟩
  rw [mem_filterMap_namedValue? htokens, mem_unique]

theorem isBlank_of_mem_walkTokens {ns : List Node} {t : Text} (h : t ∈ walkTokens ns) {c : Char}
    (hc : c ∈ t) : isBlank c = false := by
  obtain ⟨n, -, ht⟩ := List.mem_flatMap.1 h
  cases n with
  | element name attrs children => exact isBlank_of_mem_words ht hc
  | _ => exact absurd ht List.not_mem_nil

theorem lineFeed_not_mem_of_mem_walkTokens {ns : List Node} {t : Text} (h : t ∈ walkTokens ns) :
    '\n' ∉ t := fun hin => absurd (isBlank_of_mem_walkTokens h hin) (by decide)

theorem mem_of_firstMax {α : Type} {f : α → Int} {xs : List α} {x : α} (h : firstMax f xs = some x) :
    x ∈ xs := by
  induction xs generalizing x with
  | nil => exact absurd h (by simp [firstMax])
  | cons y ys ih =>
    rw [firstMax] at h
    split at h
    · simp_all
    · next z hz =>
      split at h
      · exact Option.some.inj h ▸ List.mem_cons_of_mem y (ih hz)
      · exact Option.some.inj h ▸ List.mem_cons_self

theorem exists_firstMax {α : Type} (f : α → Int) {xs : List α} (h : xs ≠ []) :
    ∃ x ∈ xs, firstMax f xs = some x := by
  cases hmax : firstMax f xs with
  | some x => exact ⟨x, mem_of_firstMax hmax, rfl⟩
  | none =>
    cases xs with
    | nil => exact absurd rfl h
    | cons x xs =>
      rw [firstMax] at hmax
      split at hmax
      · exact absurd hmax (by simp)
      · split at hmax <;> exact absurd hmax (by simp)

/-- The default size is one of the documented ones. -/
theorem exists_default_size {vs : Variants} {values : List Text} (hvalues : vs.get? .size = some values)
    (hne : values ≠ []) (count : Dimension × Text → Int) :
    ∃ v ∈ values, vs.default .size count = some v := by
  simp only [Variants.default, hvalues]
  split
  · next hmd => exact ⟨"md", hmd, rfl⟩
  · exact exists_firstMax _ hne

theorem default_eq_none (vs : Variants) {d : Dimension} (hd : d ≠ .size) (count : Dimension × Text → Int) :
    vs.default d count = none := by
  unfold Variants.default
  cases d with
  | size => exact absurd rfl hd
  | _ => cases vs.get? _ <;> rfl

theorem exists_stem_of_baseClass? {tokens : List Text} {base : Text} (h : baseClass? tokens = some base) :
    ∃ t ∈ tokens, stem t = base := by
  simpa using mem_unique.1 (mem_of_firstMax h)

theorem lookup_map_fst (vs : Variants) (f : Dimension → Option Text) (d : Dimension) :
    (vs.map fun v => (v.1, f v.1)).lookup d = (vs.lookup d).map fun _ => f d := by
  induction vs with
  | nil => rfl
  | cons v vs ih =>
    obtain ⟨e, values⟩ := v
    by_cases hd : d = e
    · simp [hd]
    · simp [List.lookup_cons, beq_eq_false_iff_ne.2 hd, ih]

section Page
variable {base b : Text} {page : Page} {d : Dimension}

theorem isBlank_of_mem_baseClass (hb : (Spec.ofPage base page).baseClass = some b) {c : Char} (hc : c ∈ b) :
    isBlank c = false := by
  obtain ⟨t, ht, rfl⟩ := exists_stem_of_baseClass? hb
  rw [allClasses_eq_unique_walkTokens, mem_unique] at ht
  exact isBlank_of_mem_walkTokens ht ((List.takeWhile_prefix _).subset hc)

/-- The base class is text of one line. -/
theorem lineFeed_not_mem_baseClass (hb : (Spec.ofPage base page).baseClass = some b) : '\n' ∉ b :=
  fun hin => absurd (isBlank_of_mem_baseClass hb hin) (by decide)

theorem variants_ofPage (hb : (Spec.ofPage base page).baseClass = some b) :
    (Spec.ofPage base page).variants =
      Variants.ofTokens (some b) (unique (walkTokens (Spec.pageNodes page))) := by
  rw [← allClasses_eq_unique_walkTokens, ← hb]
  rfl

theorem listsMet_ofPage (hb : (Spec.ofPage base page).baseClass = some b) (d : Dimension) :
    ListsMet b (walkTokens (Spec.pageNodes page)) d ((Spec.ofPage base page).variants.values d) := by
  rw [variants_ofPage hb]
  exact listsMet_values (fun t ht => lineFeed_not_mem_of_mem_walkTokens ht) d

/-- A dimension is absent just if no value of it is documented. -/
theorem get?_ofPage_eq_none_iff (hb : (Spec.ofPage base page).baseClass = some b) :
    (Spec.ofPage base page).variants.get? d = none ↔ (Spec.ofPage base page).variants.values d = [] := by
  rw [variants_ofPage hb]
  exact get?_ofTokens_eq_none_iff fun t ht => lineFeed_not_mem_of_mem_walkTokens (mem_unique.1 ht)

/-- The default that the page chooses for a documented dimension, by how often its values are seen. -/
theorem lookup_defaults_ofPage (base : Text) (page : Page) (d : Dimension) :
    ∃ count, (Spec.ofPage base page).defaults.lookup d =
      ((Spec.ofPage base page).variants.get? d).map fun _ =>
        (Spec.ofPage base page).variants.default d count := by
  let count (dv : Dimension × Text) : Int :=
    Int.ofNat ((sightings (Spec.ofPage base page).baseClass (Spec.pageNodes page)).count dv)
  exact ⟨count, lookup_map_fst (Spec.ofPage base page).variants
    (fun e => (Spec.ofPage base page).variants.default e count) d⟩

theorem exists_baseClass_of_mem_dimensions (hd : d ∈ (Spec.ofPage base page).dimensions) :
    ∃ b, (Spec.ofPage base page).baseClass = some b := by
  cases hb : (Spec.ofPage base page).baseClass with
  | some b => exact ⟨b, rfl⟩
  | none =>
    have hnone : (Spec.ofPage base page).variants = [] := by
      have hvariants : (Spec.ofPage base page).variants =
          Variants.ofTokens (Spec.ofPage base page).baseClass (allClasses (Spec.pageNodes page)) := rfl
      rw [hvariants, hb]
      rfl
    have hsome := (List.mem_filter.1 hd).2
    rw [hnone] at hsome
    exact absurd hsome (by simp [Variants.get?])

end Page

end Componentry.Component
