import Componentry.Proofs.Component.BaseClass
import Componentry.Proofs.Component.Variants

/-!
How often a variant is seen on a page is how many of its elements bear the variant's class, and the
default size is the one that most of them bear, if the middle one is not documented.
-/
namespace Componentry.Component
open Componentry.Markup Componentry.Text Componentry.Document

/-- How many elements of a forest, at any depth, bear the class. An element that repeats it counts once. -/
def bearers (ns : List Node) (token : Text) : Nat :=
  (forestPreorder ns).countP fun n => decide (token ∈ carried n)

/-! ### Sightings -/

section Sightings
variable {b v : Text} {d : Dimension}

theorem lineFeed_not_mem_of_mem_ownClasses {attrs : Attrs} {t : Text} (h : t ∈ ownClasses attrs) :
    '\n' ∉ t := fun hin => absurd (isBlank_of_mem_words h hin) (by decide)

/-- Tokens that are listed once each name a variant at most once. -/
theorem count_variants {tokens : List Text} (hnodup : tokens.Nodup) (htokens : ∀ t ∈ tokens, '\n' ∉ t) :
    (tokens.filterMap fun t => (Category.ofToken b t).variant?).count (d, v) =
      if v ∈ d.vocabulary ∧ variantClass b v ∈ tokens then 1 else 0 := by
  have hnames : (tokens.filterMap fun t => (Category.ofToken b t).variant?).Nodup := by
    refine List.pairwise_filterMap.2 (hnodup.imp_of_mem fun {t u} ht hu hne => ?_)
    rintro ⟨e, w⟩ hw _ hw' rfl
    have htext := ((variant?_ofToken_iff (htokens t ht)).1 hw).2
    exact hne (htext.trans ((variant?_ofToken_iff (htokens u hu)).1 hw').2.symm)
  have hmem : (d, v) ∈ (tokens.filterMap fun t => (Category.ofToken b t).variant?) ↔
      v ∈ d.vocabulary ∧ variantClass b v ∈ tokens := by
    rw [List.mem_filterMap]
    constructor
    · intro h
      obtain ⟨t, ht, hv⟩ := h
      obtain ⟨hword, rfl⟩ := (variant?_ofToken_iff (htokens t ht)).1 hv
      exact ⟨hword, ht⟩
    · intro h
      exact ⟨_, h.2, (variant?_ofToken_iff (htokens _ h.2)).2 ⟨h.1, rfl⟩⟩
  rw [hnames.count]
  exact if_congr hmem rfl rfl

/-- The variant is one of the vocabulary, and the node bears its class. -/
def bearsVariant (b : Text) (d : Dimension) (v : Text) (n : Node) : Bool :=
  decide (v ∈ d.vocabulary ∧ variantClass b v ∈ carried n)

mutual
theorem count_nodeSightings (n : Node) :
    (nodeSightings b n).count (d, v) = n.preorder.countP (bearsVariant b d v) := by
  cases n with
  | element name attrs children =>
    have hown := count_variants (b := b) (v := v) (d := d) (nodup_unique (ownClasses attrs))
      fun t ht => lineFeed_not_mem_of_mem_ownClasses (mem_unique.1 ht)
    have hchildren := count_forestSightings children
    have hbears : v ∈ d.vocabulary ∧ variantClass b v ∈ unique (ownClasses attrs) ↔
        bearsVariant b d v (.element name attrs children) = true := by
      rw [mem_unique]
      exact decide_eq_true_iff.symm
    rw [nodeSightings, List.count_append, hown, hchildren, Node.preorder, List.countP_cons, Nat.add_comm,
      if_congr hbears rfl rfl]
  | text u => simp [nodeSightings, Node.preorder, bearsVariant, carried]
  | comment body => simp [nodeSightings, Node.preorder, bearsVariant, carried]
theorem count_forestSightings (ns : List Node) :
    (forestSightings b ns).count (d, v) = (forestPreorder ns).countP (bearsVariant b d v) := by
  cases ns with
  | nil => rfl
  | cons n ns =>
    rw [forestSightings, List.count_append, count_nodeSightings n, count_forestSightings ns, forestPreorder,
      List.countP_append]
end

/-- A variant of the vocabulary is seen as often as elements bear its class, any other never. -/
theorem count_sightings (b : Text) (ns : List Node) (d : Dimension) (v : Text) :
    (sightings (some b) ns).count (d, v) =
      if v ∈ d.vocabulary then bearers ns (variantClass b v) else 0 := by
  have hcount : (sightings (some b) ns).count (d, v) = (forestPreorder ns).countP (bearsVariant b d v) :=
    count_forestSightings ns
  rw [hcount]
  split
  · next hv => exact List.countP_congr fun n _ => by simp [bearsVariant, hv]
  · next hv => simp [bearsVariant, hv]

theorem bearers_pos_iff {ns : List Node} {token : Text} : 1 ≤ bearers ns token ↔ token ∈ walkTokens ns := by
  rw [bearers, Nat.one_le_iff_ne_zero, Nat.ne_zero_iff_zero_lt, List.countP_pos_iff, walkTokens,
    List.mem_flatMap]
  simp only [decide_eq_true_eq]

end Sightings

/-! ### The default size -/

/-- The middle size if it is documented; else the documented size that most elements bear, and of several
such sizes the one that the walk meets first. -/
def IsUsualSize (b : Text) (nodes : List Node) (sizes : List Text) (v : Text) : Prop :=
  if ("md" : Text) ∈ sizes then v = "md"
  else v ∈ sizes ∧ ∀ w ∈ sizes,
    bearers nodes (variantClass b w) ≤ bearers nodes (variantClass b v) ∧
    (bearers nodes (variantClass b w) = bearers nodes (variantClass b v) →
      (walkTokens nodes).idxOf (variantClass b v) ≤ (walkTokens nodes).idxOf (variantClass b w))

/-- In a list that is in the order of first places, a place in the list tells the first place. -/
theorem idxOf_le_of_pairwise {vs walk : List Text} {b v w : Text} (hv : v ∈ vs) (hw : w ∈ vs)
    (hordered : vs.Pairwise fun v w => walk.idxOf (variantClass b v) < walk.idxOf (variantClass b w))
    (hle : vs.idxOf v ≤ vs.idxOf w) :
    walk.idxOf (variantClass b v) ≤ walk.idxOf (variantClass b w) := by
  obtain hlt | heq := Nat.lt_or_eq_of_le hle
  · have hpair := List.pairwise_iff_getElem.1 hordered _ _ (List.idxOf_lt_length_iff.2 hv)
      (List.idxOf_lt_length_iff.2 hw) hlt
    rw [List.getElem_idxOf, List.getElem_idxOf] at hpair
    exact Nat.le_of_lt hpair
  · rw [(List.idxOf_inj hv).1 heq]

section Page
variable {base b : Text} {page : Page}

/-- The counts that the default is chosen by are those of the bearers. -/
theorem isUsualSize_of_default (hb : (Spec.ofPage base page).baseClass = some b) {v : Text}
    (h : (Spec.ofPage base page).variants.default .size (fun dv =>
      Int.ofNat ((sightings (some b) (Spec.pageNodes page)).count dv)) = some v) :
    IsUsualSize b (Spec.pageNodes page) ((Spec.ofPage base page).variants.values .size) v := by
  have hmet := listsMet_ofPage hb .size
  cases hsizes : (Spec.ofPage base page).variants.get? .size with
  | none =>
    simp only [Variants.default, hsizes] at h
    exact absurd h (by simp)
  | some sizes =>
    have hvalues : (Spec.ofPage base page).variants.values .size = sizes := by
      rw [Variants.values, hsizes, Option.getD_some]
    have hcount : ∀ w ∈ sizes, (sightings (some b) (Spec.pageNodes page)).count (.size, w) =
        bearers (Spec.pageNodes page) (variantClass b w) := fun w hw => by
      rw [count_sightings, if_pos ((hmet.mem_iff w).1 (hvalues ▸ hw)).1]
    simp only [Variants.default, hsizes] at h
    rw [hvalues] at hmet ⊢
    rw [IsUsualSize]
    split at h
    · next hmd => rw [if_pos hmd, Option.some.inj h]
    · next hmd =>
      rw [if_neg hmd]
      obtain ⟨hv, hmost, hfirst⟩ := firstMax_eq_some_iff.1 h
      simp only [Int.ofNat_eq_natCast, Int.ofNat_le] at hmost hfirst
      refine ⟨hv, fun w hw => ⟨?_, fun hsame => ?_⟩⟩
      · rw [← hcount w hw, ← hcount v hv]
        exact hmost w hw
      · refine idxOf_le_of_pairwise hv hw hmet.ordered (hfirst w hw ?_)
        rw [hcount w hw, hcount v hv, hsame]

/-- Documented sizes are never without a default. -/
theorem exists_default_of_mem (hb : (Spec.ofPage base page).baseClass = some b) {values : List Text}
    (h : (.size, values) ∈ (Spec.ofPage base page).variants) (count : Dimension × Text → Int) :
    ∃ v, (Spec.ofPage base page).variants.default .size count = some v := by
  cases hsizes : (Spec.ofPage base page).variants.get? .size with
  | none => exact absurd (List.lookup_eq_none_iff.1 hsizes _ h) (by simp)
  | some sizes =>
    have hne : sizes ≠ [] := by
      intro hnil
      have hvalues : (Spec.ofPage base page).variants.values .size = [] := by
        rw [Variants.values, hsizes, Option.getD_some, hnil]
      exact absurd (hsizes.symm.trans ((get?_ofPage_eq_none_iff hb).2 hvalues)) (by simp)
    obtain ⟨v, -, hv⟩ := exists_default_size hsizes hne count
    exact ⟨v, hv⟩

/-- Every default is that of its dimension, by the sightings on the page. -/
theorem defaults_ofPage (hb : (Spec.ofPage base page).baseClass = some b) :
    (Spec.ofPage base page).defaults = (Spec.ofPage base page).variants.map fun e =>
      (e.1, (Spec.ofPage base page).variants.default e.1 fun dv =>
        Int.ofNat ((sightings (some b) (Spec.pageNodes page)).count dv)) := by
  rw [← hb]
  rfl

/-- On a page with a base class a value is seen as often as elements bear its class, and it is documented
just if it is seen at all. The dimensions that have a default are the documented ones: that of sizes is the
usual size, and the others have none. -/
theorem defaults_of_bearers (base : Text) (page : Page) {b : Text}
    (hb : (Spec.ofPage base page).baseClass = some b) :
    let spec := Spec.ofPage base page
    let nodes := Spec.pageNodes page
    (∀ d v, (sightings spec.baseClass nodes).count (d, v) =
      if v ∈ d.vocabulary then bearers nodes (variantClass b v) else 0) ∧
    (∀ d v, 1 ≤ (sightings spec.baseClass nodes).count (d, v) ↔ v ∈ spec.variants.values d) ∧
    spec.defaults.map (·.1) = spec.variants.map (·.1) ∧
    ∀ e ∈ spec.defaults,
      if e.1 = .size then ∃ v, e.2 = some v ∧ IsUsualSize b nodes (spec.variants.values .size) v
      else e.2 = none := by
  intro spec nodes
  have hdefaults := defaults_ofPage hb
  refine ⟨fun d v => ?_, fun d v => ?_, ?_, fun e he => ?_⟩
  · rw [hb, count_sightings]
  · rw [hb, count_sightings, (listsMet_ofPage hb d).mem_iff]
    split
    · next hv => simp only [bearers_pos_iff, hv, true_and, nodes]
    · next hv => simp [hv]
  · rw [hdefaults, List.map_map]
    rfl
  · rw [hdefaults] at he
    obtain ⟨⟨d, values⟩, hvalues, rfl⟩ := List.mem_map.1 he
    split
    · next hsize =>
      obtain rfl : d = .size := hsize
      obtain ⟨v, hv⟩ := exists_default_of_mem hb hvalues _
      exact ⟨v, hv, isUsualSize_of_default hb hv⟩
    · next hsize =>
      dsimp only at hsize ⊢
      exact default_eq_none _ hsize _

end Page

/-- Large and small buttons, two of each, one of them repeating its class. -/
def sizedPage : Page :=
  ⟨"docs/button/+page.md", [⟨"Sizes", [
    .element "div" [("class", "join")] [
      .element "button" [("class", "btn btn-lg btn-lg btn-primary")] [.text "Large"],
      .element "button" [("class", "btn btn-sm")] [.text "Small"]]]⟩, ⟨"More sizes", [
    .element "button" [("class", "btn btn-xs btn-sm")] [],
    .element "button" [("class", "btn btn-lg")] [.comment "again"]]⟩]⟩

theorem defaults_of_bearers_sizes :
    let spec := Spec.ofPage defaultNamespace sizedPage
    spec.baseClass = some ("btn" : Text) ∧ bearers (Spec.pageNodes sizedPage) "btn-lg" = 2 ∧
      (sightings spec.baseClass (Spec.pageNodes sizedPage)).count (Dimension.size, ("lg" : Text)) = 2 ∧
      spec.defaults = ([(.size, some "lg"), (.color, none)] : List (Dimension × Option Text)) ∧
      IsUsualSize "btn" (Spec.pageNodes sizedPage) ["lg", "sm", "xs"] "lg" := by
  intro spec
  have hbase : spec.baseClass = some ("btn" : Text) := by decide
  have hbearers : bearers (Spec.pageNodes sizedPage) "btn-lg" = 2 := by decide
  have hdefaults : spec.defaults = ([(.size, some "lg"), (.color, none)] : List (Dimension × Option Text)) := by
    decide
  have hvalues : spec.variants.values .size = (["lg", "sm", "xs"] : List Text) := by decide
  obtain ⟨hcount, -, -, husual⟩ := defaults_of_bearers defaultNamespace sizedPage hbase
  refine ⟨hbase, hbearers, (hcount .size "lg").trans hbearers, hdefaults, ?_⟩
  obtain ⟨v, hv, hsize⟩ := husual (.size, some "lg") (hdefaults ▸ List.mem_cons_self)
  rw [hvalues] at hsize
  exact Option.some.inj hv ▸ hsize

end Componentry.Component
