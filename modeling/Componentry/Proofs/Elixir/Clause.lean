import Componentry.Elixir.Component
import Componentry.Proofs.Component.Variants
import Componentry.Proofs.Text.Join
import Componentry.Proofs.Text.Lines
import Componentry.Proofs.Text.Span
import Componentry.Proofs.Text.Split
import Mathlib.Data.List.Nodup

/-!
The helper functions of a module read back, clause by clause: which atom each clause takes and
which class it returns.
-/
namespace Componentry.Elixir
open Componentry.Component Componentry.Document Componentry.Text

/-! ### Reading a clause -/

/-- An atom, where `nil` is no value. -/
def atom? (s : Text) : Option (Option Text) :=
  if s = ("nil" : Text) then some none else (after? [':'] s).map some

/-- What stands between the quotes of a literal. -/
def literal? (s : Text) : Option Text :=
  match after? ['"'] s with
  | some inside => if inside.getLast? = some '"' then some inside.dropLast else none
  | none => none

/-- What a clause returns: nothing, or the class in its literal. -/
def result? (s : Text) : Option (Option Text) :=
  if s = ("nil" : Text) then some none else (literal? s).map some

structure Clause where
  function : Text
  argument : Option Text
  result : Option Text
  deriving DecidableEq

/-- One line that defines a function at one atom. -/
def Clause.ofLine? (line : Text) : Option Clause := do
  let s ← after? "defp " line
  let (function, s) ← cut? '(' s
  let (argument, s) ← cut? ')' s
  let s ← after? ", do: " s
  return ⟨function, ← atom? argument, ← result? s⟩

/-- The clauses among the lines of a text. -/
def clauses (code : Text) : List Clause := (splitOn '\n' code).filterMap Clause.ofLine?

theorem atom?_atomLiteral (v : Option Text) : atom? (atomLiteral v) = some v := by
  cases v with
  | none => rfl
  | some v => rfl

theorem literal?_quoted (s : Text) : literal? ('"' :: s ++ ['"']) = some s := by
  simp [literal?, after?]

theorem ofLine?_eq {function argument : Text} (hf : '(' ∉ function) (ha : ')' ∉ argument) (body : Text) :
    Clause.ofLine? ("defp " ++ (function ++ '(' :: (argument ++ ')' :: (", do: " ++ body)))) =
      (atom? argument).bind fun a => (result? body).map fun r => ⟨function, a, r⟩ := by
  simp only [Clause.ofLine?, after?_append, cut?_append hf, cut?_append ha, bind, Option.bind]
  cases atom? argument <;> cases result? body <;> rfl

/-! ### The lines of a helper -/

section Helper
variable {spec : Spec} {d : Dimension} {b v : Text}

theorem isLower_of_mem_vocabulary : ∀ d ∈ Dimension.all, ∀ v ∈ d.vocabulary, v.all isLower = true := by
  decide

theorem not_mem_of_mem_vocabulary {c : Char} (hc : isLower c = false) (hv : v ∈ d.vocabulary) : c ∉ v := by
  intro hin
  have hlow := List.all_eq_true.1 (isLower_of_mem_vocabulary d (mem_all_of_mem_vocabulary hv) v hv) c hin
  exact absurd hlow (by simp [hc])

theorem not_mem_helperName :
    ∀ d ∈ Dimension.all, '(' ∉ helperName d ∧ '\n' ∉ helperName d := by decide

theorem any_isLineBreak_helperName : ∀ d ∈ Dimension.all, (helperName d).any isLineBreak = false := by decide

theorem any_isLineBreak_of_mem_vocabulary :
    ∀ d ∈ Dimension.all, ∀ v ∈ d.vocabulary, v.any isLineBreak = false := by decide

/-- The clause that leaves an attribute without a value. -/
def nilClause (d : Dimension) : Text := "defp " ++ helperName d ++ "(nil), do: nil"

theorem ofLine?_nilClause :
    ∀ d ∈ Dimension.all, Clause.ofLine? (nilClause d) = some ⟨helperName d, none, none⟩ := by
  decide

theorem lineFeed_not_mem_nilClause : ∀ d ∈ Dimension.all, '\n' ∉ nilClause d := by
  decide

theorem ofLine?_helperClause (hb : spec.baseClass = some b) (hv : v ∈ d.vocabulary) :
    Clause.ofLine? (helperClause spec d v) = some ⟨helperName d, some v, some (variantClass b v)⟩ := by
  have hd := mem_all_of_mem_vocabulary hv
  have hvalue : ')' ∉ v := not_mem_of_mem_vocabulary rfl hv
  have hparen : ')' ∉ atomLiteral (some v) := by simpa [atomLiteral] using hvalue
  have hline : helperClause spec d v =
      "defp " ++ (helperName d ++ '(' :: (atomLiteral (some v) ++
        ')' :: (", do: " ++ ('"' :: variantClass b v ++ ['"'])))) := by
    unfold helperClause
    rw [hb]
    simp only [List.append_assoc, List.cons_append, atomLiteral, variantClass]
    rfl
  rw [hline, ofLine?_eq (not_mem_helperName d hd).1 hparen, atom?_atomLiteral, result?,
    if_neg (by simp), literal?_quoted]
  rfl

/-- A clause cuts lines only where the base class does. -/
theorem mem_or_of_mem_helperClause (hb : spec.baseClass = some b) (hv : v ∈ d.vocabulary) {c : Char}
    (hc : c ∈ helperClause spec d v) : c ∈ b ∨ isLineBreak c = false := by
  have hname := any_isLineBreak_helperName d (mem_all_of_mem_vocabulary hv)
  have hvalue := any_isLineBreak_of_mem_vocabulary d (mem_all_of_mem_vocabulary hv) v hv
  have hword : ("defp " : Text).any isLineBreak = false := by decide
  have hopen : ("(:" : Text).any isLineBreak = false := by decide
  have hdo : ("), do: \"" : Text).any isLineBreak = false := by decide
  have hhyphen : ("-" : Text).any isLineBreak = false := by decide
  have hquote : ("\"" : Text).any isLineBreak = false := by decide
  unfold helperClause at hc
  simp only [baseText, hb, Option.getD_some, List.mem_append] at hc
  obtain (((((((hc | hc) | hc) | hc) | hc) | hc) | hc) | hc) | hc := hc
  · exact .inr (isLineBreak_of_mem hword hc)
  · exact .inr (isLineBreak_of_mem hname hc)
  · exact .inr (isLineBreak_of_mem hopen hc)
  · exact .inr (isLineBreak_of_mem hvalue hc)
  · exact .inr (isLineBreak_of_mem hdo hc)
  · exact .inl hc
  · exact .inr (isLineBreak_of_mem hhyphen hc)
  · exact .inr (isLineBreak_of_mem hvalue hc)
  · exact .inr (isLineBreak_of_mem hquote hc)

theorem lineFeed_not_mem_helperClause (hb : spec.baseClass = some b) (hlf : '\n' ∉ b)
    (hv : v ∈ d.vocabulary) : '\n' ∉ helperClause spec d v := by
  intro hin
  obtain hin | hbreak := mem_or_of_mem_helperClause hb hv hin
  · exact hlf hin
  · exact absurd hbreak (by decide)

/-! ### Declared values -/

theorem some_mem_declaredValues :
    some v ∈ declaredValues spec d ↔ v ∈ spec.variants.values d ∨ headValue d = some v := by
  rw [declaredValues, List.mem_cons, List.mem_filter, List.mem_map]
  constructor
  · intro h
    obtain hhead | ⟨⟨w, hw, hvw⟩, -⟩ := h
    · exact .inr hhead.symm
    · exact .inl (Option.some.inj hvw ▸ hw)
  · intro h
    by_cases hhead : headValue d = some v
    · exact .inl hhead.symm
    · exact .inr ⟨⟨v, h.resolve_right hhead, rfl⟩, decide_eq_true (Ne.symm hhead)⟩

theorem nodup_declaredValues (h : (spec.variants.values d).Nodup) : (declaredValues spec d).Nodup := by
  refine List.nodup_cons.2 ⟨by simp, List.Nodup.filter _ ?_⟩
  exact h.map fun _ _ => Option.some.inj

theorem eq_of_headValue (h : headValue d = some v) : d = .size ∧ v = "md" := by
  cases d with
  | size => exact ⟨rfl, (Option.some.inj h).symm⟩
  | _ => exact absurd h (by simp [headValue])

theorem headValue_mem_vocabulary (h : headValue d = some v) : v ∈ d.vocabulary := by
  obtain ⟨rfl, rfl⟩ := eq_of_headValue h
  decide

/-- A clause without a value, and one for each declared value. -/
def helperClauses (b : Text) (spec : Spec) (d : Dimension) : List Clause :=
  (none :: (declaredValues spec d).filter Option.isSome).map fun v =>
    ⟨helperName d, v, v.map (variantClass b)⟩

theorem helperClauses_eq (b : Text) (spec : Spec) (d : Dimension) :
    helperClauses b spec d = ⟨helperName d, none, none⟩ ::
      ((declaredValues spec d).filterMap id).map fun v => ⟨helperName d, some v, some (variantClass b v)⟩ := by
  rw [helperClauses, List.map_cons]
  congr 1
  induction declaredValues spec d with
  | nil => rfl
  | cons v vs ih => cases v <;> simp [ih]

/-- Every line of a helper is one of its clauses. -/
theorem map_ofLine?_helper (hb : spec.baseClass = some b) (hlf : '\n' ∉ b) (hd : d ∈ Dimension.all)
    (hvalues : ∀ v, some v ∈ declaredValues spec d → v ∈ d.vocabulary) :
    (splitOn '\n' (helper spec d)).map Clause.ofLine? = (helperClauses b spec d).map some := by
  have hmem {v : Text} (hv : v ∈ (declaredValues spec d).filterMap id) : v ∈ d.vocabulary :=
    hvalues v (by simpa using hv)
  have hlines : splitOn '\n' (helper spec d) =
      nilClause d :: ((declaredValues spec d).filterMap id).map (helperClause spec d) := by
    rw [helper, unlines]
    refine splitOn_joinWith (by simp) fun l hl => ?_
    obtain rfl | hl := List.mem_cons.1 hl
    · exact lineFeed_not_mem_nilClause d hd
    · obtain ⟨v, hv, rfl⟩ := List.mem_map.1 hl
      exact lineFeed_not_mem_helperClause hb hlf (hmem hv)
  rw [hlines, helperClauses_eq, List.map_cons, List.map_cons, ofLine?_nilClause d hd, List.map_map,
    List.map_map]
  congr 1
  exact List.map_congr_left fun v hv => ofLine?_helperClause hb (hmem hv)

end Helper

/-! ### All helpers of a page's component -/

theorem clauses_append (s t : Text) : clauses (s ++ '\n' :: t) = clauses s ++ clauses t := by
  rw [clauses, splitOn_append, List.filterMap_append]
  rfl

theorem clauses_joinWith (ss : List Text) : clauses (joinWith "\n\n" ss) = ss.flatMap clauses := by
  induction ss with
  | nil => rfl
  | cons s ss ih =>
    by_cases hss : ss = []
    · subst hss
      simp [joinWith]
    · have hempty (t : Text) : clauses ('\n' :: t) = clauses t := clauses_append [] t
      rw [joinWith_cons s hss, List.flatMap_cons, ← ih]
      exact (clauses_append s _).trans (congrArg _ (hempty _))

section Page
variable {base b v : Text} {page : Page} {d : Dimension}

theorem mem_vocabulary_of_mem_declaredValues (hb : (Spec.ofPage base page).baseClass = some b)
    (h : some v ∈ declaredValues (Spec.ofPage base page) d) : v ∈ d.vocabulary := by
  obtain hv | hv := some_mem_declaredValues.1 h
  · exact (((listsMet_ofPage hb d).mem_iff v).1 hv).1
  · exact headValue_mem_vocabulary hv

theorem map_ofLine?_helper_ofPage (hb : (Spec.ofPage base page).baseClass = some b)
    (hd : d ∈ Dimension.all) :
    (splitOn '\n' (helper (Spec.ofPage base page) d)).map Clause.ofLine? =
      (helperClauses b (Spec.ofPage base page) d).map some :=
  map_ofLine?_helper hb (lineFeed_not_mem_baseClass hb) hd fun _ hv =>
    mem_vocabulary_of_mem_declaredValues hb hv

theorem clauses_helper (hb : (Spec.ofPage base page).baseClass = some b) (hd : d ∈ Dimension.all) :
    clauses (helper (Spec.ofPage base page) d) = helperClauses b (Spec.ofPage base page) d := by
  have hmap := congrArg (List.filterMap id) (map_ofLine?_helper_ofPage hb hd)
  rwa [List.filterMap_map, List.filterMap_map, Function.id_comp, Function.id_comp, List.filterMap_some]
    at hmap

def helpersHeading : Text := "# Helper functions for class composition"

theorem helpers_eq_joinWith {spec : Spec} (h : spec.dimensions ≠ []) :
    helpers spec = joinWith "\n\n" (helpersHeading :: spec.dimensions.map (helper spec)) := by
  have hheading : ("# Helper functions for class composition\n\n" : Text) = helpersHeading ++ "\n\n" := by
    decide
  rw [helpers, if_neg h, hheading, joinWith_cons _ (by simpa using h), List.append_assoc]

theorem clauses_helpers (hb : (Spec.ofPage base page).baseClass = some b) :
    clauses (helpers (Spec.ofPage base page)) =
      (Spec.ofPage base page).dimensions.flatMap (helperClauses b (Spec.ofPage base page)) := by
  by_cases hnone : (Spec.ofPage base page).dimensions = []
  · rw [helpers, if_pos hnone, hnone]
    rfl
  · have hheading : clauses helpersHeading = [] := by decide
    rw [helpers_eq_joinWith hnone, clauses_joinWith, List.flatMap_cons, hheading, List.nil_append,
      List.flatMap_map]
    refine List.flatMap_congr fun d hd => ?_
    exact clauses_helper hb (List.mem_filter.1 hd).1

/-- The classes that the helpers return. -/
theorem exists_result_iff (hb : (Spec.ofPage base page).baseClass = some b) {t : Text} :
    (∃ c ∈ clauses (helpers (Spec.ofPage base page)), c.result = some t) ↔
      ∃ d ∈ (Spec.ofPage base page).dimensions, ∃ v,
        some v ∈ declaredValues (Spec.ofPage base page) d ∧ t = variantClass b v := by
  rw [clauses_helpers hb]
  constructor
  · intro h
    obtain ⟨c, hc, ht⟩ := h
    obtain ⟨d, hd, hc⟩ := List.mem_flatMap.1 hc
    rw [helperClauses_eq] at hc
    obtain rfl | hc := List.mem_cons.1 hc
    · exact absurd ht (by simp)
    · obtain ⟨v, hv, rfl⟩ := List.mem_map.1 hc
      exact ⟨d, hd, v, by simpa using hv, (Option.some.inj ht).symm⟩
  · intro h
    obtain ⟨d, hd, v, hv, rfl⟩ := h
    refine ⟨⟨helperName d, some v, some (variantClass b v)⟩, List.mem_flatMap.2 ⟨d, hd, ?_⟩, rfl⟩
    rw [helperClauses_eq]
    exact List.mem_cons_of_mem _ (List.mem_map_of_mem (by simpa using hv))

/-- A page without class tokens documents nothing. -/
theorem variants_eq_nil (h : walkTokens (Spec.pageNodes page) = []) :
    (Spec.ofPage base page).variants = [] := by
  have hvariants : (Spec.ofPage base page).variants =
      Variants.ofTokens (baseClass? (allClasses (Spec.pageNodes page))) (allClasses (Spec.pageNodes page)) := rfl
  rw [hvariants, allClasses_eq_unique_walkTokens, h]
  rfl

theorem mem_dimensions_iff (hb : (Spec.ofPage base page).baseClass = some b) :
    d ∈ (Spec.ofPage base page).dimensions ↔
      ∃ v ∈ d.vocabulary, variantClass b v ∈ walkTokens (Spec.pageNodes page) := by
  have hlists := listsMet_ofPage hb d
  have hnone := get?_ofPage_eq_none_iff (d := d) hb
  constructor
  · intro h
    have hsome := Option.isSome_iff_ne_none.1 (List.mem_filter.1 h).2
    obtain ⟨v, hv⟩ := List.exists_mem_of_ne_nil _ (mt hnone.2 hsome)
    exact ⟨v, (hlists.mem_iff v).1 hv⟩
  · intro h
    obtain ⟨v, hv⟩ := h
    refine List.mem_filter.2 ⟨mem_all_of_mem_vocabulary hv.1, Option.isSome_iff_ne_none.2 fun hno => ?_⟩
    exact List.ne_nil_of_mem ((hlists.mem_iff v).2 hv) (hnone.1 hno)

end Page

/-- What a page documents of its component is what the walk over the page meets, and the helpers
return just that, besides the middle size where there are sizes. -/
theorem variants_documented (base : Text) (page : Page) :
    let spec := Spec.ofPage base page
    let walk := walkTokens (Spec.pageNodes page)
    (∀ b, spec.baseClass = some b →
      (∀ d, ListsMet b walk d (spec.variants.values d)) ∧
      (∀ d, spec.variants.get? d = none ↔ ∀ v ∈ d.vocabulary, variantClass b v ∉ walk) ∧
      (spec.variants.map (·.1)).Sublist Dimension.all ∧
      (∀ d e v w, v ∈ spec.variants.values d → w ∈ spec.variants.values e →
        variantClass b v = variantClass b w → d = e) ∧
      ∀ t, (∃ c ∈ clauses (helpers spec), c.result = some t) ↔
        (∃ d, ∃ v ∈ Dimension.vocabulary d, t = variantClass b v ∧ t ∈ walk) ∨
          t = variantClass b "md" ∧ ∃ v ∈ Dimension.size.vocabulary, variantClass b v ∈ walk) ∧
    (walk = [] → spec.variants = []) := by
  intro spec walk
  refine ⟨fun b hb => ⟨listsMet_ofPage hb, fun d => ?_, sublist_keys_ofTokens _ _,
    fun d e v w hv hw heq => ?_, fun t => ?_⟩, variants_eq_nil⟩
  · rw [get?_ofPage_eq_none_iff hb, List.eq_nil_iff_forall_not_mem]
    simp only [(listsMet_ofPage hb d).mem_iff, not_and, walk]
  · have hvd := ((listsMet_ofPage hb d).mem_iff v).1 hv
    have hwe := ((listsMet_ofPage hb e).mem_iff w).1 hw
    exact eq_of_mem_vocabulary hvd.1 (variantClass_inj heq ▸ hwe.1)
  · rw [exists_result_iff hb]
    constructor
    · intro h
      obtain ⟨d, hd, v, hv, rfl⟩ := h
      obtain hv | hhead := some_mem_declaredValues.1 hv
      · have hmet := ((listsMet_ofPage hb d).mem_iff v).1 hv
        exact .inl ⟨d, v, hmet.1, rfl, hmet.2⟩
      · obtain ⟨rfl, rfl⟩ := eq_of_headValue hhead
        exact .inr ⟨rfl, (mem_dimensions_iff hb).1 hd⟩
    · intro h
      obtain ⟨d, v, hv, rfl, hmet⟩ | ⟨rfl, hsize⟩ := h
      · have hvalue := ((listsMet_ofPage hb d).mem_iff v).2 ⟨hv, hmet⟩
        exact ⟨d, (mem_dimensions_iff hb).2 ⟨v, hv, hmet⟩, v, some_mem_declaredValues.2 (.inl hvalue), rfl⟩
      · exact ⟨.size, (mem_dimensions_iff hb).2 hsize, "md", some_mem_declaredValues.2 (.inr rfl), rfl⟩

/-- Two sizes of a button, of which neither is the middle one. -/
def buttonPage : Page :=
  ⟨"docs/button/+page.md", [⟨"Sizes", [
    .element "button" [("class", "btn btn-lg")] [.text "Large"],
    .element "div" [("class", "join")] [
      .element "button" [("class", "btn btn-xs btn-lg")] [.text "Tiny"]]]⟩]⟩

theorem variants_documented_sizes :
    let spec := Spec.ofPage defaultNamespace buttonPage
    spec.baseClass = some ("btn" : Text) ∧
      ListsMet "btn" (walkTokens (Spec.pageNodes buttonPage)) .size ["lg", "xs"] := by
  intro spec
  have hbase : spec.baseClass = some ("btn" : Text) := by decide
  have hvalues : spec.variants.values .size = (["lg", "xs"] : List Text) := by decide
  have hlists := ((variants_documented defaultNamespace buttonPage).1 "btn" hbase).1 .size
  exact ⟨hbase, hvalues ▸ hlists⟩

end Componentry.Elixir
