import Componentry.Proofs.Elixir.Declaration
import Componentry.Proofs.Elixir.ExampleFunction

/-!
The names of the functions in a module. Helpers keep apart from each other and from the examples;
what may clash is told by the slugs of the examples and the file name of the component.
-/
namespace Componentry.Elixir
open Componentry.Component Componentry.Document Componentry.Markup Componentry.Text

/-- The component's function, the helper of each dimension, and the examples. -/
def functionNames (spec : Spec) : List Text :=
  fileName spec.name :: (spec.dimensions.map helperName ++
    (spec.examples.flatMap exampleFunctions).map ExampleFunction.name)

theorem ExampleFunction.name_eq_iff {f g : ExampleFunction} : f.name = g.name ↔ f.slug = g.slug :=
  ⟨List.append_cancel_right, fun h => by rw [name, name, h]⟩

theorem helperName_inj {d e : Dimension} (hd : d ∈ Dimension.all) (he : e ∈ Dimension.all)
    (h : helperName d = helperName e) : d = e :=
  attrName_inj d hd e he (List.append_cancel_right h)

/-- A helper's name does not end like that of an example. -/
theorem helperName_ne_name (d : Dimension) (f : ExampleFunction) : helperName d ≠ f.name := by
  have hhelper : (helperName d).getLast? = some 's' := by
    rw [helperName, List.getLast?_append]
    rfl
  have hexample : f.name.getLast? = some 'e' := by
    rw [ExampleFunction.name, List.getLast?_append]
    rfl
  intro h
  rw [h, hexample] at hhelper
  exact absurd hhelper (by decide)

section Spec
variable {spec : Spec}

theorem nodup_map_helperName : (spec.dimensions.map helperName).Nodup := by
  have hnodup : spec.dimensions.Nodup := List.Nodup.filter _ (by decide : Dimension.all.Nodup)
  refine (List.nodup_map_iff_inj_on hnodup).2 fun d hd e he h => ?_
  exact helperName_inj (List.mem_filter.1 hd).1 (List.mem_filter.1 he).1 h

theorem nodup_map_name_iff {fs : List ExampleFunction} :
    (fs.map ExampleFunction.name).Nodup ↔ (fs.map ExampleFunction.slug).Nodup := by
  have hne (f g : ExampleFunction) : f.name ≠ g.name ↔ f.slug ≠ g.slug :=
    not_congr ExampleFunction.name_eq_iff
  exact List.pairwise_map.trans ((List.Pairwise.iff hne).trans List.pairwise_map.symm)

/-- Function names differ just if the slugs do and the component's name is taken by none. -/
theorem nodup_functionNames :
    (functionNames spec).Nodup ↔
      ((spec.examples.flatMap exampleFunctions).map ExampleFunction.slug).Nodup ∧
        fileName spec.name ∉ spec.dimensions.map helperName ∧
        fileName spec.name ∉ (spec.examples.flatMap exampleFunctions).map ExampleFunction.name := by
  have hapart : ∀ s ∈ spec.dimensions.map helperName,
      ∀ t ∈ (spec.examples.flatMap exampleFunctions).map ExampleFunction.name, s ≠ t := by
    intro s hs t ht
    obtain ⟨d, -, rfl⟩ := List.mem_map.1 hs
    obtain ⟨f, -, rfl⟩ := List.mem_map.1 ht
    exact helperName_ne_name d f
  rw [functionNames, List.nodup_cons, List.nodup_append, List.mem_append, not_or, nodup_map_name_iff]
  constructor
  · intro h
    exact ⟨h.2.2.1, h.1⟩
  · intro h
    exact ⟨h.2, nodup_map_helperName, h.1, hapart⟩

end Spec

/-- An example that splits gives each of its elements, in their order, a function of its own. -/
theorem nodes_exampleFunctions {e : Example} (h : splits e.nodes = true) :
    (exampleFunctions e).map ExampleFunction.nodes =
      (e.nodes.filter fun n => n.name?.isSome).map fun n => [n] := by
  rw [exampleFunctions, if_pos h, List.map_filterMap]
  induction e.nodes with
  | nil => rfl
  | cons n ns ih =>
    rw [List.filterMap_cons, List.filter_cons, ih]
    cases n <;> rfl

/-- The functions that the helper clauses define. -/
theorem exists_function_iff {base : Text} {page : Page} {name : Text} :
    (∃ c ∈ clauses (helpers (Spec.ofPage base page)), c.function = name) ↔
      name ∈ (Spec.ofPage base page).dimensions.map helperName := by
  by_cases hnone : (Spec.ofPage base page).dimensions = []
  · rw [helpers, if_pos hnone, hnone]
    simp [clauses, splitOn, Clause.ofLine?, after?]
  · obtain ⟨d, hd⟩ := List.exists_mem_of_ne_nil _ hnone
    obtain ⟨b, hb⟩ := exists_baseClass_of_mem_dimensions hd
    rw [clauses_helpers hb]
    constructor
    · intro h
      obtain ⟨c, hc, rfl⟩ := h
      obtain ⟨e, he, hc⟩ := List.mem_flatMap.1 hc
      obtain ⟨v, -, rfl⟩ := List.mem_map.1 hc
      exact List.mem_map_of_mem he
    · intro h
      obtain ⟨e, he, rfl⟩ := List.mem_map.1 h
      refine ⟨⟨helperName e, none, none⟩, List.mem_flatMap.2 ⟨e, he, ?_⟩, rfl⟩
      rw [helperClauses_eq]
      exact List.mem_cons_self

/-- The functions of a module are the component's, those that the helper clauses define and those of
the examples, of which an example that splits has one for each of its elements. Their names differ
just if the slugs of the examples do and the component's name is none of the others. -/
theorem nodup_functionNames_iff (base : Text) (page : Page) :
    let spec := Spec.ofPage base page
    let examples := spec.examples.flatMap exampleFunctions
    ((functionNames spec).Nodup ↔
      (examples.map ExampleFunction.slug).Nodup ∧ fileName spec.name ∉ spec.dimensions.map helperName ∧
        fileName spec.name ∉ examples.map ExampleFunction.name) ∧
    (∀ name, (∃ c ∈ clauses (helpers spec), c.function = name) ↔ name ∈ spec.dimensions.map helperName) ∧
    examplesCode spec.examples = unlines (examples.map ExampleFunction.code) ∧
    ∀ e ∈ spec.examples, splits e.nodes = true →
      (exampleFunctions e).map ExampleFunction.nodes =
        (e.nodes.filter fun n => n.name?.isSome).map fun n => [n] := by
  intro spec examples
  exact ⟨nodup_functionNames, fun _ => exists_function_iff, examplesCode_eq spec.examples,
    fun e _ h => nodes_exampleFunctions h⟩

/-- Two inputs with neither text nor variant. -/
def siblingsPage : Page :=
  ⟨"docs/input/+page.md", [⟨"Inputs", [
    .element "input" [("class", "input"), ("type", "text")] [],
    .element "input" [("class", "input"), ("type", "number")] []]⟩]⟩

/-- Two titles that differ in a word that slugs leave out. -/
def titlesPage : Page :=
  ⟨"docs/button/+page.md", [⟨"Sizes", [.element "p" [] []]⟩, ⟨"Button sizes", [.element "p" [] []]⟩]⟩

/-- A component with the name of a helper. -/
def sizeClassPage : Page :=
  ⟨"docs/size-class/+page.md", [⟨"Large", [.element "button" [("class", "btn btn-lg")] []]⟩]⟩

/-- A component with the name of an example. -/
def basicExamplePage : Page :=
  ⟨"docs/basic-example/+page.md", [⟨"Basic", [.element "p" [] []]⟩]⟩

theorem functionNames_clash :
    ¬ (functionNames (Spec.ofPage defaultNamespace siblingsPage)).Nodup ∧
      ¬ (functionNames (Spec.ofPage defaultNamespace titlesPage)).Nodup ∧
      ¬ (functionNames (Spec.ofPage defaultNamespace sizeClassPage)).Nodup ∧
      ¬ (functionNames (Spec.ofPage defaultNamespace basicExamplePage)).Nodup := by
  decide

end Componentry.Elixir
