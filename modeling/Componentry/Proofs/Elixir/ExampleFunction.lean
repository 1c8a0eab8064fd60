import Componentry.Component.Spec
import Componentry.Elixir.Component
import Componentry.Elixir.Examples
import Componentry.Proofs.Text.Join

/-!
The example functions of a page, one by one: what each is named after, what it shows, and the code
that they come to.
-/
namespace Componentry.Elixir
open Componentry.Component Componentry.Document Componentry.Markup Componentry.Text

/-- An example function by its slug, its documentation and the nodes that it shows. -/
structure ExampleFunction where
  slug : Text
  doc : Text
  nodes : List Node

namespace ExampleFunction

def name (f : ExampleFunction) : Text := f.slug ++ "_example"

/-- What stands between the lines that open and close the template. -/
def body (f : ExampleFunction) : Text := forestToHeex 2 f.nodes

def code (f : ExampleFunction) : Text := exampleFunction f.slug f.doc f.body

/-- The function of an element among siblings of its tag. -/
def ofElement? (title : Text) : Node → Option ExampleFunction
  | .element name attrs children =>
    some ⟨elementSlug attrs children, elementDoc title attrs children, [.element name attrs children]⟩
  | _ => none

theorem code_ofElement? (title : Text) (n : Node) :
    (ofElement? title n).map code = elementExample? title n := by
  cases n with
  | element name attrs children =>
    rw [ofElement?, elementExample?, Option.map_some, code, body, forestToHeex, childrenToHeex_eq_map,
      List.map_singleton, unlines_singleton]
  | text v => rfl
  | comment body => rfl

end ExampleFunction

/-- One function for each element if the example splits, and one for all its nodes otherwise. -/
def exampleFunctions (e : Example) : List ExampleFunction :=
  if splits e.nodes then e.nodes.filterMap (ExampleFunction.ofElement? e.title)
  else [⟨slug e.title, e.title, e.nodes⟩]

theorem filterMap_ofElement?_ne_nil {title : Text} {ns : List Node} (h : splits ns = true) :
    ns.filterMap (ExampleFunction.ofElement? title) ≠ [] := by
  intro hnone
  have hnames : elementNames ns = [] := by
    refine List.filterMap_eq_nil_iff.2 fun n hn => ?_
    have hn := List.filterMap_eq_nil_iff.1 hnone n hn
    cases n with
    | element name attrs children => exact absurd hn (by simp [ExampleFunction.ofElement?])
    | _ => rfl
  rw [splits, hnames] at h
  exact absurd h (by simp)

theorem exampleFunctions_ne_nil (e : Example) : exampleFunctions e ≠ [] := by
  rw [exampleFunctions]
  split
  · next h => exact filterMap_ofElement?_ne_nil h
  · simp

theorem exampleCode_eq (e : Example) :
    exampleCode e = unlines ((exampleFunctions e).map ExampleFunction.code) := by
  rw [exampleCode, exampleFunctions]
  split
  · rw [List.map_filterMap]
    simp only [ExampleFunction.code_ofElement?]
  · rw [List.map_singleton, unlines_singleton, ExampleFunction.code, ExampleFunction.body]

/-- The code of examples is that of their functions, one after the other. -/
theorem examplesCode_eq (es : List Example) :
    examplesCode es = unlines ((es.flatMap exampleFunctions).map ExampleFunction.code) := by
  have hcodes : es.map exampleCode =
      (es.map fun e => (exampleFunctions e).map ExampleFunction.code).map unlines := by
    rw [List.map_map]
    exact List.map_congr_left fun e _ => exampleCode_eq e
  have hne : ∀ ss ∈ es.map fun e => (exampleFunctions e).map ExampleFunction.code, ss ≠ [] := by
    intro ss hss
    obtain ⟨e, -, rfl⟩ := List.mem_map.1 hss
    simpa using exampleFunctions_ne_nil e
  rw [examplesCode, hcodes, List.map_flatMap, List.flatMap_def]
  exact joinWith_map_joinWith hne

end Componentry.Elixir
