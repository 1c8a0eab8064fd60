import Componentry.Component.Classes
import Componentry.Component.Dimension
import Componentry.Component.Name
import Componentry.Document.Example

/-!
What a documentation page says about its component: the base class, the variants it documents, and
the defaults chosen among them.
-/
namespace Componentry.Component
open Componentry.Markup Componentry.Document

/-- The values of each dimension that has any documented. -/
abbrev Variants := List (Dimension × List Text)

namespace Variants

def get? (vs : Variants) (d : Dimension) : Option (List Text) := vs.lookup d

def values (vs : Variants) (d : Dimension) : List Text := (vs.get? d).getD []

/-- The tokens that name variants of the base class, by dimension. -/
def ofTokens (base : Option Text) (tokens : List Text) : Variants :=
  match base with
  | none => []
  | some base =>
    let found := tokens.filterMap fun t => (Category.ofToken base t).variant?
    Dimension.all.filterMap fun d =>
      match found.filter (·.1 = d) with
      | [] => none
      | hits => some (d, unique (hits.map (·.2)))

/-- Sizes default to the middle one if it is documented, else to the one that is counted most, the
first of several; other dimensions have no default. -/
def default (vs : Variants) (d : Dimension) (count : Dimension × Text → Int) : Option Text :=
  match vs.get? d, d with
  | some values, .size =>
    if ("md" : Text) ∈ values then some "md" else firstMax (fun v => count (d, v)) values
  | _, _ => none

end Variants

mutual
/-- For each element the variants its own classes name, once each. -/
def nodeSightings (base : Text) : Node → List (Dimension × Text)
  | .element _ attrs children =>
    (unique (ownClasses attrs)).filterMap (fun t => (Category.ofToken base t).variant?) ++
      forestSightings base children
  | _ => []
def forestSightings (base : Text) : List Node → List (Dimension × Text)
  | [] => []
  | n :: ns => nodeSightings base n ++ forestSightings base ns
end

/-- How many elements carry each variant is how often it is listed here. -/
def sightings (base : Option Text) (ns : List Node) : List (Dimension × Text) :=
  match base with
  | none => []
  | some base => forestSightings base ns

structure Spec where
  name : Text
  moduleName : Text
  fileName : Text
  baseClass : Option Text
  variants : Variants
  defaults : List (Dimension × Option Text)
  examples : List Example
  sourcePath : Text

namespace Spec

def dimensions (spec : Spec) : List Dimension :=
  Dimension.all.filter fun d => (spec.variants.get? d).isSome

def hasVariants (spec : Spec) : Bool := !spec.variants.isEmpty

/-- All that the examples of a page show. -/
def pageNodes (page : Page) : List Node := page.examples.flatMap (·.nodes)

def ofPage (base : Text) (page : Page) : Spec :=
  let name := nameOfPath page.path
  let nodes := pageNodes page
  let tokens := allClasses nodes
  let baseClass := baseClass? tokens
  let variants := Variants.ofTokens baseClass tokens
  let seen := sightings baseClass nodes
  { name := name
    moduleName := Component.moduleName base name
    fileName := Component.fileName name
    baseClass := baseClass
    variants := variants
    defaults := variants.map fun v => (v.1, variants.default v.1 fun dv => Int.ofNat (seen.count dv))
    examples := page.examples
    sourcePath := page.path }

end Spec

end Componentry.Component
