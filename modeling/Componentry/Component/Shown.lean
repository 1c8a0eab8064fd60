import Componentry.Component.Spec
import Componentry.Template.Basic

/-!
A specification as templates see it: its parts by name, and the text of each part.
-/
namespace Componentry.Component
open Componentry.Markup Componentry.Document Componentry.Template Componentry.Text

/-- Items between round brackets; a single one is followed by a comma. -/
def shownTuple : List Text → Text
  | [s] => '(' :: s ++ ",)"
  | ss => '(' :: joinWith ", " ss ++ [')']

/-- Keys and values between braces. -/
def shownMap (entries : List (Text × Text)) : Text :=
  ['\x7b'] ++ joinWith ", " (entries.map fun e => e.1 ++ ": " ++ e.2) ++ ['\x7d']

/-- A value by its kind and its named parts. -/
def shownRecord (kind : Text) (parts : List (Text × Text)) : Text :=
  kind ++ ['('] ++ joinWith ", " (parts.map fun p => p.1 ++ ['='] ++ p.2) ++ [')']

def shownOption (s : Option Text) : Text := (s.map quoted).getD "None"

mutual
def shownNode : Node → Text
  | .element name attrs children =>
    shownRecord "Tag" [("name", quoted name),
      ("attrs", shownMap (attrs.map fun a => (quoted a.1, quoted a.2))),
      ("children", shownTuple (shownNodes children))]
  | .text v => shownRecord "Text" [("value", quoted v)]
  | .comment b => shownRecord "Comment" [("text", quoted b)]
def shownNodes : List Node → List Text
  | [] => []
  | n :: ns => shownNode n :: shownNodes ns
end

def shownExample (e : Example) : Text :=
  shownRecord "TitleGroup" [("title", quoted e.title), ("elements", shownTuple (shownNodes e.nodes))]

def shownVariants (vs : Variants) : Text :=
  shownMap (vs.map fun v => (quoted v.1.name, shownTuple (v.2.map quoted)))

def shownDefaults (ds : List (Dimension × Option Text)) : Text :=
  shownMap (ds.map fun d => (quoted d.1.name, shownOption d.2))

def shownSpec (spec : Spec) : Text :=
  shownRecord "ComponentSpec" [("name", quoted spec.name), ("module_name", quoted spec.moduleName),
    ("file_name", quoted spec.fileName), ("base_class", shownOption spec.baseClass),
    ("variants", shownVariants spec.variants),
    ("title_groups", shownTuple (spec.examples.map shownExample)),
    ("source_path", quoted spec.sourcePath), ("defaults", shownDefaults spec.defaults)]

/-- The parts of a specification that a template may ask for. -/
def specFields (spec : Spec) : List (Text × Value) := [
    ("name", .text spec.name),
    ("module_name", .text spec.moduleName),
    ("file_name", .text spec.fileName),
    ("base_class", (spec.baseClass.map Value.text).getD .none),
    ("source_path", .text spec.sourcePath),
    ("has_variants", .bool spec.hasVariants),
    ("example_count", .number spec.examples.length),
    ("dimensions", .collection (shownTuple (spec.dimensions.map fun d => quoted d.name))
      spec.dimensions.isEmpty),
    ("variants", .collection (shownVariants spec.variants) spec.variants.isEmpty),
    ("title_groups", .collection (shownTuple (spec.examples.map shownExample)) spec.examples.isEmpty),
    ("defaults", .collection (shownDefaults spec.defaults) spec.defaults.isEmpty)]

def Spec.toValue (spec : Spec) : Value :=
  .record "daisygen.models.ComponentSpec object" (shownSpec spec) (specFields spec)

end Componentry.Component
