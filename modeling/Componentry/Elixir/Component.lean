import Componentry.Component.Spec
import Componentry.Elixir.Literal

/-!
The parts of a component's module: attribute declarations, the class list, the component function
and the helpers that turn atoms into classes.
-/
namespace Componentry.Elixir
open Componentry.Component Componentry.Text

/-- Elements that hold no content. -/
def voidTags : List Text := [
    "area", "base", "br", "col", "embed", "hr", "img", "input", "link", "meta", "param", "source",
    "track", "wbr"]

def isVoidTag (tag : Text) : Bool := tag ∈ voidTags

/-- The base classes that name an element of their own. -/
def classTags : List (Text × Text) :=
  [("btn", "button"), ("input", "input"), ("textarea", "textarea"), ("select", "select")]

def tagOfClass (baseClass : Option Text) : Text := (classTags.lookup (baseClass.getD [])).getD "div"

/-- The attributes that are passed on besides the global ones. -/
def globalAttrs : List (Text × List Text) := [
    ("input", ["disabled", "form", "name", "value", "type", "placeholder"]),
    ("textarea", ["disabled", "form", "name", "placeholder", "rows", "cols"]),
    ("select", ["disabled", "form", "name"]),
    ("btn", ["disabled", "form", "type"])]

/-- The attribute that sets a dimension. -/
def attrName : Dimension → Text
  | .color => "variant"
  | d => d.name

/-- The function that turns an atom of the dimension into its class. -/
def helperName (d : Dimension) : Text := attrName d ++ "_class"

def attrDoc : Dimension → Text
  | .size => "Size variant"
  | .color => "Color variant"
  | .style => "Style variant"
  | .modifier => "Modifier classes"
  | .custom name => name

/-- The value that is declared first: the middle size, and no value elsewhere. -/
def headValue : Dimension → Option Text
  | .size => some "md"
  | _ => none

/-- The values an attribute may take. -/
def declaredValues (spec : Spec) (d : Dimension) : List (Option Text) :=
  headValue d :: ((spec.variants.values d).map some).filter (· ≠ headValue d)

/-- The chosen default, unless it is empty, else the one of the documented values alone. -/
def declaredDefault (spec : Spec) (d : Dimension) : Option Text :=
  let chosen := match (spec.defaults.lookup d).join with
    | some (c :: s) => some (c :: s)
    | _ => spec.variants.default d fun _ => 0
  if d = .size then some (chosen.getD "md") else chosen

def attrLine (spec : Spec) (d : Dimension) : Text :=
  "attr :" ++ attrName d ++ ", :atom, default: " ++ atomLiteral (declaredDefault spec d) ++
    ", values: [" ++ joinWith ", " ((declaredValues spec d).map atomLiteral) ++
    "], doc: " ++ stringLiteral (attrDoc d)

def restLine (baseClass : Option Text) : Text :=
  match globalAttrs.lookup (baseClass.getD []) with
  | some names => "attr :rest, :global, include: ~w(" ++ joinWith " " names ++ ")"
  | none => "attr :rest, :global"

def classLine : Text := "attr :class, :string, default: \"\", doc: \"Additional CSS classes\""

def attrs (spec : Spec) : Text :=
  unlines (spec.dimensions.map (attrLine spec) ++ [classLine, restLine spec.baseClass])

def hasBase (spec : Spec) : Bool := spec.baseClass.getD [] ≠ []

/-- The class list: the base class, one call for each dimension, and the caller's class. -/
def classList (spec : Spec) : Text :=
  let base := if hasBase spec then [['"'] ++ spec.baseClass.getD [] ++ ['"']] else []
  let calls := spec.dimensions.map fun d => helperName d ++ "(@" ++ attrName d ++ ")"
  let caller : List Text := ["@class"]
  ['['] ++ joinWith ", " (base ++ calls ++ caller) ++ [']']

def classExpr (spec : Spec) : Text := if hasBase spec then classList spec else "@class"

/-- `\x7b` and `\x7d` around a text. -/
def braced (s : Text) : Text := ['\x7b'] ++ s ++ ['\x7d']

def function (spec : Spec) : Text :=
  let tag := tagOfClass spec.baseClass
  let head := "  <" ++ tag ++ " class=" ++ braced (classExpr spec) ++ " " ++ braced "@rest"
  let slot : List Text := if isVoidTag tag then [] else ["slot :inner_block, required: true", []]
  let body : List Text :=
    if isVoidTag tag then [head ++ " />"]
    else [head ++ ">", "    <%= render_slot(@inner_block) %>", "  </" ++ tag ++ ">"]
  let doc : List Text := ["@doc \"\"\"", "Renders a " ++ spec.name ++ " component.", "\"\"\""]
  let opening : List Text := ["def " ++ fileName spec.name ++ "(assigns) do", "  ~H\"\"\""]
  let closing : List Text := ["  \"\"\"", "end"]
  unlines (doc ++ slot ++ opening ++ body ++ closing)

/-- An absent base class shows as `None`. -/
def baseText (baseClass : Option Text) : Text := baseClass.getD "None"

def helperClause (spec : Spec) (d : Dimension) (value : Text) : Text :=
  "defp " ++ helperName d ++ "(:" ++ value ++ "), do: \"" ++ baseText spec.baseClass ++ "-" ++ value ++ "\""

def helper (spec : Spec) (d : Dimension) : Text :=
  unlines (("defp " ++ helperName d ++ "(nil), do: nil") ::
    ((declaredValues spec d).filterMap id).map (helperClause spec d))

def helpers (spec : Spec) : Text :=
  if spec.dimensions = [] then []
  else "# Helper functions for class composition\n\n" ++
    joinWith "\n\n" (spec.dimensions.map (helper spec))

/-- One line that shows how the component is called. -/
def usage (spec : Spec) : Text :=
  let name := fileName spec.name
  if isVoidTag (tagOfClass spec.baseClass) then
    if spec.baseClass = some "input" then
      "<." ++ name ++ " type=\"text\" placeholder=\"Type here\" />"
    else "<." ++ name ++ " />"
  else "<." ++ name ++ ">Content</." ++ name ++ ">"

end Componentry.Elixir
