import Componentry.Component.Classes
import Componentry.Component.Name
import Componentry.Document.Example
import Componentry.Elixir.Literal
import Componentry.Markup.Heex

/-!
Example functions. Several elements of one tag under a title give a function each; anything else
gives one function for the title.
-/
namespace Componentry.Elixir
open Componentry.Component Componentry.Document Componentry.Markup Componentry.Text

def elementNames (ns : List Node) : List Text := ns.filterMap Node.name?

/-- More than one element, and all of one tag. -/
def splits (ns : List Node) : Bool :=
  match elementNames ns with
  | n :: m :: rest => (m :: rest).all (· = n)
  | _ => false

/-- What follows the first hyphen of the first class that has something there. -/
def variantOfClasses (value : Text) : Option Text :=
  (words value).findSome? fun t =>
    match cut? '-' t with
    | some (_, c :: s) => some (c :: s)
    | _ => none

/-- The first text among the nodes, trimmed, unless it is blank. -/
def firstText : List Node → Option Text
  | [] => none
  | .text v :: _ => if allBlank v then none else some (trim v)
  | _ :: ns => firstText ns

/-- What sets an element apart from its siblings: a class variant, else its text. -/
def elementLabel (attrs : Attrs) (children : List Node) : Option Text :=
  variantOfClasses (classValue attrs) <|> firstText children

def elementSlug (attrs : Attrs) (children : List Node) : Text :=
  match elementLabel attrs children with
  | some label => slug label
  | none => "example"

def elementDoc (title : Text) (attrs : Attrs) (children : List Node) : Text :=
  match variantOfClasses (classValue attrs) with
  | some v => capitalize v
  | none => (firstText children).getD title

def exampleFunction (name doc body : Text) : Text :=
  unlines ["@doc " ++ stringLiteral ("Example: " ++ doc), "def " ++ name ++ "_example(assigns) do",
    "  ~H\"\"\"", body, "  \"\"\"", "end", []]

def elementExample? (title : Text) (n : Node) : Option Text :=
  match n with
  | .element _ attrs children =>
    some (exampleFunction (elementSlug attrs children) (elementDoc title attrs children) (n.toHeex 2))
  | _ => none

def exampleCode (e : Example) : Text :=
  if splits e.nodes then unlines (e.nodes.filterMap (elementExample? e.title))
  else exampleFunction (slug e.title) e.title (forestToHeex 2 e.nodes)

def examplesCode (es : List Example) : Text := unlines (es.map exampleCode)

end Componentry.Elixir
