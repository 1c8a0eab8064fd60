import Componentry.Markup.Tree

/-!
Documentation pages and the titled examples on them.
-/
namespace Componentry.Document
open Componentry.Markup

structure Example where
  title : Text
  nodes : List Node

structure Page where
  path : Text
  examples : List Example

/-- A page without examples is no page. -/
def Page.ofExamples? (path : Text) (examples : List Example) : Option Page :=
  if examples.isEmpty then none else some ⟨path, examples⟩

/-- Why the markup of a page cannot be read. -/
structure Fault where
  path : Text
  title : Option Text
  why : Rejection

/-- The place of a fault; an empty title is none. -/
def Fault.place (f : Fault) : Text :=
  match f.title with
  | none | some [] => f.path
  | some title => f.path ++ " (" ++ title ++ [')']

def Fault.message (f : Fault) : Text :=
  match f.why with
  | .longNumber _ => f.why.message
  | _ => "Malformed HTML in " ++ f.place ++ ": " ++ f.why.message

/-- Markup met on a page under a title. -/
def parseMarkup (path : Text) (title : Option Text) (html : Text) : Except Fault (List Node) :=
  match parse html with
  | .ok nodes => .ok nodes
  | .error why => .error ⟨path, title, why⟩

end Componentry.Document
