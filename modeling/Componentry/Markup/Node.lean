import Componentry.Text.Basic

/-!
Markup as a forest of elements, texts and comments. Attributes keep the order in which their keys
first appear.
-/
namespace Componentry.Markup

abbrev Attrs := List (Text × Text)

namespace Attrs

def get? (attrs : Attrs) (key : Text) : Option Text := attrs.lookup key

/-- Gives `key` the value in its old place, or at the end if it is new. -/
def put (attrs : Attrs) (key value : Text) : Attrs :=
  if attrs.any (·.1 = key) then attrs.map fun a => if a.1 = key then (key, value) else a
  else attrs ++ [(key, value)]

/-- The last value of each key, in the place of its first. -/
def ofPairs (pairs : List (Text × Text)) : Attrs :=
  pairs.foldl (fun attrs a => put attrs a.1 a.2) []

end Attrs

inductive Node where
  | element (name : Text) (attrs : Attrs) (children : List Node)
  | text (value : Text)
  | comment (body : Text)
  deriving Repr, BEq, Inhabited

namespace Node

def isText : Node → Bool
  | .text _ => true
  | _ => false

def name? : Node → Option Text
  | .element name _ _ => some name
  | _ => none

end Node

end Componentry.Markup
