import Componentry.Markup.Node
import Componentry.Text.Blank

/-!
A forest as HEEx markup. An element without children closes itself, one with nothing but text stays
on its line, and any other has its children on lines of their own, one level deeper.
-/
namespace Componentry.Markup
open Componentry.Text

/-- The characters that text may not hold bare, in the order in which they are replaced: the
ampersand first, so that the entities of the others stay whole. -/
def entities : List (Char × Text) :=
  [('&', "&amp;"), ('<', "&lt;"), ('>', "&gt;"), ('"', "&quot;")]

def needsEscape (s : Text) : Bool := s.any fun c => entities.any (·.1 = c)

def escape (s : Text) : Text := entities.foldl (fun s e => replace [e.1] e.2 s) s

def escapeText (s : Text) : Text := if needsEscape s then escape s else s

/-- An attribute with an empty value is its bare name. -/
def attrToHeex (a : Text × Text) : Text :=
  if a.2 = [] then a.1 else a.1 ++ "=\"" ++ replace ['"'] "&quot;" a.2 ++ ['"']

def attrsToHeex (attrs : Attrs) : Text :=
  if attrs = [] then [] else ' ' :: joinWith [' '] (attrs.map attrToHeex)

/-- Two spaces for each level; none at a negative one. -/
def levelMargin (level : Int) : Text := spaces (2 * level).toNat

/-- The text of a text node; other nodes have none. -/
def Node.inlineHeex : Node → Text
  | .text v => escapeText v
  | _ => []

mutual
def Node.toHeex (level : Int) : Node → Text
  | .comment body => levelMargin level ++ "<!-- " ++ body ++ " -->"
  | .text v => levelMargin level ++ escapeText (trim v)
  | .element name attrs children =>
    let head := '<' :: name ++ attrsToHeex attrs
    if children.isEmpty then levelMargin level ++ head ++ " />"
    else if children.all Node.isText then
      levelMargin level ++ head ++ ['>'] ++ children.flatMap Node.inlineHeex ++ "</" ++ name ++ ['>']
    else
      unlines ((levelMargin level ++ head ++ ['>']) :: childrenToHeex (level + 1) children ++
        [levelMargin level ++ "</" ++ name ++ ['>']])
def childrenToHeex (level : Int) : List Node → List Text
  | [] => []
  | n :: ns => n.toHeex level :: childrenToHeex level ns
end

def forestToHeex (level : Int) (ns : List Node) : Text := unlines (childrenToHeex level ns)

theorem childrenToHeex_eq_map (level : Int) (ns : List Node) :
    childrenToHeex level ns = ns.map (Node.toHeex level) := by
  induction ns with
  | nil => rfl
  | cons n ns ih => simp [childrenToHeex, ih]

end Componentry.Markup
