import Componentry.Text.Basic

/-!
The dimensions in which a component varies, and the sorting of class tokens into them.
-/
namespace Componentry.Component
open Componentry.Text

inductive Dimension where
  | size
  | color
  | style
  | modifier
  /-- A dimension without a vocabulary. -/
  | custom (name : Text)
  deriving DecidableEq, Repr

namespace Dimension

/-- The dimensions with a vocabulary, in the order in which they are tried and listed. -/
def all : List Dimension := [.size, .color, .style, .modifier]

def name : Dimension → Text
  | .size => "size"
  | .color => "color"
  | .style => "style"
  | .modifier => "modifier"
  | .custom name => name

def ofName (s : Text) : Dimension := (all.find? (·.name = s)).getD (.custom s)

def vocabulary : Dimension → List Text
  | .size => ["xs", "sm", "md", "lg", "xl"]
  | .color => ["primary", "secondary", "accent", "neutral", "info", "success", "warning", "error"]
  | .style => ["outline", "soft", "ghost", "link", "dash"]
  | .modifier => ["wide", "block", "square", "circle", "active", "disabled", "loading"]
  | .custom _ => []

end Dimension

/-- What a class token says about a component with the base class. -/
inductive Category where
  | base
  | variant (dimension : Dimension) (value : Text)
  | unknown
  deriving DecidableEq, Repr

/-- The token is the base class, a hyphen and one of the words, and may end in a line feed. No
words at all count as the empty word. -/
def isVariant (base : Text) (words : List Text) (token : Text) : Bool :=
  match after? (base ++ ['-']) token with
  | none => false
  | some s => (if words = [] then [[]] else words).any fun w => s = w || s = w ++ ['\n']

/-- The first dimension whose vocabulary has the word wins. -/
def Category.ofToken (base token : Text) : Category :=
  if token = base then .base
  else match Dimension.all.find? fun d => isVariant base d.vocabulary token with
    | some d => .variant d (token.drop (base.length + 1))
    | none => .unknown

def Category.variant? : Category → Option (Dimension × Text)
  | .variant d v => some (d, v)
  | _ => none

end Componentry.Component
