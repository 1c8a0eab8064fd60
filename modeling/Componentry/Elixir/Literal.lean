import Componentry.Text.Basic

/-!
String and atom literals of Elixir.
-/
namespace Componentry.Elixir
open Componentry.Text

/-- What is escaped in a string, in the order of replacement: the backslash first, so that those
written for the others stay single. -/
def stringEscapes : List (Text × Text) :=
  [(['\\'], "\\\\"), (['"'], "\\\""), (['#', '\x7b'], ['\\', '#', '\x7b'])]

def escapeString (s : Text) : Text := stringEscapes.foldl (fun s e => replace e.1 e.2 s) s

def stringLiteral (s : Text) : Text := '"' :: escapeString s ++ ['"']

/-- An atom, or `nil` for no value. -/
def atomLiteral : Option Text → Text
  | none => "nil"
  | some s => ':' :: s

end Componentry.Elixir
