import Componentry.Component.Shown
import Componentry.Elixir.Component
import Componentry.Elixir.Examples
import Componentry.Template.Basic

/-!
The whole module of a component: the sections of its code set into a template, and the result
brought to its final form.
-/
namespace Componentry.Elixir
open Componentry.Component Componentry.Template Componentry.Text

/-- The usual template: documentation, then the sections, each two spaces in. -/
def standardTemplate : List Item :=
  let spec (part : String) : Item := .expr (.field (.name "spec") part)
  let code (name : String) : Item := .expr (.indent (.name name) 2 true)
  [.text "defmodule ", spec "module_name", .text " do\n  @moduledoc \"\"\"\n  ", spec "name",
    .text " component with DaisyUI styling.\n\n  Generated from: ", spec "source_path",
    .text "\n\n  ## Examples\n\n      ", .expr (.name "usage"),
    .text "\n  \"\"\"\n\n  use Phoenix.Component\n\n  # Component\n\n", code "attrs",
    .text "\n\n", code "component_function", .text "\n\n",
    .cond (.name "class_helpers") [code "class_helpers", .text "\n\n"] [],
    .cond (.name "examples") [.text "  # Examples\n\n", code "examples", .text "\n"] [],
    .text "end"]

/-- The names a template may use. -/
def moduleScope (spec : Spec) : Scope := [
    ("spec", spec.toValue),
    ("usage", .text (usage spec)),
    ("attrs", .text (attrs spec)),
    ("component_function", .text (function spec)),
    ("class_helpers", .text (helpers spec)),
    ("examples", .text (trimEnd (examplesCode spec.examples)))]

/-- Drops the line feeds beyond the second of a run, `seen` of which have gone before. -/
@[grind =]
def squeezeFrom : Nat → Text → Text
  | _, [] => []
  | seen, c :: s =>
    if c = '\n' then
      if seen < 2 then c :: squeezeFrom (seen + 1) s else squeezeFrom seen s
    else c :: squeezeFrom 0 s

/-- At most one empty line at a time, no blanks at either end, and one line feed at the end. -/
def formatCode (code : Text) : Text := trim (squeezeFrom 0 code) ++ ['\n']

def render (template : List Item) (spec : Spec) : Except Fault Text :=
  (renderAll (moduleScope spec) template).map formatCode

end Componentry.Elixir
