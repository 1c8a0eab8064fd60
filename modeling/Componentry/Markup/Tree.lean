import Componentry.Markup.Scan
import Componentry.Text.Quoted

/-!
From tokens to a clean forest: no blank texts, comments without blanks at their ends, no runtime
markers in classes. End tags are never implied, and whatever is open at the end is closed there.
-/
namespace Componentry.Markup
open Componentry.Text

/-- Elements that hold no content; their start tag closes them at once. -/
def emptyNames : List Text := [
    "area", "base", "basefont", "bgsound", "br", "col", "command", "embed", "frame", "hr", "image",
    "img", "input", "isindex", "keygen", "link", "menuitem", "meta", "nextid", "param", "source",
    "spacer", "track", "wbr"]

/-- The marker of classes that are set when the documentation is shown. -/
def runtimeMarker : Text := "$$"

def cleanClass (value : Text) : Text := replace runtimeMarker [] value

def cleanAttr (a : Text × Text) : Text × Text :=
  (a.1, if a.1 = ("class" : Text) then cleanClass a.2 else a.2)

/-- An open element with the siblings on its left, nearest first. -/
structure Frame where
  name : Text
  attrs : Attrs
  left : List Node

/-- A forest under construction. -/
structure Builder where
  /-- Open elements, innermost first. -/
  frames : List Frame
  /-- Content of the innermost open element, latest first. -/
  nodes : List Node
  /-- Text that no tag has ended yet. -/
  pending : Text
  /-- Empty elements whose end tag may still follow and is then skipped. -/
  credits : List Text

namespace Builder

def empty : Builder := ⟨[], [], [], []⟩

def flush (b : Builder) : Builder :=
  { b with
    nodes := if allBlank b.pending then b.nodes else .text b.pending :: b.nodes
    pending := [] }

def push (b : Builder) (name : Text) (attrs : List (Text × Text)) : Builder :=
  let b := b.flush
  { b with frames := ⟨name, (Attrs.ofPairs attrs).map cleanAttr, b.nodes⟩ :: b.frames, nodes := [] }

/-- Closes open elements up to and including the nearest of the name. -/
def popTo (name : Text) : List Frame → List Node → List Frame × List Node
  | [], nodes => ([], nodes)
  | f :: frames, nodes =>
    let nodes := .element f.name f.attrs nodes.reverse :: f.left
    if f.name = name then (frames, nodes) else popTo name frames nodes

def close (b : Builder) (name : Text) : Builder :=
  let b := b.flush
  if b.frames.any (·.name = name) then
    let (frames, nodes) := popTo name b.frames b.nodes
    { b with frames := frames, nodes := nodes }
  else b

/-- An end tag; a credit of the name is used up instead. -/
def endTag (b : Builder) (name : Text) : Builder :=
  if name ∈ b.credits then { b with credits := b.credits.erase name } else b.close name

def add (b : Builder) : Token → Builder
  | .data s => { b with pending := b.pending ++ s }
  | .opening name attrs =>
    let b := b.push name attrs
    if name ∈ emptyNames then
      let b := b.close name
      { b with credits := b.credits ++ [name] }
    else b
  | .selfClosed name attrs => (b.push name attrs).close name
  | .closing name => b.endTag name
  | .comment s =>
    let b := b.flush
    { b with nodes := .comment (trim s) :: b.nodes }
  | .directive => b.flush

def closeAll : List Frame → List Node → List Node
  | [], nodes => nodes.reverse
  | f :: frames, nodes => closeAll frames (.element f.name f.attrs nodes.reverse :: f.left)

def finish (b : Builder) : List Node :=
  let b := b.flush
  closeAll b.frames b.nodes

end Builder

def ofTokens (ts : List Token) : List Node := (ts.foldl Builder.add Builder.empty).finish

/-- The clean forest of an HTML text. -/
def parse (s : Text) : Except Rejection (List Node) := (tokens s).map ofTokens

def Rejection.message : Rejection → Text
  | .missingName near =>
    refusal ("expected name token at " ++ quoted near)
  | .unknownSection keyword =>
    refusal ("unknown status keyword " ++ quoted keyword ++ " in marked section")
  | .longNumber digits => longNumeralMessage digits
where
  refusal (why : Text) : Text :=
    "The markup you provided was rejected by the parser. Trying a different parser or a different encoding may help.\n\nOriginal exception(s) from parser:\n AssertionError: " ++ why

end Componentry.Markup
