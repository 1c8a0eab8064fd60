import Componentry.Text.Basic

/-!
Paths as text: a root and the names between the slashes. Empty names and single dots vanish, double
dots stay.
-/
namespace Componentry
open Componentry.Text

structure Path where
  /-- Empty, one slash or two. -/
  root : Text
  parts : List Text
  deriving DecidableEq, Repr

namespace Path

/-- Exactly two slashes in front are a root of their own. -/
def rootOf (s : Text) : Text :=
  match (s.takeWhile (· = '/')).length with
  | 0 => []
  | 2 => "//"
  | _ => "/"

def isPart (s : Text) : Bool := s ≠ [] && s ≠ ['.']

def ofText (s : Text) : Path := ⟨rootOf s, (splitOn '/' s).filter isPart⟩

def toText (p : Path) : Text :=
  match p.root ++ joinWith ['/'] p.parts with
  | [] => ['.']
  | s => s

def isAbsolute (p : Path) : Bool := p.root ≠ []

def parent (p : Path) : Path := { p with parts := p.parts.dropLast }

def name (p : Path) : Text := p.parts.getLast?.getD []

/-- No system call takes a null character in a path. -/
def hasNull (p : Path) : Bool := p.parts.any fun s => s.any (· = '\x00')

/-- An absolute right side stands for itself. -/
def join (p q : Path) : Path := if q.isAbsolute then q else { p with parts := p.parts ++ q.parts }

def child (p : Path) (name : Text) : Path := { p with parts := p.parts ++ [name] }

end Path

end Componentry
