import Componentry.Files.Change

/-!
Paths without links and dots, and the paths that are shown for files.
-/
namespace Componentry.Files
open Componentry.Text

namespace Disk

/-- A name still to be followed, or the end of a link's target. -/
inductive Hop where
  | name (s : Text)
  | linkEnd (link : Place)

def Hop.name? : Hop → Option Text
  | .name s => some s
  | .linkEnd _ => none

/-- Follows names, also where nothing is, up to the first link on the way, where `jump` goes on; the
links that are being followed are `active`. A link that leads back to itself is the error, with the
names that were left. -/
def realNames (d : Disk) (jump : List Place → Place → List Hop → Except Place Place)
    (active : List Place) (here : Place) : List Hop → Except Place Place
  | [] => .ok here
  | .linkEnd link :: rest => d.realNames jump (active.erase link) here rest
  | .name s :: rest =>
    if s = (".." : Text) then d.realNames jump active here.dropLast rest
    else
      let next := here ++ [s]
      match d.get? next with
      | some (.link target) =>
        if next ∈ active then .error (plainParts (next ++ rest.filterMap Hop.name?))
        else
          let path := Path.ofText target
          jump (next :: active) (if path.isAbsolute then [] else here)
            (path.parts.map .name ++ .linkEnd next :: rest)
      | _ => d.realNames jump active next rest

def realFrom (d : Disk) : Nat → List Place → Place → List Hop → Except Place Place
  | 0 => d.realNames fun _ here _ => .error here
  | links + 1 => d.realNames (d.realFrom links)

/-- How many links are resolved before a path is given up. -/
def mostResolved : Nat := 1000

def ofPlace (p : Place) : Path := ⟨"/", p⟩

/-- The place of a path, whether something is there or not. -/
def realPlace (d : Disk) (p : Path) : Except LinkLoop Place :=
  match d.locate true p with
  | .ok (.found place _) | .ok (.free place) => .ok place
  | .error _ =>
    match d.realFrom mostResolved [] (if p.isAbsolute then [] else d.cwd) (p.parts.map .name) with
    | .ok place => .ok place
    | .error place =>
      match d.locate true (ofPlace place) with
      | .error .tooManyLinks => .error ⟨ofPlace place⟩
      | _ => .ok place

def realPath (d : Disk) (p : Path) : Except LinkLoop Path := (d.realPlace p).map ofPlace

/-- What leads from the working directory to a place below it. -/
def relative? (d : Disk) (place : Place) : Option Path :=
  if d.cwd.isPrefixOf place then some ⟨[], place.drop d.cwd.length⟩ else none

/-- A path as it is shown: from the working directory if it lies below it, else as given. -/
def shownPath (d : Disk) (p : Path) : Except LinkLoop Text :=
  (d.realPlace p).map fun place => ((d.relative? place).getD p).toText

end Disk
end Componentry.Files
