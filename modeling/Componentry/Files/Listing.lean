import Componentry.Files.RealPath

/-!
The documentation files below a directory.
-/
namespace Componentry.Files
open Componentry.Text

/-- Order of paths by their names, one after the other. -/
@[grind =]
def partsLe : List Text → List Text → Bool
  | [], _ => true
  | _ :: _, [] => false
  | a :: p, b :: q => if a = b then partsLe p q else le a b

/-- Puts a list of names where it belongs among others that are in order. -/
def insertInOrder (p : List Text) : List (List Text) → List (List Text)
  | [] => [p]
  | q :: qs => if partsLe p q then p :: q :: qs else q :: insertInOrder p qs

def inOrder : List (List Text) → List (List Text)
  | [] => []
  | p :: ps => insertInOrder p (inOrder ps)

theorem insertInOrder_perm (p : List Text) (qs : List (List Text)) :
    (insertInOrder p qs).Perm (p :: qs) := by
  induction qs with
  | nil => exact .refl _
  | cons q qs ih =>
    unfold insertInOrder
    split
    · exact .refl _
    · exact (ih.cons q).trans (.swap p q qs)

theorem inOrder_perm (ps : List (List Text)) : (inOrder ps).Perm ps := by
  induction ps with
  | nil => exact .refl _
  | cons p ps ih => exact (insertInOrder_perm p _).trans (ih.cons p)

def documentationEnd : Text := ".md"

namespace Disk

/-- What lies below a place, by the names that lead there. Linked directories are not entered. -/
def below (d : Disk) (place : Place) : List Place :=
  d.entries.filterMap fun e =>
    if place.isPrefixOf e.1 && e.1.length > place.length then some (e.1.drop place.length) else none

/-- The documentation files below a directory, in order of their names; none if it is not there. -/
def documentation? (d : Disk) (dir : Path) : Option (List Path) :=
  match d.locate true dir with
  | .ok (.found place .directory) =>
    let files := (d.below place).filter fun names => endsWith documentationEnd (names.getLast?.getD [])
    some (((inOrder files).map fun names => { dir with parts := dir.parts ++ names }).filter d.isFile)
  | _ => none

end Disk
end Componentry.Files
