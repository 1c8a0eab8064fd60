import Componentry.Files.Disk

/-!
Changes of a disk. A single change happens as a whole or not at all; a file is written beside its
place and then moved there, so that its place never holds a part of it.
-/
namespace Componentry.Files
open Componentry.Text

namespace Disk

/-- A new directory in one that is there. -/
def makeDir (d : Disk) (p : Path) : Except FileError Disk :=
  match d.locate false p with
  | .error f => failed p f
  | .ok (.found _ _) => failed p .exists
  | .ok (.free place) => .ok (d.put place .directory)

/-- A failure to make a directory does not count if one is there. -/
def settle (d : Disk) (p : Path) (e : FileError) : Disk × Option FileError :=
  if d.isDirectory p then (d, none) else (d, some e)

def ensureDir (d : Disk) (p : Path) : Disk × Option FileError :=
  match d.makeDir p with
  | .ok d' => (d', none)
  | .error e => if e.failure = .missing then (d, some e) else d.settle p e

/-- Makes a directory with the directories above it that are missing, given its names from the last
to the first. -/
def makeDirsFrom (d : Disk) (root : Text) : List Text → Disk × Option FileError
  | [] => d.ensureDir ⟨root, []⟩
  | name :: above =>
    let p : Path := ⟨root, (name :: above).reverse⟩
    match d.makeDir p with
    | .ok d' => (d', none)
    | .error e =>
      if e.failure = .missing then
        match d.makeDirsFrom root above with
        | (d', none) => d'.ensureDir p
        | (d', some e') => (d', some e')
      else d.settle p e

def makeDirs (d : Disk) (p : Path) : Disk × Option FileError := d.makeDirsFrom p.root p.parts.reverse

/-- Takes a place from the names read so far, latest first, for each pair of dots. -/
def plainParts (parts : List Text) : List Text :=
  (parts.foldl (fun done s => if s = (".." : Text) then done.drop 1 else s :: done) []).reverse

/-- The path from the root, with dots taken away by the names before them, links or not. -/
def absolute (d : Disk) (p : Path) : Path :=
  let q := if p.isAbsolute then p else ⟨"/", d.cwd ++ p.parts⟩
  { q with parts := plainParts q.parts }

/-- Names for an unfinished file, until one is free. -/
def temporaryName (name : Text) (n : Nat) : Text :=
  let digits := ofNat n
  ['.'] ++ name ++ ['.'] ++ List.replicate (8 - digits.length) '0' ++ digits

/-- A new file of a name that was free in the directory, and the path that shows it. -/
def createTemporary (d : Disk) (dir : Path) (name : Text) (content : Bytes) :
    Except FileError (Disk × Place × Path) :=
  let tries := (List.range (d.entries.length + 1)).map fun n =>
    let p := (d.absolute dir).child (temporaryName name n)
    match d.locate false p with
    | .error f => some (.error ⟨f, p.toText, none⟩)
    | .ok (.found _ _) => none
    | .ok (.free place) => some (.ok (d.put place (.file content), place, p))
  (tries.findSome? id).getD (failed dir .exists)

/-- Moves the file at a place over whatever a path names, unless that is a directory. A link is
replaced itself. -/
def moveOver (d : Disk) (source : Place) (shown p : Path) : Except FileError Disk :=
  let refuse (f : Failure) : Except FileError Disk := .error ⟨f, shown.toText, some p.toText⟩
  match d.get? source, d.locate false p with
  | none, _ => refuse .missing
  | _, .error f => refuse f
  | _, .ok (.found _ .directory) => refuse .isDirectory
  | some e, .ok (.found place _) => .ok ((d.erase source).put place e)
  | some e, .ok (.free place) => .ok ((d.erase source).put place e)

/-- Writes a file as a whole, making the directories above it. After a failure no unfinished file is
left. -/
def writeWhole (d : Disk) (p : Path) (content : Bytes) : Disk × Option FileError :=
  match d.makeDirs p.parent with
  | (d₁, some e) => (d₁, some e)
  | (d₁, none) =>
    match d₁.createTemporary p.parent p.name content with
    | .error e => (d₁, some e)
    | .ok (d₂, place, shown) =>
      match d₂.moveOver place shown p with
      | .ok d₃ => (d₃, none)
      | .error e => (d₂.erase place, some e)

/-- Writes over a file, through a link if there is one. -/
def writeThrough (d : Disk) (p : Path) (content : Bytes) : Except FileError Disk :=
  match d.locate true p with
  | .error f => failed p f
  | .ok (.found _ .directory) => failed p .isDirectory
  | .ok (.found place _) => .ok (d.put place (.file content))
  | .ok (.free place) => .ok (d.put place (.file content))

/-- Takes away a place and all below it. -/
def removeTree (d : Disk) (p : Place) : Disk :=
  { d with entries := d.entries.filter fun e => !p.isPrefixOf e.1 }

/-- Takes away all below a place. -/
def removeBelow (d : Disk) (p : Place) : Disk :=
  { d with entries := d.entries.filter fun e => !(p.isPrefixOf e.1 && e.1 ≠ p) }

def makeLink (d : Disk) (p : Path) (target : Text) : Except FileError Disk :=
  match d.locate false p with
  | .error f => .error ⟨f, target, some p.toText⟩
  | .ok (.found _ _) => .error ⟨.exists, target, some p.toText⟩
  | .ok (.free place) => .ok (d.put place (.link target))

end Disk
end Componentry.Files
