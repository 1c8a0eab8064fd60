import Componentry.Crash
import Componentry.Files.Change
import Componentry.Notice

/-!
The checkout of the documentation, fetched when it is not there. What the fetching program does is
given from outside.
-/
namespace Componentry.Checkout
open Componentry.Files Componentry.Text

def place : Path := Path.ofText "tmp/daisyui"

def docsPlace : Path := Path.ofText "packages/docs/src/routes/(routes)/components"

def path (base : Path) : Path := base.join place

/-- The directory with one documentation directory per component. -/
def docs (base : Path) : Path := (path base).join docsPlace

/-- What becomes of the fetching program when it is run. -/
inductive Outcome where
  | missing
  | exit (code : Int)
  /-- It makes the checkout, with these files by their paths. -/
  | success (files : List (Text × Text))

inductive Fault where
  | parents (e : FileError)
  /-- A link stands where the old checkout should be removed. -/
  | link
  | removal (e : FileError)
  | exit (code : Int)
  | failed (e : FileError)
  deriving DecidableEq

def Fault.message : Fault → Text
  | .parents e => "Failed to create tmp directory: " ++ e.message
  | .link => "Failed to remove existing directory: Cannot call rmtree on a symbolic link"
  | .removal e => "Failed to remove existing directory: " ++ e.message
  | .exit code => "Git clone failed with exit code " ++ ofInt code
  | .failed e => "Git clone failed: " ++ e.message

/-- Why there is no checkout. -/
inductive Halt where
  | refused (why : Fault)
  | crashed (c : Crash)

def program : Text := "git"

def programMissing : FileError := ⟨.missing, program, none⟩

/-- A run of the fetching program: its arguments and the directory it is run in. -/
structure Call where
  args : List Text
  cwd : Path
  deriving DecidableEq

/-- A disk after the work on it, and what was told and run on the way. -/
structure Trace where
  disk : Disk
  notices : List Notice
  calls : List Call
  result : Except Halt Path

def args (repository name : Text) : List Text :=
  [program, "clone", "--depth", "1", repository, name]

/-! ### The fetching program -/

/-- What the program does on a disk, run in a directory to make a checkout of some name in it. -/
abbrev Runner := Disk → Path → Text → Disk × Except Fault Unit

/-- Puts files below a directory; those that have no place there are left out. -/
def putFiles (dir : Path) (d : Disk) (files : List (Text × Text)) : Disk :=
  files.foldl (fun d f =>
    let p := dir.join (Path.ofText f.1)
    match (d.makeDirs p.parent).1.writeThrough p (encode f.2) with
    | .ok d => d
    | .error _ => d) d

/-- The effect of the fetching program in a directory. -/
def Outcome.apply (o : Outcome) : Runner := fun d cwd name =>
  match o with
  | .missing => (d, .error (.failed programMissing))
  | .exit code => (d, .error (.exit code))
  | .success files =>
    match d.makeDir (cwd.child name) with
    | .error e => (d, .error (.failed e))
    | .ok d => (putFiles (cwd.child name) d files, .ok ())

/-! ### The stages -/

/-- Removes an old checkout: first what is in it, then itself, which its path may lead to no more. -/
def clear (d : Disk) (target : Path) : Disk × List Notice × Except Halt Unit :=
  match d.directory? target with
  | .error e => (d, [], .error (.crashed (.file e)))
  | .ok false => (d, [], .ok ())
  | .ok true =>
    let told := [Notice.say "Removing existing daisyui directory..."]
    match d.locate false target with
    | .ok (.found p .directory) =>
      let emptied := d.removeBelow p
      match emptied.locate false target with
      | .ok (.found p .directory) => (emptied.erase p, told, .ok ())
      | _ => (emptied, told, .error (.refused (.removal ⟨.missing, target.toText, none⟩)))
    | _ => (d, told, .error (.refused .link))

/-- Makes the directory that the checkout is put in, and removes an old checkout. -/
def prepare (base : Path) (d : Disk) : Disk × List Notice × Except Halt Unit :=
  let target := path base
  if base.hasNull then (d, [], .error (.crashed .nullCharacter))
  else
    match d.makeDirs target.parent with
    | (d, some e) => (d, [], .error (.refused (.parents e)))
    | (d, none) => clear d target

def fetch (run : Runner) (repository : Text) (base : Path) (d : Disk) : Trace :=
  let target := path base
  let cwd := target.parent
  let call : Call := ⟨args repository target.name, cwd⟩
  let told : List Notice := [
    .say "Cloning DaisyUI repository (depth 1)...",
    .log .checkout ("git clone --depth 1 " ++ repository ++ " into " ++ cwd.toText)]
  match run d cwd target.name with
  | (d, .error f) => ⟨d, told, [call], .error (.refused f)⟩
  | (d, .ok ()) =>
    ⟨d, told ++ [.say ("DaisyUI cloned to " ++ target.toText)], [call], .ok target⟩

/-- A fresh checkout in place of an old one. -/
def clone (run : Runner) (repository : Text) (base : Path) (d : Disk) : Trace :=
  match prepare base d with
  | (d, told, .error h) => ⟨d, told, [], .error h⟩
  | (d, told, .ok ()) =>
    let t := fetch run repository base d
    { t with notices := told ++ t.notices }

/-- The checkout that is there, or a fresh one. -/
def ensure (run : Runner) (repository : Text) (base : Path) (d : Disk) : Trace :=
  let target := path base
  match d.directory? target with
  | .error e => ⟨d, [], [], .error (.crashed (.file e))⟩
  | .ok true =>
    ⟨d, [.log .checkout ("Reusing existing checkout at " ++ target.toText)], [], .ok target⟩
  | .ok false => clone run repository base d

end Componentry.Checkout
