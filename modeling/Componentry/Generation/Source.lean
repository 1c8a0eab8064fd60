import Componentry.Crash
import Componentry.Document.Fence
import Componentry.Files.Listing
import Componentry.Generation.Result
import Componentry.Notice

/-!
The pages of documentation files. A file that cannot be read or parsed costs only its own component.
-/
namespace Componentry.Generation
open Componentry.Component Componentry.Document Componentry.Files Componentry.Text

/-- Why a file yields no page. -/
inductive Trouble where
  | loop (l : LinkLoop)
  | unreadable (e : ReadError)
  | markup (f : Document.Fault)

/-- Troubles that end the run. -/
def Trouble.crash? : Trouble → Option Crash
  | .loop l => some (.loop l)
  | .unreadable _ => none
  | .markup f =>
    match f.why with
    | .longNumber _ => some (.markup f)
    | _ => none

/-- What the log says of a block that is passed over. -/
def skipNotice? (path : Text) : Verdict → Option Notice
  | .untitled => some (.log .pages ("Skipping untitled block in " ++ path))
  | .blank title => some (.log .pages ("Skipping empty block '" ++ title ++ "' in " ++ path))
  | .found _ => none

/-- The page in a documentation file, if it has examples. -/
def extract (d : Disk) (path : Path) : List Notice × Except Trouble (Option Page) :=
  match d.shownPath path with
  | .error l => ([], .error (.loop l))
  | .ok shown =>
    match d.readText path with
    | .error e => ([], .error (.unreadable e))
    | .ok s =>
      let (vs, fault) := verdicts shown (blocks (lines s))
      (vs.filterMap (skipNotice? shown),
        match fault with
        | some f => .error (.markup f)
        | none => .ok (Page.ofExamples? shown (vs.filterMap Verdict.example?)))

/-- What a documentation file contributes to a run. -/
inductive Source where
  | page (p : Page)
  | empty
  | failed (component : Text) (why : Reason)

/-- A file read for a run, and what is told about it. -/
def examine (d : Disk) (path : Path) : List Notice × Except Crash Source :=
  let shown := path.toText
  let name := nameOfPath shown
  let (notices, r) := extract d path
  match r with
  | .ok (some p) => (notices, .ok (.page p))
  | .ok none => (notices ++ [.log .generation ("No examples in " ++ shown)], .ok .empty)
  | .error t =>
    match t.crash?, t with
    | some c, _ => (notices, .error c)
    | none, .markup f =>
      (notices ++ [.log .generation ("Extraction failed for " ++ shown ++ ": " ++ f.message),
          .report ("Failed to parse " ++ shown ++ ": " ++ f.why.message)],
        .ok (.failed name (.markup f)))
    | none, .unreadable e =>
      (notices ++ [.log .generation ("Read failed for " ++ shown ++ ": " ++ e.message),
          .report ("Failed to read " ++ shown ++ ": " ++ e.message)],
        .ok (.failed name (.unreadable shown e)))
    | none, .loop l => (notices, .error (.loop l))

/-- The pages of several files, and the failures among them, each in the order of the files. -/
structure Loaded where
  pages : List Page
  failures : List Result

namespace Loaded

def empty : Loaded := ⟨[], []⟩

def cons (s : Source) (l : Loaded) : Loaded :=
  match s with
  | .page p => { l with pages := p :: l.pages }
  | .empty => l
  | .failed component why => { l with failures := .failed component why :: l.failures }

end Loaded

/-- Whether the component of a file is among the names; without names all are. -/
def isSelected (names : List Text) (path : Path) : Bool :=
  names = [] || keyOfPath path.toText ∈ names.map lower

def loadAll (d : Disk) : List Path → List Notice × Except Crash Loaded
  | [] => ([], .ok .empty)
  | path :: rest =>
    match examine d path with
    | (notices, .error c) => (notices, .error c)
    | (notices, .ok s) =>
      let (more, r) := loadAll d rest
      (notices ++ more, r.map (.cons s))

def load (d : Disk) (names : List Text) (files : List Path) : List Notice × Except Crash Loaded :=
  loadAll d (files.filter (isSelected names))

end Componentry.Generation
