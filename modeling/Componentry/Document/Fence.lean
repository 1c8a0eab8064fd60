import Componentry.Document.Example

/-!
The examples among the lines of a page. A title line names the blocks after it; an opening fence
starts a block afresh, and a closing fence or the end of the page closes the block that is open.
-/
namespace Componentry.Document
open Componentry.Text

def titleMark : Text := "### ~"

def fenceOpen : Text := "```html"

def fenceClose : Text := "```"

inductive LineKind where
  | title (s : Text)
  | opening
  | closing
  | other
  deriving DecidableEq

/-- A line without the carriage returns and line feeds at its end. -/
def chomp (line : Text) : Text :=
  (line.reverse.dropWhile fun c => c = '\r' || c = '\n').reverse

/-- The kind of a chomped line. -/
def LineKind.ofLine (line : Text) : LineKind :=
  match after? titleMark line with
  | some s => .title s
  | none =>
    if trim line = fenceOpen then .opening
    else if trim line = fenceClose then .closing
    else .other

/-- A closed block: the title in force when it closed and its lines. -/
structure Block where
  title : Option Text
  lines : List Text

def Block.body (b : Block) : Text := unlines b.lines

structure Scan where
  title : Option Text
  /-- The lines of the open block, latest first. -/
  open? : Option (List Text)
  /-- The blocks closed so far, latest first. -/
  closed : List Block

namespace Scan

def start : Scan := ⟨none, none, []⟩

def close (s : Scan) : Scan :=
  match s.open? with
  | some ls => { s with open? := none, closed := ⟨s.title, ls.reverse⟩ :: s.closed }
  | none => s

def line (s : Scan) (raw : Text) : Scan :=
  let l := chomp raw
  match LineKind.ofLine l with
  | .title t => { s with title := some t }
  | .opening => { s with open? := some [] }
  | .closing => s.close
  | .other => { s with open? := s.open?.map (l :: ·) }

def finish (s : Scan) : List Block := s.close.closed.reverse

end Scan

def blocks (lines : List Text) : List Block := (lines.foldl Scan.line Scan.start).finish

/-- What becomes of a block. -/
inductive Verdict where
  | untitled
  | blank (title : Text)
  | found (e : Example)

/-- Blocks without a title or without content are passed over. -/
def Block.verdict (path : Text) (b : Block) : Except Fault Verdict :=
  match b.title with
  | none => .ok .untitled
  | some title =>
    if allBlank b.body then .ok (.blank title)
    else (parseMarkup path (some title) b.body).map fun nodes => .found ⟨title, nodes⟩

def Verdict.example? : Verdict → Option Example
  | .found e => some e
  | _ => none

/-- The verdicts on a page's blocks up to the first fault. -/
def verdicts (path : Text) : List Block → List Verdict × Option Fault
  | [] => ([], none)
  | b :: bs =>
    match b.verdict path with
    | .error f => ([], some f)
    | .ok v => let (vs, fault) := verdicts path bs; (v :: vs, fault)

/-- The examples of a page in the order in which their blocks close. -/
def examples (path : Text) (lines : List Text) : Except Fault (List Example) :=
  match verdicts path (blocks lines) with
  | (_, some f) => .error f
  | (vs, none) => .ok (vs.filterMap Verdict.example?)

end Componentry.Document
