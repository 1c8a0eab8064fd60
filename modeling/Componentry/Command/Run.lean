import Componentry.Checkout
import Componentry.Command.Job

/-!
The whole program on a disk: what it leaves there, tells, runs, and how it ends.
-/
namespace Componentry.Command
open Componentry.Files Componentry.Generation Componentry.Text

/-- How the program ends. -/
inductive Ending where
  /-- With a status, and a last message if it is not empty. -/
  | exit (status : Nat) (message : Text)
  | crashed (c : Crash)

structure Trace where
  disk : Disk
  notices : List Notice
  calls : List Checkout.Call
  ending : Ending

/-- What was told before comes first. -/
def Trace.after (notices : List Notice) (calls : List Checkout.Call) (t : Trace) : Trace :=
  { t with notices := notices ++ t.notices, calls := calls ++ t.calls }

/-! ### The summary -/

def dryRunLines (spec : Component.Spec) (path : Text) : List Text :=
  let dimensions := spec.dimensions.map Component.Dimension.name
  let base : Text := match spec.baseClass with
    | none | some [] => "none"
    | some base => base
  let head : List Text := [
    spec.name ++ " -> " ++ path,
    "  Module: " ++ spec.moduleName,
    "  Base class: " ++ base]
  let variants : List Text :=
    if dimensions = [] then [] else ["  Variants: " ++ joinWith ", " dimensions]
  head ++ variants ++ ["  Examples: " ++ ofNat spec.examples.length]

def doneLines : Result → List Text
  | .done spec path _ => dryRunLines spec path
  | .failed .. => []

def failedLine? : Result → Option Text
  | .done .. => none
  | .failed component why => some ("  " ++ component ++ ": " ++ why.message)

def failureLines (s : Summary) : List Text :=
  if s.failed.isEmpty then []
  else (ofNat s.failed.length ++ " component(s) failed:") :: s.failed.filterMap failedLine?

/-- The summary as it is shown, unless the output directory leads into a loop of links. -/
def summaryLines (d : Disk) (s : Summary) : Except Crash (List Text) :=
  let count := ofNat s.done.length
  if s.dryRun then
    let closing : List Text := [
      "Dry run complete - " ++ count ++ " component(s) would be generated",
      "   Run without --dry-run to write files"]
    .ok (s.done.flatMap doneLines ++ closing ++ failureLines s)
  else
    match d.shownPath s.outputDir with
    | .error l => .error (.loop l)
    | .ok dir => .ok (("Generated " ++ count ++ " component(s) in " ++ dir ++ "/") :: failureLines s)

/-! ### The stages -/

def noComponents (names : List Text) : Text :=
  let filter : Text := if names = [] then [] else " (filter: " ++ joinWith ", " names ++ [')']
  "No components to generate" ++ filter ++ "\n"

def finish (d : Disk) (names : List Text) (s : Summary) : Trace :=
  if s.results.isEmpty then ⟨d, [], [], .exit 1 (noComponents names)⟩
  else
    match summaryLines d s with
    | .error c => ⟨d, [.say []], [], .crashed c⟩
    | .ok ls => ⟨d, .say [] :: ls.map .say, [], .exit (if s.failed.isEmpty then 0 else 1) []⟩

def generateJob (job : Job) (d : Disk) : Trace :=
  match Generation.run job.templates (Checkout.docs job.base) job.components job.plan d with
  | (d, told, .error (.noSources dir)) =>
    ⟨d, told, [], .exit 1 ((Halt.noSources dir).message ++
      "\nThe DaisyUI repository may be missing or incomplete.\n")⟩
  | (d, told, .error (.crashed c)) => ⟨d, told, [], .crashed c⟩
  | (d, told, .ok s) => (finish d job.components s).after told []

def banner : List Notice := [.say "DaisyUI Component Generator", .say []]

def runJob (fetched : Checkout.Outcome) (job : Job) (d : Disk) : Trace :=
  match job.repository with
  | none => (generateJob job d).after banner []
  | some repository =>
    let t := Checkout.ensure fetched.apply repository job.base d
    match t.result with
    | .error (.refused f) =>
      ⟨t.disk, banner ++ t.notices, t.calls,
        .exit 1 ("Failed to clone DaisyUI repository: " ++ f.message ++ "\n")⟩
    | .error (.crashed c) => ⟨t.disk, banner ++ t.notices, t.calls, .crashed c⟩
    | .ok _ => (generateJob job t.disk).after (banner ++ t.notices) t.calls

def gen (fetched : Checkout.Outcome) (o : Options) (d : Disk) : Trace :=
  match Settings.load d (Path.ofText o.config) with
  | .error (.crashed c) => ⟨d, [], [], .crashed c⟩
  | .error (.refused why) => ⟨d, [], [], .exit 1 (why.message ++ "\n")⟩
  | .ok s =>
    match Job.of d s o with
    | .error c => ⟨d, [], [], .crashed c⟩
    | .ok job => runJob fetched job d

/-! ### The log file -/

/-- A log file as it was when it was opened. -/
structure LogFile where
  place : Place
  content : Bytes

/-- Opens a log file, making it and the directories above it where they are missing. -/
def openLog (d : Disk) (p : Path) : Disk × Except FileError LogFile :=
  match d.makeDirs p.parent with
  | (d, some e) => (d, .error e)
  | (d, none) =>
    let p := d.absolute p
    match d.locate true p with
    | .ok (.found place (.file content)) => (d, .ok ⟨place, content⟩)
    | .ok (.free place) => (d.put place (.file []), .ok ⟨place, []⟩)
    | .ok (.found _ _) => (d, .error ⟨.isDirectory, p.toText, none⟩)
    | .error f => (d, .error ⟨f, p.toText, none⟩)

/-- Appends lines to a log file, unless something else has taken its place. -/
def LogFile.append (log : LogFile) (ls : List Text) (d : Disk) : Disk :=
  if d.get? log.place = some (.file log.content) then
    d.put log.place (.file (log.content ++ encode (ls.flatMap (· ++ ['\n']))))
  else d

/-- Runs with the log written at the given time, if a file is given for it. -/
def runLogged (time : Text) (fetched : Checkout.Outcome) (o : Options) (d : Disk) : Trace :=
  match o.logFile with
  | none => gen fetched o d
  | some p =>
    match openLog d (Path.ofText p) with
    | (d, .error e) => ⟨d, [], [], .crashed (.file e)⟩
    | (d, .ok log) =>
      let t := gen fetched o d
      { t with disk := log.append (t.notices.filterMap (·.fileLine? time)) t.disk }

/-! ### The program -/

/-- What a run leaves behind for its caller. -/
structure Report where
  disk : Disk
  out : Text
  err : Text
  calls : List Checkout.Call
  ending : Ending

def asLines (ls : List Text) : Text := ls.flatMap (· ++ ['\n'])

def Trace.report (verbose : Bool) (t : Trace) : Report :=
  let log := if verbose then asLines (t.notices.filterMap Notice.consoleLine?) else []
  let last := match t.ending with
    | .exit _ message => message
    | .crashed _ => []
  ⟨t.disk, asLines (t.notices.filterMap Notice.shown?), log ++ last, t.calls, t.ending⟩

def run (args : List Text) (time : Text) (fetched : Checkout.Outcome) (d : Disk) : Report :=
  match parse args with
  | .error .help => ⟨d, [], [], [], .exit 0 []⟩
  | .error (.usage e) =>
    let message := e.message ++ "\n"
    ⟨d, [], message, [], .exit 2 message⟩
  | .ok o => (runLogged time fetched o d).report o.verbose

end Componentry.Command
