import Componentry.Elixir.Module
import Componentry.Generation.Source
import Componentry.Template.Parser

/-!
A run: find the documentation files, read them, and write a module for each page. No page depends on
another one.
-/
namespace Componentry.Generation
open Componentry.Component Componentry.Document Componentry.Files Componentry.Template
  Componentry.Text

/-- Where modules go and what they are called. In a dry run nothing is written. -/
structure Plan where
  outputDir : Path
  base : Text
  dryRun : Bool

/-! ### The template -/

abbrev Layout := Except Template.Fault (List Item)

def templateFile : Text := "component.ex.j2"

/-- A template from a directory, or the usual one if the directory has none. -/
def layout (d : Disk) (dir : Option Path) : Except Crash Layout :=
  match dir.map (·.child templateFile) with
  | none => .ok (.ok Elixir.standardTemplate)
  | some p =>
    if d.isFile p then
      match d.readText p with
      | .ok s => .ok (parse s)
      | .error e => .error (Crash.ofReadError e)
    else .ok (.ok Elixir.standardTemplate)

/-! ### One page -/

def shownBase (base : Option Text) : Text := base.getD "None"

def analysisNotice (page : Page) (spec : Spec) : Notice :=
  let names := spec.variants.map fun v => v.1.name
  let dimensions : Text := if names = [] then "none" else joinWith ", " names
  .log .analysis ("Analyzed " ++ spec.name ++ ": base class " ++ shownBase spec.baseClass ++ ", " ++
    ofNat (allClasses (Spec.pageNodes page)).length ++ " class tokens, dimensions " ++ dimensions)

def modulePath (plan : Plan) (spec : Spec) : Path :=
  plan.outputDir.join (Path.ofText (spec.fileName ++ ".ex"))

def renderWith (l : Layout) (spec : Spec) : Except Template.Fault Text :=
  l.bind fun items => Elixir.render items spec

/-- Writes the module of a specification, unless the run is dry. -/
def write (plan : Plan) (spec : Spec) (code : Text) (d : Disk) : Disk × List Notice × Result :=
  let path := modulePath plan spec
  let shown := path.toText
  if plan.dryRun then (d, [.report ("Would generate: " ++ shown)], .done spec shown true)
  else
    match d.writeWhole path (encode code) with
    | (d, none) => (d, [.report (spec.name ++ " -> " ++ shown)], .done spec shown false)
    | (d, some e) =>
      (d, [.log .generation ("Write failed for " ++ shown ++ ": " ++ e.message),
          .report ("Failed to generate " ++ spec.name ++ ": " ++ e.message)],
        .failed spec.name (.unwritten shown e))

def generate (l : Layout) (plan : Plan) (page : Page) (d : Disk) : Disk × List Notice × Result :=
  let spec := Spec.ofPage plan.base page
  let analysed := analysisNotice page spec
  match renderWith l spec with
  | .error f =>
    (d, [analysed, .report ("Failed to render " ++ spec.name ++ ": " ++ f.message)],
      .failed spec.name (.template f))
  | .ok code =>
    let (d, told, r) := write plan spec code d
    (d, analysed :: told, r)

/-! ### All pages -/

def generateAll (l : Layout) (plan : Plan) : List Page → Disk → Disk × List Notice × List Result
  | [], d => (d, [], [])
  | page :: rest, d =>
    let (d, told, r) := generate l plan page d
    let (d, more, rs) := generateAll l plan rest d
    (d, told ++ more, r :: rs)

/-- Why a run ends without results. -/
inductive Halt where
  | noSources (dir : Path)
  | crashed (c : Crash)

def Halt.message : Halt → Text
  | .noSources dir => "Components directory not found: " ++ dir.toText
  | .crashed c => c.message

def discover (d : Disk) (docs : Path) : Except Halt (List Path) :=
  match d.documentation? docs with
  | some files => .ok files
  | none => .error (.noSources docs)

/-- The template is asked for when the first page is generated. -/
def generatePages (templates : Option Path) (plan : Plan) (pages : List Page) (d : Disk) :
    Disk × List Notice × Except Crash (List Result) :=
  match pages with
  | [] => (d, [], .ok [])
  | page :: _ =>
    match layout d templates with
    | .error c => (d, [analysisNotice page (Spec.ofPage plan.base page)], .error c)
    | .ok l =>
      let (d, told, rs) := generateAll l plan pages d
      (d, told, .ok rs)

def Summary.notice (s : Summary) : Notice :=
  .log .generation ("Run finished: " ++ ofNat s.done.length ++ " succeeded, " ++ ofNat s.failed.length ++ " failed")

def run (templates : Option Path) (docs : Path) (names : List Text) (plan : Plan) (d : Disk) :
    Disk × List Notice × Except Halt Summary :=
  match discover d docs with
  | .error h => (d, [], .error h)
  | .ok files =>
    let found := Notice.report ("Found " ++ ofNat files.length ++ " documentation file(s)")
    match load d names files with
    | (told, .error c) => (d, found :: told, .error (.crashed c))
    | (told, .ok loaded) =>
      let counted :=
        .report ("Loaded " ++ ofNat loaded.pages.length ++ " component(s) from extraction")
      match generatePages templates plan loaded.pages d with
      | (d, more, .error c) => (d, found :: told ++ counted :: more, .error (.crashed c))
      | (d, more, .ok generated) =>
        let summary : Summary := ⟨loaded.failures ++ generated, plan.outputDir, plan.dryRun⟩
        (d, found :: told ++ counted :: more ++ [summary.notice], .ok summary)

end Componentry.Generation
