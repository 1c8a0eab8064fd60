import Componentry.Crash
import Componentry.Settings.Value
import Componentry.Yaml.Document

/-!
The settings of a project, from a file at its root. Without the file all have their defaults.
-/
namespace Componentry
open Componentry.Files Componentry.Text

structure Settings where
  root : Path
  outputDir : Path
  baseModule : Option Text
  components : List Text
  /-- Where the documentation is checked out, if not below the root. -/
  baseDir : Option Path
  repository : Text
  templatesDir : Option Path
  workers : Int
  skipClone : Bool

namespace Settings

def fileName : Text := ".daisygen.yml"

def defaultOutputDir : Text := "lib/daisygen_components"

def defaultRepository : Text := "https://github.com/saadeghi/daisyui.git"

def sourceDir (s : Settings) : Path := s.baseDir.getD s.root

/-- Settings that are there and cannot be used. -/
inductive Refusal where
  | unparsable (file : Text) (why : Yaml.Fault)
  | notMap
  | workers

def Refusal.message : Refusal → Text
  | .unparsable file _ => "Failed to parse " ++ file ++ ": "
  | .notMap => fileName ++ " must contain a mapping at the root"
  | .workers => "workers must be a positive integer"

inductive Fault where
  | refused (why : Refusal)
  | crashed (c : Crash)

/-! ### Values -/

abbrev Entries := List (Value × Value)

/-- The last value of a key. -/
def lookup (es : Entries) (key : Text) : Value :=
  (es.reverse.findSome? fun e =>
    match e.1 with
    | .text s => if s = key then some e.2 else none
    | _ => none).getD .null

/-- A text that is given and not empty. -/
def given? (v : Value) : Option Text :=
  match v.asText with
  | some [] => none
  | s => s

def defaults (root : Path) : Settings :=
  { root := root
    outputDir := root.join (Path.ofText defaultOutputDir)
    baseModule := none
    components := []
    baseDir := none
    repository := defaultRepository
    templatesDir := none
    workers := 1
    skipClone := false }

/-- The settings that are paths. -/
def pathKeys : List Text := ["output_dir", "base_dir", "templates_dir"]

/-- The other settings that are one text. -/
def textKeys : List Text := ["base_module", "repo_url"]

def isLong (es : Entries) (key : Text) : Bool := (lookup es key).isLong

/-- A setting is a number that no text can be made of. -/
def tooLong : Fault := .crashed (.setting .longText)

/-- Paths among the settings start at the root. They are made before the workers are looked at, the other
texts after that. -/
def ofEntries (root : Path) (es : Entries) : Except Fault Settings :=
  let at? (key : Text) : Option Path := (given? (lookup es key)).map fun s => root.join (Path.ofText s)
  let workers := (lookup es "workers").asInt
  if pathKeys.any (isLong es) then .error tooLong
  else if workers.any (· < 1) then .error (.refused .workers)
  else if textKeys.any (isLong es) || (lookup es "components").holdsLong then .error tooLong
  else
    let unset := defaults root
    .ok
      { root := root
        outputDir := (at? "output_dir").getD unset.outputDir
        baseModule := (lookup es "base_module").asText
        components := (lookup es "components").asNames
        baseDir := at? "base_dir"
        repository := (given? (lookup es "repo_url")).getD unset.repository
        templatesDir := at? "templates_dir"
        workers := workers.getD unset.workers
        skipClone := (lookup es "skip_clone").asBool.getD unset.skipClone }

def ofValue (root : Path) : Value → Except Fault Settings
  | .map es => ofEntries root es
  | .null => ofEntries root []
  | _ => .error (.refused .notMap)

/-- The settings that the text of a file gives. -/
def ofText (root : Path) (file s : Text) : Except Fault Settings :=
  if allBlank s then ofEntries root []
  else
    match Yaml.load s with
    | .ok v => ofValue root v
    | .error (.scalar why) => .error (.crashed (.setting why))
    | .error why => .error (.refused (.unparsable file why))

/-! ### Files -/

/-- A tilde in front stands for the home directory. -/
def expandHome (d : Disk) (p : Path) : Except Crash Path :=
  match p.root, p.parts with
  | [], ('~' :: user) :: rest =>
    if user = [] then .ok (rest.foldl Path.child (Path.ofText d.home)) else .error .noHome
  | _, _ => .ok p

/-- The settings file that a path names, itself or by its directory. -/
def locate (d : Disk) (p : Path) : Except Crash Path := do
  let p ← expandHome d p
  match d.realPath (if d.isDirectory p then p.child fileName else p) with
  | .ok file => .ok file
  | .error l => .error (.loop l)

def read (d : Disk) (root file : Path) : Except Fault Settings :=
  if d.present file then
    match d.readText file with
    | .ok s => ofText root file.name s
    | .error e => .error (.crashed (Crash.ofReadError e))
  else .ok (defaults root)

def load (d : Disk) (p : Path) : Except Fault Settings :=
  match locate d p with
  | .error c => .error (.crashed c)
  | .ok file =>
    match d.realPath file.parent with
    | .error l => .error (.crashed (.loop l))
    | .ok root => read d root file

end Settings
end Componentry
