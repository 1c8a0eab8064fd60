import Componentry.Text.Digits
import Componentry.Text.Quoted

/-!
The options of the command line, and what each argument is taken for. A long option may be cut short
as long as only one is meant.
-/
namespace Componentry.Command
open Componentry.Text

inductive Opt where
  | help
  | verbose
  | components
  | outputDir
  | baseModule
  | baseDir
  | config
  | workers
  | dryRun
  | skipClone
  | logFile
  deriving DecidableEq, Repr

namespace Opt

def spellings : Opt → List Text
  | .help => ["-h", "--help"]
  | .verbose => ["-v", "--verbose"]
  | .components => ["--components"]
  | .outputDir => ["--output-dir"]
  | .baseModule => ["--base-module"]
  | .baseDir => ["--base-dir"]
  | .config => ["--config"]
  | .workers => ["--workers"]
  | .dryRun => ["--dry-run"]
  | .skipClone => ["--skip-clone"]
  | .logFile => ["--log-file"]

def takesValue : Opt → Bool
  | .help | .verbose | .dryRun | .skipClone => false
  | _ => true

def name (o : Opt) : Text := joinWith ['/'] o.spellings

end Opt

/-- A command as its messages name it, and its options. -/
structure Grammar where
  program : Text
  options : List Opt

def Grammar.spellings (g : Grammar) : List (Text × Opt) :=
  g.options.flatMap fun o => o.spellings.map (·, o)

def Grammar.option? (g : Grammar) (spelling : Text) : Option Opt := g.spellings.lookup spelling

def mainGrammar : Grammar := ⟨"daisygen", [.help, .verbose]⟩

def genGrammar : Grammar :=
  ⟨"daisygen gen", [.help, .verbose, .components, .outputDir, .baseModule, .baseDir, .config, .workers,
    .dryRun, .skipClone, .logFile]⟩

def genCommand : Text := "gen"

/-! ### Faults -/

inductive Fault where
  | ambiguous (arg : Text) (candidates : List Text)
  | noValue (o : Opt)
  | unwantedValue (o : Opt) (value : Text)
  | notWhole (o : Opt) (value : Text)
  | unknownCommand (name : Text)
  | noCommand
  | unknown (args : List Text)
  deriving DecidableEq

def Fault.message : Fault → Text
  | .ambiguous arg candidates =>
    "ambiguous option: " ++ arg ++ " could match " ++ joinWith ", " candidates
  | .noValue o => about o.name "expected one argument"
  | .unwantedValue o value => about o.name ("ignored explicit argument " ++ quoted value)
  | .notWhole o value => about o.name ("invalid int value: " ++ quoted value)
  | .unknownCommand name =>
    about "command" ("invalid choice: " ++ quoted name ++ " (choose from " ++ quoted genCommand ++ [')'])
  | .noCommand => "the following arguments are required: command"
  | .unknown args => "unrecognized arguments: " ++ joinWith [' '] args
where
  about (name why : Text) : Text := "argument " ++ name ++ ": " ++ why

/-- A fault and the command that found it. -/
structure UsageError where
  program : Text
  fault : Fault
  deriving DecidableEq

def UsageError.message (e : UsageError) : Text := e.program ++ ": error: " ++ e.fault.message

/-! ### Arguments -/

/-- What an argument is taken for. -/
inductive Role where
  | option (o : Opt) (value : Option Text)
  /-- It has the form of an option but is none. -/
  | unknown
  | word
  /-- Two hyphens, after which all arguments are words. -/
  | separator
  deriving DecidableEq

/-- Whether a text is a negative number, whole or with a point. -/
def isNegative : Text → Bool
  | '-' :: s =>
    let whole := s.takeWhile fun c => (digit? c).isSome
    let ended (t : Text) : Bool := t = [] || t = ['\n']
    match s.dropWhile fun c => (digit? c).isSome with
    | '.' :: r =>
      (r.head?.bind digit?).isSome && ended (r.dropWhile fun c => (digit? c).isSome)
    | r => whole ≠ [] && ended r
  | _ => false

/-- The options that an argument may be short for, by their spellings, and the value inside it. -/
def Grammar.candidates (g : Grammar) (arg : Text) : List (Text × Opt × Option Text) :=
  match arg with
  | '-' :: '-' :: _ =>
    let (front, value) := match cut? '=' arg with
      | some (a, b) => (a, some b)
      | none => (arg, none)
    (g.spellings.filter fun e => startsWith front e.1).map fun e => (e.1, e.2, value)
  | '-' :: c :: rest =>
    (g.spellings.filter fun e => e.1 = ['-', c]).map fun e => (e.1, e.2, some rest)
  | _ => []

def Grammar.role (g : Grammar) (arg : Text) : Except Fault Role :=
  if arg.head? ≠ some '-' then .ok .word
  else
    match g.option? arg with
    | some o => .ok (.option o none)
    | none =>
      if arg.length = 1 then .ok .word
      else
        match (cut? '=' arg).bind fun (a, b) => (g.option? a).map (·, b) with
        | some (o, value) => .ok (.option o (some value))
        | none =>
          match g.candidates arg with
          | [(_, o, value)] => .ok (.option o value)
          | [] => .ok (if isNegative arg || ' ' ∈ arg then .word else .unknown)
          | several => .error (.ambiguous arg (several.map (·.1)))

/-- The arguments with their roles. -/
def Grammar.roles (g : Grammar) : List Text → Except Fault (List (Text × Role))
  | [] => .ok []
  | arg :: rest =>
    if arg = ("--" : Text) then .ok ((arg, .separator) :: rest.map (·, .word))
    else do
      let role ← g.role arg
      return (arg, role) :: (← g.roles rest)

/-- The options in one argument: short options without values may be written together. -/
def Grammar.cluster (g : Grammar) (o : Opt) : Text → Except Fault (List Opt)
  | [] => .error (.unwantedValue o [])
  | c :: rest =>
    match g.option? ['-', c] with
    | none => .error (.unwantedValue o (c :: rest))
    | some next => if rest = [] then .ok [o, next] else (g.cluster next rest).map (o :: ·)

/-- The options without values that an argument stands for. -/
def Grammar.switches (g : Grammar) (arg : Text) (o : Opt) : Option Text → Except Fault (List Opt)
  | none => .ok [o]
  | some value =>
    if startsWith "--" arg then .error (.unwantedValue o value) else g.cluster o value

end Componentry.Command
