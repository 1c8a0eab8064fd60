import Componentry.Command.Option

/-!
From the arguments of the command line to what they ask for.
-/
namespace Componentry.Command
open Componentry.Text

/-- What the options ask for. -/
structure Options where
  verbose : Bool
  components : Option Text
  outputDir : Option Text
  baseModule : Option Text
  baseDir : Option Text
  config : Text
  workers : Option Int
  dryRun : Bool
  skipClone : Bool
  logFile : Option Text

def Options.none : Options := ⟨false, .none, .none, .none, .none, ['.'], .none, false, false, .none⟩

/-- Why the arguments ask for no run. -/
inductive Stop where
  | help
  | usage (e : UsageError)
  deriving DecidableEq

def Options.switch (o : Opt) (options : Options) : Except Stop Options :=
  match o with
  | .help => .error .help
  | .verbose => .ok { options with verbose := true }
  | .dryRun => .ok { options with dryRun := true }
  | .skipClone => .ok { options with skipClone := true }
  | _ => .ok options

def Options.set (o : Opt) (value : Text) (options : Options) : Except Fault Options :=
  match o with
  | .components => .ok { options with components := some value }
  | .outputDir => .ok { options with outputDir := some value }
  | .baseModule => .ok { options with baseModule := some value }
  | .baseDir => .ok { options with baseDir := some value }
  | .config => .ok { options with config := value }
  | .logFile => .ok { options with logFile := some value }
  | .workers =>
    match int? value with
    | some n => .ok { options with workers := some n }
    | .none => .error (.notWhole o value)
  | _ => .ok options

/-- Two hyphens after an equals sign are no value. -/
def valueInside (value : Text) : Text := if value = ("--" : Text) then [] else value

def Grammar.orStop (g : Grammar) {α : Type} (r : Except Fault α) : Except Stop α :=
  match r with
  | .ok a => .ok a
  | .error f => .error (.usage ⟨g.program, f⟩)

/-- An argument that is an option without a value of its own. -/
def Grammar.switch (g : Grammar) (arg : Text) (o : Opt) (value : Option Text) (options : Options) :
    Except Stop Options := do
  let switches ← g.orStop (g.switches arg o value)
  switches.foldlM (fun options o => options.switch o) options

/-- An argument that is an option with its value, inside it or in the next argument. -/
def Grammar.set (g : Grammar) (o : Opt) (value : Text) (options : Options) : Except Stop Options :=
  g.orStop (options.set o value)

/-- Applies options one after the other. Arguments that belong to none are returned. -/
def Grammar.apply (g : Grammar) : List (Text × Role) → Options → Except Stop (Options × List Text)
  | [], options => .ok (options, [])
  | (arg, .option o value) :: rest, options =>
    match o.takesValue, value, rest with
    | false, value, rest => do g.apply rest (← g.switch arg o value options)
    | true, some v, rest => do g.apply rest (← g.set o (valueInside v) options)
    | true, .none, (v, .word) :: rest => do g.apply rest (← g.set o v options)
    | true, .none, _ => .error (.usage ⟨g.program, .noValue o⟩)
  | (arg, _) :: rest, options => do
    let (options, others) ← g.apply rest options
    return (options, arg :: others)

/-- The options before the command, and the command with what follows it. -/
def splitCommand : List (Text × Role) → List (Text × Role) × List Text
  | [] => ([], [])
  | (arg, role) :: rest =>
    if role = .word || (role = .separator && rest ≠ []) then ([], arg :: rest.map (·.1))
    else
      let (front, back) := splitCommand rest
      ((arg, role) :: front, back)

/-- What a whole command line asks for. -/
def parse (args : List Text) : Except Stop Options := do
  let fail (f : Fault) : Except Stop Options := .error (.usage ⟨mainGrammar.program, f⟩)
  let roles ← mainGrammar.orStop (mainGrammar.roles args)
  let (front, back) := splitCommand roles
  let (options, others) ← mainGrammar.apply front .none
  match back with
  | [] => fail .noCommand
  | command :: rest =>
    if command ≠ genCommand then fail (.unknownCommand command)
    else
      let (options, more) ← genGrammar.apply (← genGrammar.orStop (genGrammar.roles rest)) options
      if others ++ more = [] then return options else fail (.unknown (others ++ more))

end Componentry.Command
