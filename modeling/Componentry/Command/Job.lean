import Componentry.Command.Line
import Componentry.Generation.Run
import Componentry.Project
import Componentry.Settings.Config

/-!
What a run is to do, from the options and the settings of the project. Options go before settings.
-/
namespace Componentry.Command
open Componentry.Files Componentry.Text

structure Job where
  /-- Where the documentation is checked out. -/
  base : Path
  /-- What is cloned if there is no checkout; nothing if that is to be skipped. -/
  repository : Option Text
  templates : Option Path
  components : List Text
  plan : Generation.Plan

/-- An option that is given and not empty. -/
def given? : Option Text → Option Text
  | some [] => none
  | s => s

def chosenBase (d : Disk) (s : Settings) (o : Options) : Except Crash Path :=
  match given? o.baseDir with
  | none => .ok s.sourceDir
  | some dir =>
    match d.realPath (Path.ofText dir) with
    | .ok p => .ok p
    | .error l => .error (.loop l)

/-- The namespace of the components, which the project proposes if none is given. -/
def chosenNamespace (d : Disk) (s : Settings) (o : Options) : Except Crash Text :=
  match (given? o.baseModule).or (given? s.baseModule) with
  | some name => .ok name
  | none =>
    match Project.namespaceOf d s.root with
    | .ok name => .ok name
    | .error e => .error (Crash.ofReadError e)

def chosenComponents (s : Settings) (o : Options) : List Text :=
  match (o.components.map fun names => (Settings.Value.text names).asNames).getD [] with
  | [] => s.components
  | names => names

def Job.of (d : Disk) (s : Settings) (o : Options) : Except Crash Job := do
  let base ← chosenBase d s o
  let namespaceName ← chosenNamespace d s o
  return {
    base := base
    repository := if o.skipClone || s.skipClone then none else some s.repository
    templates := s.templatesDir
    components := chosenComponents s o
    plan := {
      outputDir := ((given? o.outputDir).map Path.ofText).getD s.outputDir
      base := namespaceName
      dryRun := o.dryRun } }

end Componentry.Command
