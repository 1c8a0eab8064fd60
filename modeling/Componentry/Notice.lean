import Componentry.Text.Basic

/-!
What is told while the work goes on: to the user, to the log, or to both.
-/
namespace Componentry
open Componentry.Text

/-- The part of the work that writes to the log. -/
inductive LogSource where
  | pages
  | analysis
  | checkout
  | generation
  deriving DecidableEq, Repr

inductive Notice where
  | say (text : Text)
  | log (source : LogSource) (text : Text)
  /-- Progress of the generation, which goes to both. -/
  | report (text : Text)
  deriving DecidableEq, Repr

def loggerRoot : Text := "daisygen"

/-- The name of the log, or of a part of it. -/
def loggerName (part : Option Text) : Text :=
  match part with
  | none | some [] => loggerRoot
  | some name => loggerRoot ++ '.' :: name

def LogSource.part : LogSource → Text
  | .pages => "parser"
  | .analysis => "analyzer"
  | .checkout => "cloner"
  | .generation => "orchestrator"

namespace Notice

def shown? : Notice → Option Text
  | .say s => some s
  | .log _ _ => none
  | .report s => some s

def logged? : Notice → Option (LogSource × Text)
  | .say _ => none
  | .log source s => some (source, s)
  | .report s => some (.generation, s)

/-- The line of a log on the terminal. -/
def consoleLine? (n : Notice) : Option Text := n.logged?.map fun (_, s) => "[daisygen] DEBUG " ++ s

/-- The line of a log in a file, written at the given time. -/
def fileLine? (time : Text) (n : Notice) : Option Text :=
  n.logged?.map fun (source, s) =>
    time ++ " DEBUG " ++ loggerName (some source.part) ++ " [MainThread] " ++ s

end Notice
end Componentry
