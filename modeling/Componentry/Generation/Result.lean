import Componentry.Component.Spec
import Componentry.Files.Error
import Componentry.Template.Basic

/-!
What becomes of each component in a run.
-/
namespace Componentry.Generation
open Componentry.Component Componentry.Files

/-- Why a component was not generated. -/
inductive Reason where
  | unreadable (path : Text) (e : ReadError)
  | markup (f : Document.Fault)
  | template (f : Template.Fault)
  | unwritten (path : Text) (e : FileError)

def Reason.message : Reason → Text
  | .unreadable path e => "Failed to read " ++ path ++ ": " ++ e.message
  | .markup f => f.message
  | .template f => "Template error: " ++ f.message
  | .unwritten path e => "Failed to write " ++ path ++ ": " ++ e.message

inductive Result where
  | done (spec : Spec) (path : Text) (dryRun : Bool)
  | failed (component : Text) (why : Reason)

namespace Result

def isDone : Result → Bool
  | .done .. => true
  | .failed .. => false

def component : Result → Text
  | .done spec _ _ => spec.name
  | .failed name _ => name

end Result

/-- The results of a run, failures to read or parse first. -/
structure Summary where
  results : List Result
  outputDir : Path
  dryRun : Bool

namespace Summary

def done (s : Summary) : List Result := s.results.filter Result.isDone

def failed (s : Summary) : List Result := s.results.filter fun r => !r.isDone

end Summary
end Componentry.Generation
