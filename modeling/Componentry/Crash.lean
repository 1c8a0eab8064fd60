import Componentry.Document.Example
import Componentry.Files.RealPath
import Componentry.Yaml.Fault

/-!
Failures that no part of the work answers for. They end the program.
-/
namespace Componentry
open Componentry.Files Componentry.Text

inductive Crash where
  | file (e : FileError)
  | malformed (m : Malformed)
  /-- The home directory of a user is not known. -/
  | noHome
  | loop (l : LinkLoop)
  | markup (f : Document.Fault)
  | setting (why : Yaml.ScalarFault)
  /-- A path has a null character in it. -/
  | nullCharacter

namespace Crash

def ofReadError : ReadError → Crash
  | .file e => .file e
  | .malformed m => .malformed m

def message : Crash → Text
  | .file e => e.message
  | .malformed m => m.message
  | .noHome => "Could not determine home directory."
  | .loop l => l.message
  | .markup f => f.message
  | .setting why => why.message
  | .nullCharacter => "embedded null byte"

end Crash
end Componentry
