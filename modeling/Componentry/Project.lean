import Componentry.Component.Name
import Componentry.Files.Disk
import Componentry.Text.Letters

/-!
The namespace that a project proposes for its components, from the name in its build file.
-/
namespace Componentry.Project
open Componentry.Component Componentry.Files Componentry.Text

def buildFile : Text := "mix.exs"

def isNameStart (c : Char) : Bool := isLower c || c = '_'

/-- The name declared at the head of a text. -/
def declared? (s : Text) : Option Text :=
  match ((after? "app:" s).getD []).dropWhile isBlank with
  | ':' :: c :: r =>
    if isNameStart c then some (c :: r.takeWhile fun x => isNameStart x || isDigit x) else none
  | _ => none

/-- The first declaration that does not begin inside a word. -/
def findDeclared (inWord : Bool) : Text → Option Text
  | [] => none
  | c :: s =>
    match if inWord then none else declared? (c :: s) with
    | some name => some name
    | none => findDeclared (isWordChar c) s

/-- A project without a build file has no name. -/
def appName? (d : Disk) (root : Path) : Except ReadError (Option Text) :=
  match d.readText (root.child buildFile) with
  | .ok s => .ok (findDeclared false s)
  | .error (.file ⟨.missing, _, _⟩) | .error (.file ⟨.notDirectory, _, _⟩) => .ok none
  | .error e => .error e

/-- Components of an application with a web part belong to that part. -/
def namespaceOf (d : Disk) (root : Path) : Except ReadError Text :=
  (appName? d root).map fun
    | none => defaultNamespace
    | some app =>
      let web := d.isDirectory ((root.child "lib").child (app ++ "_web"))
      camelize app ++ (if web then ("Web" : Text) else []) ++ ".Components"

end Componentry.Project
