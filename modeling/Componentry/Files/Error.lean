import Componentry.Files.Path
import Componentry.Text.Utf8

/-!
Why an operation on files fails, and how that is told.
-/
namespace Componentry.Files
open Componentry.Text

inductive Failure where
  | missing
  | exists
  | notDirectory
  | isDirectory
  | nameTooLong
  | tooManyLinks
  deriving DecidableEq, Repr

namespace Failure

def code : Failure → Nat
  | .missing => 2
  | .exists => 17
  | .notDirectory => 20
  | .isDirectory => 21
  | .nameTooLong => 36
  | .tooManyLinks => 40

def wording : Failure → Text
  | .missing => "No such file or directory"
  | .exists => "File exists"
  | .notDirectory => "Not a directory"
  | .isDirectory => "Is a directory"
  | .nameTooLong => "File name too long"
  | .tooManyLinks => "Too many levels of symbolic links"

end Failure

/-- A failure at a path, or at two when a file was to be moved. -/
structure FileError where
  failure : Failure
  path : Text
  target : Option Text
  deriving DecidableEq, Repr

def FileError.message (e : FileError) : Text :=
  "[Errno " ++ ofNat e.failure.code ++ "] " ++ e.failure.wording ++ ": " ++ quoted e.path ++
    match e.target with
    | some t => " -> " ++ quoted t
    | none => []

/-- A text file cannot be opened, or holds no text. -/
inductive ReadError where
  | file (e : FileError)
  | malformed (m : Malformed)

def ReadError.message : ReadError → Text
  | .file e => e.message
  | .malformed m => m.message

/-- A link that leads back to itself; the path where following it was given up. -/
structure LinkLoop where
  path : Path

def LinkLoop.message (l : LinkLoop) : Text := "Symlink loop from " ++ quoted l.path.toText

end Componentry.Files
