import Componentry.Files.Path
import Componentry.Text.Blank
import Componentry.Text.Case
import Componentry.Text.Digits

/-!
Names made from paths and titles: components, modules, files and functions.
-/
namespace Componentry.Component
open Componentry.Text

def defaultNamespace : Text := "DaisyGen.Components"

def isLower (c : Char) : Bool := 'a' ≤ c && c ≤ 'z'

def isUpper (c : Char) : Bool := 'A' ≤ c && c ≤ 'Z'

def upperFirst : Text → Text
  | [] => []
  | c :: s => upperChar c ++ s

/-- The words between underscores, each with its first letter in upper case. -/
def camelize (s : Text) : Text := ((splitOn '_' s).filter (· ≠ [])).flatMap upperFirst

/-- The directory that holds a documentation file. -/
def directoryName (path : Text) : Text := (Path.ofText path).parent.name

def nameOfPath (path : Text) : Text := camelize (replace ['-'] ['_'] (directoryName path))

/-- By what a component is selected. -/
def keyOfPath (path : Text) : Text := lower (directoryName path)

def moduleName (base name : Text) : Text := base ++ '.' :: name

/-- A word ends between `c` and `d` if a capital follows a small letter or a digit, or if the next
word's capital is followed by a small letter. -/
def wordEnds (c d : Char) (rest : Text) : Bool :=
  ((isLower c || isDigit c) && isUpper d) ||
    (isUpper c && isUpper d && (rest.head?.map isLower).getD false)

@[grind =]
def underscored : Text → Text
  | c :: d :: s => if wordEnds c d s then c :: '_' :: underscored (d :: s) else c :: underscored (d :: s)
  | s => s

/-- `FileInput` becomes `file_input`. -/
def fileName (name : Text) : Text := lower (underscored name)

/-! ### Function names -/

/-- Glyphs of keys and arrows and the words that stand for them, in the order of replacement. -/
def symbolWords : List (Text × Text) := [
    ("⌘", "cmd"), ("⌥", "opt"), ("⇧", "shift"), ("⌃", "ctrl"), ("▲", "up"), ("▼", "down"),
    ("◀\ufe0e", "left"), ("◀", "left"), ("▶\ufe0e", "right"), ("▶", "right")]

def replaceSymbols (s : Text) : Text := symbolWords.foldl (fun s e => replace e.1 e.2 s) s

/-- Words that are left out at either end of a title. -/
def componentWords : List Text := ["button", "badge", "card", "alert"]

def dropFirstWord (s : Text) : Text :=
  match componentWords.findSome? fun w => after? w s with
  | some rest => if (rest.head?.map isBlank).getD false then rest.dropWhile isBlank else s
  | none => s

/-- The last word goes with the blanks before it; one line feed may follow it. -/
def dropLastWord (s : Text) : Text :=
  let (ending, backward) : Text × Text := match s.reverse with
    | '\n' :: t => (['\n'], t)
    | t => ([], t)
  let dropped (t : Text) : Option Text :=
    (componentWords.findSome? fun w => after? w.reverse t).bind fun rest =>
      if (rest.head?.map isBlank).getD false then some (rest.dropWhile isBlank).reverse else none
  match dropped backward with
  | some t => t ++ ending
  | none => s

def isSlugChar (c : Char) : Bool := isLower c || isDigit c || c = '_' || isBlank c

/-- Each run of blanks becomes one underscore. -/
def joinBlanks : Text → Text
  | [] => []
  | c :: s =>
    if isBlank c then
      if (s.head?.map isBlank).getD false then joinBlanks s else '_' :: joinBlanks s
    else c :: joinBlanks s

/-- The identifier of a title. -/
def slug (title : Text) : Text :=
  let kept := (dropLastWord (dropFirstWord (lower (replaceSymbols title)))).filter isSlugChar
  match trimWhere (· = '_') (joinBlanks kept) with
  | [] => "example"
  | c :: s => if isDigit c then '_' :: c :: s else c :: s

end Componentry.Component
