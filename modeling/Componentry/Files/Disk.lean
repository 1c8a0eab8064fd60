import Componentry.Files.Error
import Componentry.Text.Blank

/-!
A file system with a working directory. Names lead from place to place; links are followed on the
way, up to a limit, and dots lead to the directory above the place reached so far.
-/
namespace Componentry.Files
open Componentry.Text

/-- The names from the root down. -/
abbrev Place := List Text

inductive Entry where
  | file (content : Bytes)
  | directory
  | link (target : Text)
  deriving DecidableEq

structure Disk where
  entries : List (Place × Entry)
  cwd : Place
  home : Text

namespace Disk

/-- What is at a place; the root is always a directory. -/
def get? (d : Disk) (p : Place) : Option Entry :=
  if p = [] then some .directory else d.entries.lookup p

def erase (d : Disk) (p : Place) : Disk := { d with entries := d.entries.filter (·.1 ≠ p) }

def put (d : Disk) (p : Place) (e : Entry) : Disk :=
  { d with entries := (p, e) :: (d.erase p).entries }

theorem lookup_filter_of_keep {q : Place} (keep : Place → Bool) (es : List (Place × Entry)) (h : keep q = true) :
    (es.filter fun e => keep e.1).lookup q = es.lookup q := by
  induction es with
  | nil => rfl
  | cons e es ih =>
    obtain ⟨r, e⟩ := e
    rw [List.filter_cons, List.lookup_cons]
    by_cases hr : q = r
    · subst hr
      rw [if_pos h, List.lookup_cons]
      simp
    · have hb : (q == r) = false := by simpa using hr
      rw [hb, ← ih]
      split
      · rw [List.lookup_cons, hb]
      · rfl

theorem get?_put_of_ne {d : Disk} {p q : Place} {e : Entry} (h : q ≠ p) :
    (d.put p e).get? q = d.get? q := by
  unfold get? put erase
  split
  · rfl
  · have hb : (q == p) = false := by simpa using h
    simp only [List.lookup_cons, hb]
    exact lookup_filter_of_keep (fun r => r ≠ p) _ (by simpa using h)

theorem get?_put_self {d : Disk} {p : Place} {e : Entry} (h : p ≠ []) :
    (d.put p e).get? p = some e := by
  simp [get?, put, h]

theorem get?_erase_of_ne {d : Disk} {p q : Place} (h : q ≠ p) :
    (d.erase p).get? q = d.get? q := by
  unfold get? erase
  split
  · rfl
  · exact lookup_filter_of_keep (fun r => r ≠ p) _ (by simpa using h)

/-- The names in a directory. -/
def children (d : Disk) (p : Place) : List Text :=
  d.entries.filterMap fun e => if e.1 ≠ [] ∧ e.1.dropLast = p then e.1.getLast? else none

/-- Where names lead: to something there, or to a free place in a directory. -/
inductive Spot where
  | found (place : Place) (entry : Entry)
  | free (place : Place)

/-- The longest name a directory takes, in bytes. -/
def longestName : Nat := 255

/-- How many links are followed on one way. -/
def mostLinks : Nat := 40

/-- Follows names from a directory up to the first link on the way, where `jump` goes on from the
directory that the link's target starts from. A link at the very end counts only if `follow` holds. -/
@[grind =]
def walkNames (d : Disk) (follow : Bool) (jump : Place → List Text → Except Failure Spot)
    (here : Place) : List Text → Except Failure Spot
  | [] =>
    match d.get? here with
    | some e => .ok (.found here e)
    | none => .error .missing
  | name :: rest =>
    if name = (".." : Text) then d.walkNames follow jump here.dropLast rest
    else if (encode name).length > longestName then .error .nameTooLong
    else
      let next := here ++ [name]
      match d.get? next with
      | none => if rest = [] then .ok (.free next) else .error .missing
      | some (.file content) =>
        if rest = [] then .ok (.found next (.file content)) else .error .notDirectory
      | some .directory => d.walkNames follow jump next rest
      | some (.link target) =>
        if rest = [] ∧ !follow then .ok (.found next (.link target))
        else
          let path := Path.ofText target
          jump (if path.isAbsolute then [] else here) (path.parts ++ rest)

/-- Follows names from a directory, through as many links as are left. -/
def walk (d : Disk) (follow : Bool) : Nat → Place → List Text → Except Failure Spot
  | 0 => d.walkNames follow fun _ _ => .error .tooManyLinks
  | links + 1 => d.walkNames follow (d.walk follow links)

/-- Where a path leads from the working directory. -/
def locate (d : Disk) (follow : Bool) (p : Path) : Except Failure Spot :=
  d.walk follow mostLinks (if p.isAbsolute then [] else d.cwd) p.parts

def failed {α : Type} (p : Path) (f : Failure) : Except FileError α := .error ⟨f, p.toText, none⟩

def entry? (d : Disk) (p : Path) : Option Entry :=
  match d.locate true p with
  | .ok (.found _ e) => some e
  | _ => none

def present (d : Disk) (p : Path) : Bool := (d.entry? p).isSome

def isDirectory (d : Disk) (p : Path) : Bool :=
  match d.entry? p with
  | some .directory => true
  | _ => false

/-- As it is told apart from a failure: nothing leads over a name too long, and a path with a null
character leads nowhere. -/
def directory? (d : Disk) (p : Path) : Except FileError Bool :=
  if p.hasNull then .ok false
  else
    match d.locate true p with
    | .error .nameTooLong => failed p .nameTooLong
    | .ok (.found _ .directory) => .ok true
    | _ => .ok false

def isFile (d : Disk) (p : Path) : Bool :=
  match d.entry? p with
  | some (.file _) => true
  | _ => false

def readBytes (d : Disk) (p : Path) : Except FileError Bytes :=
  match d.locate true p with
  | .error f => failed p f
  | .ok (.free _) => failed p .missing
  | .ok (.found _ (.file content)) => .ok content
  | .ok (.found _ _) => failed p .isDirectory

/-- A text file with its line ends made line feeds. -/
def readText (d : Disk) (p : Path) : Except ReadError Text :=
  match d.readBytes p with
  | .error e => .error (.file e)
  | .ok content =>
    match decode content with
    | .error m => .error (.malformed m)
    | .ok s => .ok (normaliseLineEnds s)

end Disk
end Componentry.Files
