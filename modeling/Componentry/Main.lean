import Componentry.Command.Run

/-!
The program on the file system it finds. It is given the part that its arguments lead to, and what it
changes there is written back. Fetching programs cannot be started from here.
-/
namespace Componentry.Program
open Componentry.Files

abbrev Entries := List (Place × Entry)

def pathOf (p : Place) : String := String.ofList (Path.mk ['/'] p).toText

def placeOf (path : String) : Place := (Path.ofText path).parts

/-- The directories above a place, and the place itself. -/
def wayTo (p : Place) : Entries :=
  (List.range p.length).map fun n => (p.take (n + 1), .directory)

/-- Where a link leads, or nowhere. -/
def linkEnd (path : String) : IO Text := do
  try
    return (← IO.FS.realPath path).toString.toList
  catch _ => return ['?']

/-- All that is at a place and below it. -/
partial def contents (place : Place) : IO Entries := do
  let path := pathOf place
  match (← (← IO.FS.realPath path).metadata).type with
  | .dir =>
    let mut found : Entries := [(place, .directory)]
    for e in ← (← IO.FS.realPath path).readDir do
      let inner := place ++ [e.fileName.toList]
      match (← e.path.symlinkMetadata).type with
      | .dir => found := found ++ (← contents inner)
      | .symlink => found := found ++ [(inner, .link (← linkEnd (pathOf inner)))]
      | .file => found := found ++ [(inner, .file (← IO.FS.readBinFile (pathOf inner)).toList)]
      | .other => found := found
    return found
  | .file => return [(place, .file (← IO.FS.readBinFile path).toList)]
  | _ => return []

/-- What an argument may name: itself, or what follows an equals sign in it. -/
def named (arg : String) : List String :=
  match Text.cut? '=' arg.toList with
  | some (_, value) => [arg, String.ofList value]
  | none => [arg]

/-- The real place of a path that is there. -/
def realPlace? (path : String) : IO (Option Place) := do
  try
    return some (placeOf (← IO.FS.realPath path).toString)
  catch _ => return none

/-- The disk below the working directory and below what the arguments name. -/
def snapshot (args : List String) : IO Disk := do
  let cwd := placeOf (← IO.currentDir).toString
  let home ← IO.getEnv "HOME"
  let mut entries := wayTo cwd ++ (← contents cwd)
  for arg in args.flatMap named do
    match ← realPlace? arg with
    | some p =>
      if !cwd.isPrefixOf p && p ≠ [] then
        entries := entries ++ wayTo p.dropLast ++ (← contents p)
    | none => entries := entries
  return ⟨entries, cwd, (home.getD "/").toList⟩

def shallowFirst (es : Entries) : Entries := es.mergeSort fun a b => a.1.length ≤ b.1.length

/-- Puts a file in its place as a whole. -/
def placeFile (path : String) (content : Text.Bytes) : IO Unit := do
  let part := path ++ ".part"
  IO.FS.writeBinFile part (ByteArray.mk content.toArray)
  IO.FS.rename part path

def writeBack (old new : Disk) : IO Unit := do
  for (p, e) in (shallowFirst old.entries).reverse do
    if (new.get? p).isNone then
      match e with
      | .directory => IO.FS.removeDir (pathOf p)
      | _ => IO.FS.removeFile (pathOf p)
  for (p, e) in shallowFirst new.entries do
    if old.get? p ≠ some e then
      match e with
      | .directory => IO.FS.createDir (pathOf p)
      | .file content => placeFile (pathOf p) content
      | .link _ => pure ()

def run (args : List String) : IO UInt32 := do
  let disk ← snapshot args
  let time := (toString (← IO.monoMsNow)).toList
  let report := Command.run (args.map String.toList) time .missing disk
  writeBack disk report.disk
  IO.print (String.ofList report.out)
  IO.eprint (String.ofList report.err)
  match report.ending with
  | .exit status _ => return status.toUInt32
  | .crashed c =>
    IO.eprintln (String.ofList c.message)
    return 1

end Componentry.Program

def main (args : List String) : IO UInt32 := Componentry.Program.run args
