import Componentry.Yaml.Cursor
import Componentry.Text.Digits

/-!
Scalars as they are written: plain, quoted, and in blocks. Line ends inside are folded.
-/
namespace Componentry.Yaml
open Componentry.Text

/-! ### Quoted scalars -/

/-- What a backslash and one character stand for. -/
def escapes : List (Char × Char) := [
    ('0', '\x00'), ('a', '\x07'), ('b', '\x08'), ('t', '\t'), ('\t', '\t'), ('n', '\n'), ('v', '\x0b'),
    ('f', '\x0c'), ('r', '\r'), ('e', '\x1b'), (' ', ' '), ('"', '"'), ('\\', '\\'), ('/', '/'),
    ('N', '\x85'), ('_', '\xa0'), ('L', '\u2028'), ('P', '\u2029')]

/-- How many hexadecimal digits follow. -/
def escapeWidth? : Char → Option Nat
  | 'x' => some 2
  | 'u' => some 4
  | 'U' => some 8
  | _ => none

def lastCodePoint : Nat := 0x10FFFF

/-- Empty lines inside a quoted scalar; `fuel` bounds their number. -/
def quotedBreaks : Nat → Cursor → Except Fault (Text × Cursor)
  | 0, c => .ok ([], c)
  | fuel + 1, c =>
    if c.separatorHere then .error (.notHere "document separator")
    else
      let c := c.skipWhile fun x => x = ' ' || x = '\t'
      if isBreak c.head then
        let (b, c) := c.lineBreak
        (quotedBreaks fuel c).map fun (s, c) => (b ++ s, c)
      else .ok ([], c)

/-- Blanks or a fold inside a quoted scalar. -/
def quotedSpaces (c : Cursor) : Except Fault (Text × Cursor) :=
  let (blanks, c) := c.span fun x => x = ' ' || x = '\t'
  if c.head = stop then .error .unfinished
  else if isBreak c.head then
    let (b, c) := c.lineBreak
    (quotedBreaks (c.rest.length + 1) c).map fun (more, c) =>
      ((if b ≠ ['\n'] then b else if more = [] then [' '] else []) ++ more, c)
  else .ok (blanks, c)

/-- An escape after its backslash. -/
def escaped (c : Cursor) : Except Fault (Text × Cursor) :=
  match escapes.lookup c.head with
  | some x => .ok ([x], c.advance)
  | none =>
    match escapeWidth? c.head with
    | some width =>
      let c := c.advance
      let digits := c.rest.take width
      let n := numeral 16 digits
      if !(digits.length = width && digits.all isHexDigit) then .error .escape
      else if n > lastCodePoint then .error (.scalar (.codePoint n))
      else if n.isValidChar then .ok ([Char.ofNat n], Cursor.advanceBy width c)
      else .error .escape
    | none =>
      if isBreak c.head then
        let c := c.lineBreak.2
        quotedBreaks (c.rest.length + 1) c
      else .error .escape

def isQuotedChar (x : Char) : Bool :=
  !(x = '\'' || x = '"' || x = '\\' || isBlankOrEnd x)

/-- The content of a quoted scalar after its first quote, up to and with its last. -/
def quotedFrom (double : Bool) : Nat → Cursor → Except Fault (Text × Cursor)
  | 0, _ => .error .unfinished
  | fuel + 1, c =>
    let (s, c) := c.span isQuotedChar
    let more (t : Text) (c : Cursor) : Except Fault (Text × Cursor) :=
      (quotedFrom double fuel c).map fun (u, c) => (s ++ t ++ u, c)
    let x := c.head
    if !double && x = '\'' && c.at? 1 = '\'' then more ['\''] (Cursor.advanceBy 2 c)
    else if (double && x = '\'') || (!double && (x = '"' || x = '\\')) then more [x] c.advance
    else if double && x = '\\' then do
      let (t, c) ← escaped c.advance
      more t c
    else if (double && x = '"') || (!double && x = '\'') then .ok (s, c.advance)
    else do
      let (t, c) ← quotedSpaces c
      more t c

def quotedScalar (c : Cursor) : Except Fault (Text × Cursor) :=
  quotedFrom (c.head = '"') (c.rest.length + 1) c.advance

/-! ### Plain scalars -/

/-- What a plain scalar yields: its text, the cursor after it, and whether a new line was begun at
its end. -/
structure Plain where
  text : Text
  cursor : Cursor
  newLine : Bool

def isFlowMark (x : Char) : Bool :=
  x = ',' || x = '[' || x = ']' || x = '\x7b' || x = '\x7d'

/-- The plain characters here; `flow` tells whether brackets are open. -/
def plainRun (flow : Bool) : Text → Text
  | [] => []
  | x :: r =>
    let next := r.head?.getD stop
    if isBlankOrEnd x || (x = ':' && (isBlankOrEnd next || (flow && isFlowMark next))) ||
        (flow && (x = '?' || isFlowMark x)) then []
    else x :: plainRun flow r

/-- Empty lines after a line end; nothing is returned before a document separator. -/
def plainBreaks : Nat → Cursor → Option Text × Cursor
  | 0, c => (some [], c)
  | fuel + 1, c =>
    if c.head = ' ' then plainBreaks fuel c.advance
    else if isBreak c.head then
      let (b, c) := c.lineBreak
      if c.separatorHere then (none, c)
      else
        let (s, c) := plainBreaks fuel c
        (s.map (b ++ ·), c)
    else (some [], c)

/-- The blanks or the fold after a run of plain characters, and whether a line was begun. -/
def plainSpaces (c : Cursor) : Text × Cursor × Bool :=
  let (blanks, c) := c.span (· = ' ')
  if isBreak c.head then
    let (b, c) := c.lineBreak
    if c.separatorHere then ([], c, true)
    else
      match plainBreaks (c.rest.length + 1) c with
      | (none, c) => ([], c, true)
      | (some more, c) => ((if b ≠ ['\n'] then b else if more = [] then [' '] else []) ++ more, c, true)
  else (blanks, c, false)

/-- A plain scalar that is continued on lines of at least the given indentation. -/
def plainFrom (flow : Bool) (indent : Int) (spaces : Text) : Nat → Plain → Plain
  | 0, p => p
  | fuel + 1, p =>
    let c := p.cursor
    let run := if c.head = '#' then [] else plainRun flow c.rest
    if run = [] then p
    else
      let text := p.text ++ spaces ++ run
      let (more, after, fresh) := plainSpaces (Cursor.advanceBy run.length c)
      let p : Plain := ⟨text, after, fresh⟩
      if more = [] || after.head = '#' || (!flow && Int.ofNat after.column < indent) then p
      else plainFrom flow indent more fuel p

def plainScalar (flow : Bool) (indent : Int) (c : Cursor) : Plain :=
  plainFrom flow indent [] (c.rest.length + 1) ⟨[], c, false⟩

/-! ### Block scalars -/

/-- What happens to the line ends at the end of a block. -/
inductive Chomping where
  | clip
  | strip
  | keep
  deriving DecidableEq

def chomping? : Char → Option Chomping
  | '+' => some .keep
  | '-' => some .strip
  | _ => none

/-- The indicators of a block scalar, in either order. -/
def blockHeader (c : Cursor) : Except Fault (Chomping × Option Nat × Cursor) :=
  let digit (c : Cursor) : Except Fault (Option Nat × Cursor) :=
    if isDigit c.head then
      if c.head = '0' then .error .value else .ok (some (c.head.toNat - 48), c.advance)
    else .ok (none, c)
  let done (chomp : Chomping) (width : Option Nat) (c : Cursor) :
      Except Fault (Chomping × Option Nat × Cursor) :=
    if isGapOrEnd c.head then .ok (chomp, width, c) else .error (.character c.head)
  match chomping? c.head with
  | some chomp => do
    let (width, c) ← digit c.advance
    done chomp width c
  | none => do
    let (width, c) ← digit c
    match width, chomping? c.head with
    | some n, some chomp => done chomp (some n) c.advance
    | width, _ => done .clip width c

/-- The empty lines before a block's first line, and the widest indentation among them. -/
def leadingBreaks : Nat → Nat → Cursor → Text × Nat × Cursor
  | 0, widest, c => ([], widest, c)
  | fuel + 1, widest, c =>
    if c.head = ' ' then
      let c := c.advance
      leadingBreaks fuel (max widest c.column) c
    else if isBreak c.head then
      let (b, c) := c.lineBreak
      let (s, widest, c) := leadingBreaks fuel widest c
      (b ++ s, widest, c)
    else ([], widest, c)

def skipIndent (indent : Nat) : Nat → Cursor → Cursor
  | 0, c => c
  | fuel + 1, c => if c.column < indent && c.head = ' ' then skipIndent indent fuel c.advance else c

/-- The empty lines before the next line of a block. -/
def blockBreaks (indent : Nat) : Nat → Cursor → Text × Cursor
  | 0, c => ([], c)
  | fuel + 1, c =>
    let c := skipIndent indent indent c
    if isBreak c.head then
      let (b, c) := c.lineBreak
      let (s, c) := blockBreaks indent fuel c
      (b ++ s, c)
    else ([], c)

/-- The lines of a block: their text, the end of the last line and the empty lines after it. -/
def blockLines (folded : Bool) (indent : Nat) (breaks : Text) :
    Nat → Cursor → Text × Text × Text × Cursor
  | 0, c => ([], [], breaks, c)
  | fuel + 1, c =>
    if c.column = indent && c.head ≠ stop then
      let spaced := c.head = ' ' || c.head = '\t'
      let (line, c) := c.span (!isBreakOrEnd ·)
      let (ending, c) := c.lineBreak
      let (more, c) := blockBreaks indent (c.rest.length + 1) c
      if c.column = indent && c.head ≠ stop then
        let joint := if folded && ending = ['\n'] && !spaced && !(c.head = ' ' || c.head = '\t') then
            (if more = [] then [' '] else [])
          else ending
        let (s, last, tail, c) := blockLines folded indent more fuel c
        (breaks ++ line ++ joint ++ s, last, tail, c)
      else (breaks ++ line, ending, more, c)
    else ([], [], breaks, c)

/-- A block scalar from its mark on, inside the given indentation. -/
def blockScalar (outer : Int) (c : Cursor) : Except Fault (Text × Cursor) := do
  let folded := c.head = '>'
  let (chomp, width, c) ← blockHeader c.advance
  let c ← c.restOfLine
  let least := (max (outer + 1) 1).toNat
  let (breaks, indent, c) := match width with
    | none =>
      let (breaks, widest, c) := leadingBreaks (c.rest.length + 1) 0 c
      (breaks, max least widest, c)
    | some n =>
      let indent := least + n - 1
      let (breaks, c) := blockBreaks indent (c.rest.length + 1) c
      (breaks, indent, c)
  let (s, ending, tail, c) := blockLines folded indent breaks (c.rest.length + 1) c
  let s := match chomp with
    | .strip => s
    | .clip => s ++ ending
    | .keep => s ++ ending ++ tail
  return (s, c)

end Componentry.Yaml
