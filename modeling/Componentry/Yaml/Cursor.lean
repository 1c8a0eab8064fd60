import Componentry.Yaml.Fault

/-!
A place in a YAML text, with its line and column. Beyond the end stands a NUL, which no text holds.
-/
namespace Componentry.Yaml

structure Cursor where
  rest : Text
  index : Nat
  line : Nat
  column : Nat

def stop : Char := '\x00'

def isBreak (c : Char) : Bool := c = '\n' || c = '\r' || c = '\x85' || c = '\u2028' || c = '\u2029'

def isBreakOrEnd (c : Char) : Bool := isBreak c || c = stop

def isGapOrEnd (c : Char) : Bool := isBreakOrEnd c || c = ' '

def isBlankOrEnd (c : Char) : Bool := isGapOrEnd c || c = '\t'

def isWordChar (c : Char) : Bool :=
  ('0' ≤ c && c ≤ '9') || ('a' ≤ c && c ≤ 'z') || ('A' ≤ c && c ≤ 'Z') || c = '-' || c = '_'

namespace Cursor

def ofText (s : Text) : Cursor := ⟨s, 0, 0, 0⟩

def at? (c : Cursor) (n : Nat) : Char := (c.rest[n]?).getD stop

def head (c : Cursor) : Char := c.rest.head?.getD stop

def advance (c : Cursor) : Cursor :=
  match c.rest with
  | [] => c
  | x :: r =>
    if isBreak x && !(x = '\r' && r.head? = some '\n') then ⟨r, c.index + 1, c.line + 1, 0⟩
    else ⟨r, c.index + 1, c.line, if x = '\ufeff' then c.column else c.column + 1⟩

def advanceBy : Nat → Cursor → Cursor
  | 0, c => c
  | n + 1, c => advanceBy n c.advance

/-- The characters from here on that satisfy `p`, and the cursor after them. -/
def span (c : Cursor) (p : Char → Bool) : Text × Cursor :=
  let s := c.rest.takeWhile p
  (s, advanceBy s.length c)

def skipWhile (c : Cursor) (p : Char → Bool) : Cursor := (c.span p).2

def skipSpaces (c : Cursor) : Cursor := c.skipWhile (· = ' ')

/-- A line end, as the text that stands for it; nothing if there is none here. -/
def lineBreak (c : Cursor) : Text × Cursor :=
  match c.rest with
  | '\r' :: '\n' :: _ => (['\n'], advanceBy 2 c)
  | x :: _ =>
    if x = '\u2028' || x = '\u2029' then ([x], c.advance)
    else if isBreak x then (['\n'], c.advance)
    else ([], c)
  | [] => ([], c)

/-- Three characters at the start of a line that begin or end a document. -/
def separatorHere (c : Cursor) : Bool :=
  let mark := c.rest.take 3
  (mark = ("---" : Text) || mark = ("..." : Text)) && isBlankOrEnd (c.at? 3)

/-- Blanks and a comment up to the end of the line. -/
def restOfLine (c : Cursor) : Except Fault Cursor :=
  let c := c.skipSpaces
  let c := if c.head = '#' then c.skipWhile (!isBreakOrEnd ·) else c
  if isBreakOrEnd c.head then .ok c.lineBreak.2 else .error (.character c.head)

end Cursor

end Componentry.Yaml
