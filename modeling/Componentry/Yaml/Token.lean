import Componentry.Yaml.Scalar
import Componentry.Text.Utf8

/-!
Tokens of YAML text. A key is known only by the colon after it, so places where one may begin are
remembered, and the tokens for it are put in there later.
-/
namespace Componentry.Yaml
open Componentry.Text

inductive Token where
  | version (major : Nat)
  | handle (name uri : Text)
  | reserved
  | documentStart
  | documentEnd
  | blockList
  | blockMap
  | blockEnd
  | flowList
  | flowListEnd
  | flowMap
  | flowMapEnd
  | dash
  | comma
  | key
  | value
  | alias (name : Text)
  | anchor (name : Text)
  | tag (handle : Option Text) (suffix : Text)
  | scalar (s : Text) (plain : Bool)
  /-- Nothing can be read from here on. -/
  | broken (f : Fault)
  deriving DecidableEq, Repr

/-- A place where a key may have begun. -/
structure KeyMark where
  /-- How many tokens come before it. -/
  place : Nat
  /-- Nothing else can stand there. -/
  required : Bool
  index : Nat
  line : Nat
  column : Nat

structure Lexer where
  cursor : Cursor
  /-- How many brackets are open. -/
  flow : Nat
  /-- The column of the innermost block, and those of the blocks around it. -/
  indent : Int
  indents : List Int
  /-- A key may begin here. -/
  keyAllowed : Bool
  /-- The last place for a key at each depth of brackets. -/
  marks : List (Nat × KeyMark)
  tokens : Array Token

namespace Lexer

def start (s : Text) : Lexer :=
  let c := Cursor.ofText s
  let c := if c.head = '\ufeff' then c.advance else c
  ⟨c, 0, -1, [], true, [], #[]⟩

def emit (l : Lexer) (t : Token) : Lexer := { l with tokens := l.tokens.push t }

def insert (l : Lexer) (place : Nat) (t : Token) : Lexer :=
  { l with tokens := (l.tokens.toList.insertIdx place t).toArray }

def head (l : Lexer) : Char := l.cursor.head

def moved (l : Lexer) (n : Nat) : Lexer := { l with cursor := Cursor.advanceBy n l.cursor }

/-- Closes the blocks that the column has left. -/
def closeBlocks (column : Int) : List Int → Lexer → Lexer
  | [], l => l
  | outer :: rest, l =>
    if l.indent > column then
      closeBlocks column rest { l.emit .blockEnd with indent := outer, indents := rest }
    else l

def unwind (l : Lexer) (column : Int) : Lexer :=
  if l.flow > 0 then l else closeBlocks column l.indents l

/-- Opens a block at a column beyond the present one, and tells whether it did. -/
def openBlock (l : Lexer) (column : Nat) : Lexer × Bool :=
  if l.indent < Int.ofNat column then
    ({ l with indent := Int.ofNat column, indents := l.indent :: l.indents }, true)
  else (l, false)

def dropMark (l : Lexer) : Except Fault Lexer :=
  match l.marks.lookup l.flow with
  | none => .ok l
  | some m =>
    if m.required then .error .missingColon
    else .ok { l with marks := l.marks.filter (·.1 ≠ l.flow) }

/-- Keys end on their line and within 1024 characters. -/
def dropStale (l : Lexer) : Except Fault Lexer :=
  let stale (m : KeyMark) : Bool := m.line ≠ l.cursor.line || l.cursor.index - m.index > 1024
  if l.marks.any fun m => stale m.2 && m.2.required then .error .missingColon
  else .ok { l with marks := l.marks.filter fun m => !stale m.2 }

def saveMark (l : Lexer) : Except Fault Lexer :=
  let required := l.flow = 0 && l.indent = Int.ofNat l.cursor.column
  if l.keyAllowed then do
    let l ← l.dropMark
    let m : KeyMark := ⟨l.tokens.size, required, l.cursor.index, l.cursor.line, l.cursor.column⟩
    return { l with marks := (l.flow, m) :: l.marks }
  else .ok l

/-- Skips blanks, comments and line ends; a new line outside brackets allows a key. -/
def skipGaps : Nat → Lexer → Lexer
  | 0, l => l
  | fuel + 1, l =>
    let c := l.cursor.skipSpaces
    let c := if c.head = '#' then c.skipWhile (!isBreakOrEnd ·) else c
    if isBreak c.head then
      skipGaps fuel { l with cursor := c.lineBreak.2, keyAllowed := l.keyAllowed || l.flow = 0 }
    else { l with cursor := c }

/-! ### Directives, anchors and tags -/

def word (c : Cursor) : Except Fault (Text × Cursor) :=
  let (s, c) := c.span isWordChar
  if s = [] then .error .name else .ok (s, c)

def number (c : Cursor) : Except Fault (Nat × Cursor) :=
  let (s, c) := c.span isDigit
  if s = [] then .error .directive
  else if s.length > digitLimit then .error (.scalar (.longInt s.length))
  else .ok (numeral 10 s, c)

/-- One or two exclamation marks, with a word between them. -/
def tagHandle (c : Cursor) : Except Fault (Text × Cursor) :=
  if c.head ≠ '!' then .error .tag
  else
    let c := c.advance
    if c.head = ' ' then .ok (['!'], c)
    else
      let (s, c) := c.span isWordChar
      if c.head = '!' then .ok (['!'] ++ s ++ ['!'], c.advance) else .error .tag

def isUriChar (x : Char) : Bool :=
  isWordChar x || x ∈ [';', '/', '?', ':', '@', '&', '=', '+', '$', ',', '.', '!', '~', '*', '\'', '(',
    ')', '[', ']']

/-- The bytes written as hexadecimal pairs after percent signs. -/
def uriBytes : Nat → Cursor → Except Fault (Bytes × Cursor)
  | 0, c => .ok ([], c)
  | fuel + 1, c =>
    if c.head = '%' then
      let digits := c.advance.rest.take 2
      if digits.length = 2 && digits.all isHexDigit then
        (uriBytes fuel (Cursor.advanceBy 3 c)).map fun (bs, c) => (UInt8.ofNat (numeral 16 digits) :: bs, c)
      else .error .tag
    else .ok ([], c)

def uriFrom : Nat → Cursor → Except Fault (Text × Cursor)
  | 0, c => .ok ([], c)
  | fuel + 1, c =>
    if c.head = '%' then do
      let (bs, c) ← uriBytes (c.rest.length + 1) c
      match decode bs with
      | .error _ => .error .tag
      | .ok s => (uriFrom fuel c).map fun (t, c) => (s ++ t, c)
    else if isUriChar c.head then
      (uriFrom fuel c.advance).map fun (t, c') => (c.head :: t, c')
    else .ok ([], c)

def uri (c : Cursor) : Except Fault (Text × Cursor) := do
  let (s, c) ← uriFrom (c.rest.length + 1) c
  if s = [] then .error .tag else .ok (s, c)

def directive (c : Cursor) : Except Fault (Token × Cursor) := do
  let (name, c) ← word c.advance
  if !isGapOrEnd c.head then .error .directive
  else if name = ("YAML" : Text) then
    let (major, c) ← number c.skipSpaces
    if c.head ≠ '.' then .error .directive
    else
      let (_, c) ← number c.advance
      if !isGapOrEnd c.head then .error .directive
      else return (.version major, ← c.restOfLine)
  else if name = ("TAG" : Text) then
    let (handle, c) ← tagHandle c.skipSpaces
    if c.head ≠ ' ' then .error .directive
    else
      let (prefixUri, c) ← uri c.skipSpaces
      if !isGapOrEnd c.head then .error .directive
      else return (.handle handle prefixUri, ← c.restOfLine)
  else return (.reserved, ← (c.skipWhile (!isBreakOrEnd ·)).restOfLine)

def isAnchorEnd (x : Char) : Bool :=
  isBlankOrEnd x || x ∈ ['?', ':', ',', ']', '\x7d', '%', '@', '\x60']

def anchorName (c : Cursor) : Except Fault (Text × Cursor) := do
  let (s, c) ← word c.advance
  if isAnchorEnd c.head then .ok (s, c) else .error .name

/-- Whether a second exclamation mark comes before the next blank. -/
def hasHandle (c : Cursor) : Bool := '!' ∈ c.advance.rest.takeWhile fun x => !isGapOrEnd x

def tagToken (c : Cursor) : Except Fault (Token × Cursor) := do
  let ended (t : Token) (c : Cursor) : Except Fault (Token × Cursor) :=
    if isGapOrEnd c.head then .ok (t, c) else .error .tag
  let next := c.at? 1
  if next = '<' then
    let (s, c) ← uri (Cursor.advanceBy 2 c)
    if c.head ≠ '>' then .error .tag else ended (.tag none s) c.advance
  else if isBlankOrEnd next then ended (.tag none ['!']) c.advance
  else if hasHandle c then
    let (handle, c) ← tagHandle c
    let (s, c) ← uri c
    ended (.tag (some handle) s) c
  else
    let (s, c) ← uri c.advance
    ended (.tag (some ['!']) s) c

/-! ### Steps -/

/-- A mark that begins or ends a document, at the start of a line. -/
def documentMark (l : Lexer) (t : Token) : Except Fault Lexer := do
  let l ← (l.unwind (-1)).dropMark
  return { (l.moved 3).emit t with keyAllowed := false }

def openBracket (l : Lexer) (t : Token) : Except Fault Lexer := do
  let l ← l.saveMark
  return { (l.moved 1).emit t with flow := l.flow + 1, keyAllowed := true }

def closeBracket (l : Lexer) (t : Token) : Except Fault Lexer := do
  let l ← l.dropMark
  if l.flow = 0 then .error .content
  else return { (l.moved 1).emit t with flow := l.flow - 1, keyAllowed := false }

def comma (l : Lexer) : Except Fault Lexer := do
  let l ← l.dropMark
  return { (l.moved 1).emit .comma with keyAllowed := true }

/-- A block opens here if the column lies beyond the present one; that takes a place for keys. -/
def beginBlock (l : Lexer) (t : Token) (what : Text) : Except Fault Lexer :=
  if l.flow > 0 then .ok l
  else if !l.keyAllowed then .error (.notHere what)
  else
    let (l, opened) := l.openBlock l.cursor.column
    .ok (if opened then l.emit t else l)

def dash (l : Lexer) : Except Fault Lexer := do
  let l ← l.beginBlock .blockList "list item"
  let l ← l.dropMark
  return { (l.moved 1).emit .dash with keyAllowed := true }

def explicitKey (l : Lexer) : Except Fault Lexer := do
  let l ← l.beginBlock .blockMap "key"
  let l ← l.dropMark
  return { (l.moved 1).emit .key with keyAllowed := l.flow = 0 }

/-- A colon. If a key may have begun before it, the tokens for the key are put in there. -/
def colon (l : Lexer) : Except Fault Lexer :=
  match l.marks.lookup l.flow with
  | some m =>
    let l := { l with marks := l.marks.filter (·.1 ≠ l.flow) }
    let l := l.insert m.place .key
    let l :=
      if l.flow > 0 then l
      else
        let (l, opened) := l.openBlock m.column
        if opened then l.insert m.place .blockMap else l
    .ok { (l.moved 1).emit .value with keyAllowed := false }
  | none => do
    let l ← l.beginBlock .blockMap "value"
    let l := { l with keyAllowed := l.flow = 0 }
    let l ← l.dropMark
    return (l.moved 1).emit .value

/-- A token read by `read`, before which a key may begin. -/
def keyPart (l : Lexer) (read : Cursor → Except Fault (Token × Cursor)) : Except Fault Lexer := do
  let l ← l.saveMark
  let (t, c) ← read l.cursor
  return { l.emit t with cursor := c, keyAllowed := false }

def block (l : Lexer) : Except Fault Lexer := do
  let l ← l.dropMark
  let (s, c) ← blockScalar l.indent l.cursor
  return { l.emit (.scalar s false) with cursor := c, keyAllowed := true }

def plain (l : Lexer) : Except Fault Lexer := do
  let l ← l.saveMark
  let p := plainScalar (l.flow > 0) (l.indent + 1) l.cursor
  return { l.emit (.scalar p.text true) with cursor := p.cursor, keyAllowed := p.newLine }

/-- Marks that begin no plain scalar, the last three unless a character follows them. -/
def marksNoPlain : List Char :=
  [',', '[', ']', '\x7b', '\x7d', '#', '&', '*', '!', '|', '>', '\'', '"', '%', '@', '\x60', '-', '?', ':']

def beginsPlain (l : Lexer) : Bool :=
  let x := l.head
  (!isBlankOrEnd x && x ∉ marksNoPlain) ||
    (!isBlankOrEnd (l.cursor.at? 1) && (x = '-' || (l.flow = 0 && (x = '?' || x = ':'))))

/-- The next token, after the gaps before it. -/
def step (l : Lexer) : Except Fault Lexer :=
  let x := l.head
  let ends := isBlankOrEnd (l.cursor.at? 1)
  let atStart := l.cursor.column = 0
  if x = '%' && atStart then do
    let l ← (l.unwind (-1)).dropMark
    let (t, c) ← directive l.cursor
    return { l.emit t with cursor := c, keyAllowed := false }
  else if x = '-' && atStart && l.cursor.separatorHere then l.documentMark .documentStart
  else if x = '.' && atStart && l.cursor.separatorHere then l.documentMark .documentEnd
  else if x = '[' then l.openBracket .flowList
  else if x = '\x7b' then l.openBracket .flowMap
  else if x = ']' then l.closeBracket .flowListEnd
  else if x = '\x7d' then l.closeBracket .flowMapEnd
  else if x = ',' then l.comma
  else if x = '-' && ends then l.dash
  else if x = '?' && (l.flow > 0 || ends) then l.explicitKey
  else if x = ':' && (l.flow > 0 || ends) then l.colon
  else if x = '*' then l.keyPart fun c => (anchorName c).map fun (s, c) => (.alias s, c)
  else if x = '&' then l.keyPart fun c => (anchorName c).map fun (s, c) => (.anchor s, c)
  else if x = '!' then l.keyPart tagToken
  else if (x = '|' || x = '>') && l.flow = 0 then l.block
  else if x = '\'' || x = '"' then
    l.keyPart fun c => (quotedScalar c).map fun (s, c) => (.scalar s false, c)
  else if l.beginsPlain then l.plain
  else .error (.character x)

/-- The tokens that are settled when nothing more can be read: those after a place where a key may have
begun are not. -/
def brokenBy (l : Lexer) (f : Fault) : List Token :=
  let settled := l.marks.foldl (fun n m => min n m.2.place) l.tokens.size
  l.tokens.toList.take settled ++ [.broken f]

def run : Nat → Lexer → List Token
  | 0, l => l.brokenBy .unfinished
  | fuel + 1, l =>
    let l := skipGaps (l.cursor.rest.length + 1) l
    match l.dropStale with
    | .error f => l.brokenBy f
    | .ok l =>
      if l.cursor.rest = [] then
        match (l.unwind (-1)).dropMark with
        | .error f => l.brokenBy f
        | .ok l => l.tokens.toList
      else
        match (l.unwind (Int.ofNat l.cursor.column)).step with
        | .error f => l.brokenBy f
        | .ok l => run fuel l

end Lexer

/-- Characters that a YAML text may hold. -/
def isPrintable (c : Char) : Bool :=
  let n := c.toNat
  n = 9 || n = 10 || n = 13 || (0x20 ≤ n && n ≤ 0x7E) || n = 0x85 || (0xA0 ≤ n && n ≤ 0xFFFD) ||
    0x10000 ≤ n

/-- The tokens of a text, up to a place where none can be read. Each step reads at least one character. -/
def tokens (s : Text) : List Token :=
  match s.find? (!isPrintable ·) with
  | some c => [.broken (.unprintable c)]
  | none => Lexer.run (s.length + 1) (Lexer.start s)

end Componentry.Yaml
