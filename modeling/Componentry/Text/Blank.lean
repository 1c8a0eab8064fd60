import Componentry.Text.Basic

/-!
Blank characters and line separators of every script, and the cuts made at them.
-/
namespace Componentry.Text

/-- White space in the wide sense: the ASCII blanks, the four information separators, and the
spaces and separators of Unicode. The zero-width ones are not blank. -/
def isBlank (c : Char) : Bool :=
  let n := c.toNat
  (9 ≤ n && n ≤ 13) || (28 ≤ n && n ≤ 32) || n = 0x85 || n = 0xA0 || n = 0x1680 ||
    (0x2000 ≤ n && n ≤ 0x200A) || n = 0x2028 || n = 0x2029 || n = 0x202F || n = 0x205F || n = 0x3000

/-- Characters that end a line. -/
def isLineBreak (c : Char) : Bool :=
  let n := c.toNat
  (10 ≤ n && n ≤ 13) || (28 ≤ n && n ≤ 30) || n = 0x85 || n = 0x2028 || n = 0x2029

theorem isBlank_of_isLineBreak {c : Char} (h : isLineBreak c = true) : isBlank c = true := by
  simp only [isLineBreak, isBlank, Bool.or_eq_true, Bool.and_eq_true, decide_eq_true_eq] at h ⊢
  omega

def trim (s : Text) : Text := trimWhere isBlank s

def trimEnd (s : Text) : Text := (s.reverse.dropWhile isBlank).reverse

/-- Nothing but blanks. -/
def allBlank (s : Text) : Bool := s.all isBlank

def wordsFrom : Text → Text → List Text
  | word, [] => if word = [] then [] else [word.reverse]
  | word, c :: s =>
    if isBlank c then
      if word = [] then wordsFrom [] s else word.reverse :: wordsFrom [] s
    else wordsFrom (c :: word) s

/-- The maximal runs of characters that are not blank. -/
def words (s : Text) : List Text := wordsFrom [] s

@[grind =]
def linesFrom : Text → Text → List Text
  | line, [] => if line = [] then [] else [line.reverse]
  | line, '\r' :: '\n' :: s => line.reverse :: linesFrom [] s
  | line, c :: s =>
    if isLineBreak c then line.reverse :: linesFrom [] s else linesFrom (c :: line) s

/-- The lines of a text without their ends; a carriage return followed by a line feed is one end,
and nothing follows the last end. -/
def lines (s : Text) : List Text := linesFrom [] s

/-- Every line end of the ASCII kinds becomes a line feed. -/
def normaliseLineEnds : Text → Text
  | [] => []
  | '\r' :: '\n' :: s => '\n' :: normaliseLineEnds s
  | c :: s => (if c = '\r' then '\n' else c) :: normaliseLineEnds s

end Componentry.Text
