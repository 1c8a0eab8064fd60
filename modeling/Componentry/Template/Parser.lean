import Componentry.Template.Basic
import Componentry.Text.Digits

/-!
Templates from their text. Conditions and comments take the line feed after them and the blanks
before them on their line; the last line feed of the text is dropped.
-/
namespace Componentry.Template
open Componentry.Text

/-- What the text of a template consists of. -/
inductive Segment where
  | text (s : Text)
  | expr (inside : Text)
  | tag (inside : Text)
  | unclosed

inductive Mark where
  | expr
  | tag
  | comment
  deriving DecidableEq

def Mark.opening : Mark → Text
  | .expr => ['\x7b', '\x7b']
  | .tag => ['\x7b', '%']
  | .comment => ['\x7b', '#']

def Mark.closing : Mark → Text
  | .expr => ['\x7d', '\x7d']
  | .tag => ['%', '\x7d']
  | .comment => ['#', '\x7d']

theorem Mark.closing_ne_nil (m : Mark) : m.closing ≠ [] := by cases m <;> simp [Mark.closing]

/-- The mark that opens here, and what follows it. -/
def mark? (s : Text) : Option (Mark × Text) :=
  [Mark.expr, .tag, .comment].findSome? fun m => (after? m.opening s).map (m, ·)

/-- The text before the first occurrence of `p` and the text after it. -/
def cutAt? (p : Text) : Text → Option (Text × Text)
  | [] => none
  | c :: s =>
    match after? p (c :: s) with
    | some r => some ([], r)
    | none => (cutAt? p s).map fun (a, b) => (c :: a, b)

theorem length_after?_le {p s r : Text} (h : after? p s = some r) : r.length ≤ s.length := by
  rw [eq_append_of_after? h]
  simp

theorem length_cutAt?_lt {p s a b : Text} (hp : p ≠ []) (h : cutAt? p s = some (a, b)) :
    b.length < s.length := by
  induction s generalizing a b with
  | nil => simp [cutAt?] at h
  | cons c s ih =>
    simp only [cutAt?] at h
    split at h
    · next r hr =>
      cases h
      rw [eq_append_of_after? hr]
      simp only [List.length_append]
      have := List.length_pos_iff.2 hp
      omega
    · simp only [Option.map_eq_some_iff] at h
      obtain ⟨⟨a', b'⟩, hr, he⟩ := h
      cases he
      exact Nat.lt_succ_of_lt (ih hr)

/-- The blanks that stand alone on the last line are dropped; `fresh` tells that the text begins a
line. -/
def stripLastLine (fresh : Bool) (s : Text) : Text :=
  let last := (s.reverse.takeWhile (· ≠ '\n')).reverse
  let before := s.take (s.length - last.length)
  if allBlank last && (fresh || before ≠ []) then before else s

def dropLineFeed : Text → Text × Bool
  | '\n' :: s => (s, true)
  | s => (s, false)

theorem length_dropLineFeed_le (s : Text) : (dropLineFeed s).1.length ≤ s.length := by
  unfold dropLineFeed
  split <;> simp

theorem length_mark?_le {s r : Text} {m : Mark} (h : mark? s = some (m, r)) :
    r.length ≤ s.length := by
  obtain ⟨m', -, hm⟩ := List.exists_of_findSome?_eq_some h
  obtain ⟨r', hr, he⟩ := Option.map_eq_some_iff.1 hm
  cases he
  exact length_after?_le hr

/-- The segments from here on; `before` holds the text since the last one, latest first. -/
def segments (fresh : Bool) (before : Text) (s : Text) : List Segment :=
  match s with
  | [] => [.text before.reverse]
  | c :: t =>
    match _hm : mark? (c :: t) with
    | none => segments fresh (c :: before) t
    | some (m, r) =>
      match _hc : cutAt? m.closing r with
      | none => [.unclosed]
      | some (inside, rest) =>
        match m with
        | .expr => .text before.reverse :: .expr inside :: segments false [] rest
        | .tag =>
          .text (stripLastLine fresh before.reverse) :: .tag inside ::
            segments (dropLineFeed rest).2 [] (dropLineFeed rest).1
        | .comment =>
          .text (stripLastLine fresh before.reverse) ::
            segments (dropLineFeed rest).2 [] (dropLineFeed rest).1
termination_by s.length
decreasing_by
  · simp
  all_goals
    have h₁ := length_cutAt?_lt (Mark.closing_ne_nil _) _hc
    have h₂ := length_mark?_le _hm
    have h₃ := length_dropLineFeed_le rest
    omega

def isNameStart (c : Char) : Bool := isLetter c || c = '_'

def isNamePart (c : Char) : Bool := isNameStart c || isDigit c

def isName : Text → Bool
  | [] => false
  | c :: s => isNameStart c && s.all isNamePart

def unexpected (s : Text) : Fault :=
  .malformed ("unexpected " ++ quoted (s.take 1))

/-- A dotted name. -/
def dotted (s : Text) : Except Fault Expr :=
  match (splitOn '.' s).map trim with
  | [] => .error (unexpected s)
  | n :: ns =>
    if (n :: ns).all isName then .ok (ns.foldl Expr.field (.name n)) else .error (unexpected s)

/-- The arguments of the margin: its width and whether the first line has it. -/
def marginArgs (args : List Text) : Option (Nat × Bool) :=
  match args with
  | [] => some (4, false)
  | w :: rest =>
    let width := (after? "width=" w).getD w
    if width ≠ [] && width.all isDigit then
      match rest with
      | [] => some (numeral 10 width, false)
      | [f] =>
        let flag := (after? "first=" f).getD f
        if flag ∈ [("True" : Text), "true"] then some (numeral 10 width, true)
        else if flag ∈ [("False" : Text), "false"] then some (numeral 10 width, false)
        else none
      | _ => none
    else none

/-- One filter applied to an expression. -/
def applyFilter (e : Expr) (s : Text) : Except Fault Expr :=
  let filter := trim s
  let name := filter.takeWhile isNamePart
  if name ≠ ("indent" : Text) then .error (.malformed ("No filter named " ++ quoted name ++ "."))
  else
    let args := match trim (filter.drop name.length) with
      | '(' :: r => ((splitOn ',' (r.takeWhile (· ≠ ')'))).map fun a => a.filter (!isBlank ·)).filter (· ≠ [])
      | _ => []
    match marginArgs args with
    | some (margin, first) => .ok (.indent e margin first)
    | none => .error (unexpected filter)

def Expr.ofText (s : Text) : Except Fault Expr :=
  match splitOn '|' s with
  | [] => .error (unexpected s)
  | base :: filters => (dotted base).bind fun e => filters.foldlM applyFilter e

/-- An open condition: the items before it, its expression, and its first branch once that has
ended. -/
structure Open where
  before : List Item
  cond : Expr
  yes : Option (List Item)

def missingEnd : Fault := .malformed
  "Unexpected end of template. Jinja was looking for the following tags: 'elif' or 'else' or 'endif'. The innermost block that needs to be closed is 'if'."

/-- The items of the segments, with the open conditions, innermost first, and the items read since
the last of them, latest first. -/
def items : List Open → List Item → List Segment → Except Fault (List Item)
  | [], done, [] => .ok done.reverse
  | _ :: _, _, [] => .error missingEnd
  | stack, done, .text s :: rest => items stack (if s = [] then done else .text s :: done) rest
  | stack, done, .expr inside :: rest =>
    (Expr.ofText inside).bind fun e => items stack (.expr e :: done) rest
  | _, _, .unclosed :: _ =>
    .error (.malformed "unexpected end of template, expected 'end of print statement'.")
  | stack, done, .tag inside :: rest =>
    let tag := trim inside
    let word := tag.takeWhile isNamePart
    if word = ("if" : Text) then
      (Expr.ofText (tag.drop 2)).bind fun e => items (⟨done, e, none⟩ :: stack) [] rest
    else if word = ("else" : Text) then
      match stack with
      | ⟨before, cond, none⟩ :: outer => items (⟨before, cond, some done.reverse⟩ :: outer) [] rest
      | _ => .error (.malformed "Encountered unknown tag 'else'.")
    else if word = ("endif" : Text) then
      match stack with
      | ⟨before, cond, none⟩ :: outer => items outer (.cond cond done.reverse [] :: before) rest
      | ⟨before, cond, some yes⟩ :: outer => items outer (.cond cond yes done.reverse :: before) rest
      | [] => .error (.malformed "Encountered unknown tag 'endif'.")
    else .error (.malformed ("Encountered unknown tag " ++ quoted word ++ "."))

/-- Without the line feed at the very end. -/
def dropFinalLineFeed (s : Text) : Text :=
  match s.reverse with
  | '\n' :: t => t.reverse
  | _ => s

def parse (s : Text) : Except Fault (List Item) :=
  items [] [] (segments true [] (dropFinalLineFeed (normaliseLineEnds s)))

end Componentry.Template
