import Componentry.Markup.Token
import Componentry.Markup.Reference
import Componentry.Text.Case

/-!
Start and end tags. An attribute begins only after a quote, a blank or a slash, and a tag whose text
does not end like one is data.
-/
namespace Componentry.Markup
open Componentry.Text

def isQuote (c : Char) : Bool := c = '"' || c = '\''

def isNameChar (c : Char) : Bool :=
  !(c = '\t' || c = '\n' || c = '\r' || c = '\x0c' || c = ' ' || c = '/' || c = '>' || c = '\x00')

/-- Skips blanks and the slashes that do not end the tag. -/
def skipGaps : Text → Text
  | [] => []
  | c :: s => if isBlank c || (c = '/' && s.head? ≠ some '>') then skipGaps s else c :: s

theorem length_skipGaps_le (s : Text) : (skipGaps s).length ≤ s.length := by
  induction s with
  | nil => exact Nat.le_refl _
  | cons c s ih =>
    simp only [skipGaps]
    split
    · exact Nat.le_succ_of_le ih
    · exact Nat.le_refl _

/-- An attribute begins after a quote, a blank or a slash. -/
def opensAttribute (before : Char) : Bool := isQuote before || isBlank before || before = '/'

def isAttrStart (c : Char) : Bool := !(isBlank c || c = '/' || c = '>')

def isAttrChar (c : Char) : Bool := !(isBlank c || c = '/' || c = '=' || c = '>')

def isBareChar (c : Char) : Bool := !(isBlank c || c = '>')

/-- The value after an attribute's name, with the last character read and the rest. A quote that is
never closed opens no value: then the value is empty if blanks stand between the equals sign and
the quote, and begins with the last of several equals signs if none do. -/
def attrValue? (s : Text) : Option (Text × Char × Text) :=
  let afterName := skipBlanks s
  let equals := afterName.takeWhile (· = '=')
  let afterEquals := afterName.dropWhile (· = '=')
  let rest := skipBlanks afterEquals
  if equals = [] then none
  else match rest with
    | [] => some ([], '=', [])
    | q :: body =>
      if isQuote q then
        match cut? q body with
        | some (v, r) => some (v, q, r)
        | none =>
          if rest ≠ afterEquals then some ([], ' ', rest)
          else if equals.length ≥ 2 then
            some ('=' :: rest.takeWhile isBareChar, '=', rest.dropWhile isBareChar)
          else none
      else some (rest.takeWhile isBareChar, '=', rest.dropWhile isBareChar)

theorem length_attrValue?_le {s v r : Text} {c : Char} (h : attrValue? s = some (v, c, r)) :
    r.length ≤ s.length := by
  have h₁ := length_skipBlanks_le s
  have h₂ := length_dropWhile_le (· = '=') (skipBlanks s)
  have h₃ := length_skipBlanks_le ((skipBlanks s).dropWhile (· = '='))
  have h₄ := length_dropWhile_le isBareChar (skipBlanks ((skipBlanks s).dropWhile (· = '=')))
  unfold attrValue? at h
  simp only at h
  split at h
  · simp at h
  · split at h
    · cases h; simp
    · next q body hb =>
      have h₅ : (skipBlanks ((skipBlanks s).dropWhile (· = '='))).length = body.length + 1 := by
        rw [hb]; rfl
      split at h
      · split at h
        · next v' r' hc =>
          cases h
          have := length_cut?_lt hc
          omega
        · split at h
          · cases h; omega
          · split at h
            · cases h; omega
            · simp at h
      · cases h; omega

/-- The attributes from here on, their values still unread, and the rest of the tag. -/
@[grind =]
def attributes (before : Char) (s : Text) : List (Text × Text) × Text :=
  match s with
  | [] => ([], [])
  | c :: t =>
    if opensAttribute before && isAttrStart c then
      let name := c :: t.takeWhile isAttrChar
      let afterName := t.dropWhile isAttrChar
      match _h : attrValue? afterName with
      | some (value, last, r) =>
        let more := attributes (if skipGaps r = r then last else ' ') (skipGaps r)
        ((name, value) :: more.1, more.2)
      | none =>
        let last := name.getLast?.getD c
        let more := attributes (if skipGaps afterName = afterName then last else ' ') (skipGaps afterName)
        ((name, []) :: more.1, more.2)
    else ([], c :: t)
termination_by s.length
decreasing_by
  · have h₁ := length_attrValue?_le _h
    have h₂ := length_dropWhile_le isAttrChar t
    have h₃ := length_skipGaps_le r
    simp only [List.length_cons, afterName] at *; omega
  · have h₂ := length_dropWhile_le isAttrChar t
    have h₃ := length_skipGaps_le (t.dropWhile isAttrChar)
    simp only [List.length_cons, afterName] at *; omega

inductive TagEnd where
  | opened
  | selfClosed
  | malformed
  | incomplete
  deriving DecidableEq

structure TagText where
  name : Text
  attrs : List (Text × Text)
  ending : TagEnd
  rest : Text

def TagEnd.ofRest : Text → TagEnd × Text
  | [] => (.incomplete, [])
  | '>' :: r => (.opened, r)
  | '/' :: '>' :: r => (.selfClosed, r)
  | c :: r => (if isLetter c || c = '=' || c = '/' then .incomplete else .malformed, c :: r)

/-- A start tag from its name on. -/
def TagText.ofText (s : Text) : TagText :=
  let name := s.takeWhile isNameChar
  let afterName := s.dropWhile isNameChar
  let gap := skipGaps afterName
  let last := if gap = afterName then name.getLast?.getD ' ' else ' '
  let (attrs, r) := attributes last gap
  let (ending, rest) := TagEnd.ofRest r
  ⟨name, attrs, ending, rest⟩

theorem length_attributes_le (before : Char) (s : Text) :
    (attributes before s).2.length ≤ s.length := by
  fun_induction attributes before s with
  | case1 => exact Nat.le_refl _
  | case2 before c t _ name afterName value last r h more ih =>
    have h₁ := length_attrValue?_le h
    have h₂ := length_dropWhile_le isAttrChar t
    have h₃ := length_skipGaps_le r
    simp only [List.length_cons, afterName, more] at *; omega
  | case3 before c t _ name afterName h last more ih =>
    have h₂ := length_dropWhile_le isAttrChar t
    have h₃ := length_skipGaps_le (t.dropWhile isAttrChar)
    simp only [List.length_cons, afterName, more] at *; omega
  | case4 => exact Nat.le_refl _

theorem length_ofRest_le (r : Text) : (TagEnd.ofRest r).2.length ≤ r.length := by
  unfold TagEnd.ofRest
  split <;> grind

theorem length_ofText_le (s : Text) : (TagText.ofText s).rest.length ≤ s.length := by
  have h₁ := length_dropWhile_le isNameChar s
  have h₂ := length_skipGaps_le (s.dropWhile isNameChar)
  simp only [TagText.ofText]
  refine Nat.le_trans (length_ofRest_le _) (Nat.le_trans (length_attributes_le _ _) ?_)
  omega

def resolveAttrs (attrs : List (Text × Text)) : Except Nat (List (Text × Text)) :=
  attrs.mapM fun a => do return (lower a.1, ← resolveValue a.2)

/-- Elements whose content is raw text. -/
def isRawName (name : Text) : Bool := name = ("script" : Text) || name = ("style" : Text)

/-- A start tag after its angle bracket. -/
def startTag (s : Text) : Reading :=
  let tag := TagText.ofText s
  match tag.ending with
  | .incomplete => .incomplete
  | ending =>
    match resolveAttrs tag.attrs with
    | .error digits => .rejected (.longNumber digits)
    | .ok attrs =>
      let name := lower tag.name
      match ending with
      | .selfClosed => .read [.selfClosed name attrs] none tag.rest
      | .malformed => .read [.data ('<' :: s.take (s.length - tag.rest.length))] none tag.rest
      | _ => .read [.opening name attrs] (if isRawName name then some name else none) tag.rest

def isCloseChar (c : Char) : Bool :=
  isLetter c || isDigit c || c = '-' || c = '.' || c = ':' || c = '_'

/-- The name in a well-formed end tag, among blanks. -/
def closeName? (inside : Text) : Option Text :=
  let name := trimWhere isBlank inside
  match name with
  | c :: r => if isLetter c && r.all isCloseChar then some (lower name) else none
  | [] => none

/-- An end tag after its slash. Inside raw text only the element's own end tag counts. -/
def endTag (raw : Option Text) (s : Text) : Reading :=
  match cut? '>' s with
  | none => .incomplete
  | some (inside, rest) =>
    match closeName? inside, raw, inside with
    | some name, none, _ => .read [.closing name] none rest
    | some name, some element, _ =>
      if name = element then .read [.closing name] none rest
      else .read [.data ("</" ++ inside ++ ['>'])] raw rest
    | none, some _, _ => .read [.data ("</" ++ inside ++ ['>'])] raw rest
    | none, none, [] => .read [] none rest
    | none, none, c :: t =>
      if isLetter c then .read [.closing (lower ((c :: t).takeWhile isNameChar))] none rest
      else .read [.comment inside] none rest

theorem length_startTag_le {s rest : Text} {ts : List Token} {raw : Option Text}
    (h : startTag s = .read ts raw rest) : rest.length ≤ s.length := by
  have hl := length_ofText_le s
  unfold startTag at h
  simp only at h
  split at h
  · cases h
  · split at h
    · cases h
    · split at h <;> cases h <;> exact hl

theorem length_endTag_lt {s rest : Text} {ts : List Token} {raw raw' : Option Text}
    (h : endTag raw s = .read ts raw' rest) : rest.length < s.length := by
  unfold endTag at h
  split at h
  · cases h
  · next inside r hc =>
    have hl := length_cut?_lt hc
    split at h
    · cases h; exact hl
    · split at h <;> cases h <;> exact hl
    · cases h; exact hl
    · cases h; exact hl
    · split at h <;> cases h <;> exact hl

end Componentry.Markup
