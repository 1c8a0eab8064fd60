import Componentry.Markup.Tag
import Componentry.Markup.Declaration
import Componentry.Markup.RunningText

/-!
From text to tokens. The text is read twice: the first reading stops where more text could change
the meaning of what it sees, the second goes on from there knowing that nothing follows.
-/
namespace Componentry.Markup
open Componentry.Text

/-- Markup after its angle bracket; a bracket that opens nothing is text. -/
def markup (raw : Option Text) (s : Text) : Reading :=
  match s with
  | [] => .incomplete
  | '/' :: t => endTag raw t
  | '!' :: t => declaration t
  | '?' :: t =>
    match cut? '>' t with
    | some (_, r) => .read [.directive] none r
    | none => .incomplete
  | c :: t => if isLetter c then startTag (c :: t) else .read [.data ['<']] none (c :: t)

def isText (c : Char) : Bool := !(c = '<' || c = '&')

inductive Step where
  | go (tokens : List Token) (raw : Option Text) (rest : Text)
  | halt (tokens : List Token) (rest : Text)
  | reject (why : Rejection)

/-- The text that stands for markup which never ends, and what follows it. -/
def unfinished (s : Text) : Text × Text :=
  match cut? '>' s with
  | some (a, r) => ('<' :: a ++ ['>'], r)
  | none => if '<' ∈ s then ('<' :: s.takeWhile (· ≠ '<'), s.dropWhile (· ≠ '<')) else (['<'], s)

def markupStep (final : Bool) (raw : Option Text) (s : Text) : Step :=
  match markup raw s with
  | .read tokens raw' rest => .go tokens raw' rest
  | .rejected why => .reject why
  | .incomplete =>
    if final then
      let (a, r) := unfinished s
      .go [.data a] raw r
    else .halt [] ('<' :: s)

/-- Letters are the same up to case, and two have further forms. -/
def sameLetter (lowered c : Char) : Bool :=
  c.toLower = lowered || (lowered = 's' && c = 'ſ') || (lowered = 'i' && (c = 'İ' || c = 'ı'))

def afterLetters? : Text → Text → Option Text
  | [], s => some s
  | _ :: _, [] => none
  | p :: ps, c :: s => if sameLetter p c then afterLetters? ps s else none

/-- The end tag of raw text stands at the head. -/
def closesRaw (name : Text) : Text → Bool
  | '<' :: '/' :: s =>
    match afterLetters? name (skipBlanks s) with
    | some r => (skipBlanks r).head? = some '>'
    | none => false
  | _ => false

/-- Raw text up to its end tag. -/
def untilClose (name : Text) : Text → Option (Text × Text)
  | [] => none
  | c :: s =>
    if closesRaw name (c :: s) then some ([], s)
    else (untilClose name s).map fun (a, b) => (c :: a, b)

/-- One step over a text, from its first character on. -/
@[grind =]
def step (final : Bool) (raw : Option Text) (s : Text) : Step :=
  match raw, s with
  | _, [] => .halt [] []
  | some name, c :: t =>
    match untilClose name (c :: t) with
    | none => .halt [] (c :: t)
    | some ([], r) => markupStep final raw r
    | some (d :: a, r) => .go [.data (d :: a)] raw ('<' :: r)
  | none, '<' :: t => markupStep final none t
  | none, '&' :: t =>
    match reference final t with
    | .read d r => .go [.data d] none r
    | .stop [] r => .halt [] r
    | .stop d r => .halt [.data d] r
    | .tooLong digits => .reject (.longNumber digits)
  | none, c :: t => .go [.data (c :: t.takeWhile isText)] none (t.dropWhile isText)

theorem length_markup_le {s rest : Text} {ts : List Token} {raw raw' : Option Text}
    (h : markup raw s = .read ts raw' rest) : rest.length ≤ s.length := by
  unfold markup at h
  split at h
  · cases h
  · have := length_endTag_lt h; simp; omega
  · have := length_declaration_le h; simp; omega
  · split at h
    · next hc => cases h; have := length_cut?_lt hc; simp; omega
    · cases h
  · split at h
    · exact length_startTag_le h
    · cases h; exact Nat.le_refl _

theorem length_unfinished_le (s : Text) : (unfinished s).2.length ≤ s.length := by
  unfold unfinished
  split
  · next hc => exact Nat.le_of_lt (length_cut?_lt hc)
  · split
    · exact length_dropWhile_le _ _
    · exact Nat.le_refl _

theorem length_markupStep_le {final : Bool} {s rest : Text} {ts : List Token}
    {raw raw' : Option Text} (h : markupStep final raw s = .go ts raw' rest) :
    rest.length ≤ s.length := by
  unfold markupStep at h
  split at h
  · next hm => cases h; exact length_markup_le hm
  · cases h
  · split at h
    · cases h; exact length_unfinished_le s
    · cases h

theorem length_untilClose_lt {name s a b : Text} (h : untilClose name s = some (a, b)) :
    a.length + b.length < s.length := by
  induction s generalizing a b with
  | nil => simp [untilClose] at h
  | cons c s ih =>
    simp only [untilClose] at h
    split at h
    · cases h; simp
    · simp only [Option.map_eq_some_iff] at h
      obtain ⟨⟨a', b'⟩, hr, he⟩ := h
      cases he
      have := ih hr
      simp; omega

/-- Each step leaves less to read. -/
theorem length_step_lt {final : Bool} {raw raw' : Option Text} {s rest : Text} {ts : List Token}
    (h : step final raw s = .go ts raw' rest) : rest.length < s.length := by
  unfold step at h
  split at h
  · cases h
  · split at h
    · cases h
    · next hu => have := length_untilClose_lt hu; have := length_markupStep_le h; simp at *; omega
    · next hu => cases h; have := length_untilClose_lt hu; simp at *; omega
  · have := length_markupStep_le h; simp; omega
  · split at h
    · next hr => cases h; have := length_reference_le hr; simp; omega
    · cases h
    · cases h
    · cases h
  · cases h; exact Nat.lt_succ_of_le (length_dropWhile_le _ _)

/-- What a reading found, and where and in which raw text it stopped. -/
structure Pass where
  tokens : List Token
  raw : Option Text
  rest : Text

def pass (final : Bool) (raw : Option Text) (s : Text) : Except Rejection Pass :=
  match _h : step final raw s with
  | .go tokens raw' rest => (pass final raw' rest).map fun p => { p with tokens := tokens ++ p.tokens }
  | .halt tokens rest => .ok ⟨tokens, raw, rest⟩
  | .reject why => .error why
termination_by s.length
decreasing_by exact length_step_lt _h

/-- A reading goes on from what its first step leaves. -/
theorem pass_eq (final : Bool) (raw : Option Text) (s : Text) :
    pass final raw s = match step final raw s with
      | .go tokens raw' rest => (pass final raw' rest).map fun p => { p with tokens := tokens ++ p.tokens }
      | .halt tokens rest => .ok ⟨tokens, raw, rest⟩
      | .reject why => .error why := by
  rw [pass]
  split <;> next h => rw [h]

/-- The tokens of a text. What the second reading leaves is data, or nothing if it is raw text. -/
def tokens (s : Text) : Except Rejection (List Token) := do
  let first ← pass false none s
  let second ← pass true first.raw first.rest
  let leftover := if second.raw.isNone && second.rest ≠ [] then [.data second.rest] else []
  return first.tokens ++ second.tokens ++ leftover

end Componentry.Markup
