import Componentry.Elixir.Literal
import Componentry.Proofs.Text.Span
import Componentry.Proofs.Text.Split

/-!
Literals of Elixir as its reader takes them: a backslash escapes the next character, and a number sign
before a brace begins an interpolation. A string ends at the first quote that is not escaped, a heredoc
at the first line that begins with three quotes.
-/
namespace Componentry.Elixir
open Componentry.Text

/-! ### Escapes -/

/-- What letters stand for after a backslash. An escaped line feed stands for nothing. -/
def escapes : List (Char × Text) := [
    ('0', ['\x00']), ('a', ['\x07']), ('b', ['\x08']), ('t', ['\t']), ('n', ['\n']), ('v', ['\x0b']),
    ('f', ['\x0c']), ('r', ['\r']), ('e', ['\x1b']), ('s', [' ']), ('d', ['\x7f']), ('\n', [])]

/-- What a character stands for after a backslash; escapes by number are not read. -/
def escaped? (c : Char) : Option Text :=
  if c = 'x' ∨ c = 'u' then none else some ((escapes.lookup c).getD [c])

/-- What the inside of a literal denotes, if it has no interpolation; `escaped` tells that a backslash
stands before it. -/
def unescapeFrom (escaped : Bool) : Text → Option Text
  | [] => if escaped then none else some []
  | c :: s =>
    if escaped then (escaped? c).bind fun t => (unescapeFrom false s).map (t ++ ·)
    else if c = '\\' then unescapeFrom true s
    else if c = '#' ∧ s.head? = some '\x7b' then none
    else (unescapeFrom false s).map (c :: ·)

def unescape (s : Text) : Option Text := unescapeFrom false s

/-- A text that denotes itself: it has neither an escape nor an interpolation. -/
structure DenotesItself (s : Text) : Prop where
  noEscape : '\\' ∉ s
  noInterpolation : contains ['#', '\x7b'] s = false

instance (s : Text) : Decidable (DenotesItself s) :=
  decidable_of_iff ('\\' ∉ s ∧ contains ['#', '\x7b'] s = false)
    ⟨fun h => ⟨h.1, h.2⟩, fun h => ⟨h.noEscape, h.noInterpolation⟩⟩

section Escape
variable {c : Char} {s t u : Text}

theorem denotesItself_nil : DenotesItself [] := ⟨List.not_mem_nil, rfl⟩

theorem startsWith_interpolation (c : Char) (s : Text) :
    startsWith ['#', '\x7b'] (c :: s) = decide (c = '#' ∧ s.head? = some '\x7b') := by
  by_cases hc : c = '#'
  · subst hc
    cases s with
    | nil => rfl
    | cons d s =>
      by_cases hd : d = '\x7b'
      · simp [startsWith, after?, hd]
      · simp [startsWith, after?, hd, Ne.symm hd]
  · simp [startsWith, after?, hc, Ne.symm hc]

theorem denotesItself_cons :
    DenotesItself (c :: s) ↔ c ≠ '\\' ∧ ¬(c = '#' ∧ s.head? = some '\x7b') ∧ DenotesItself s := by
  constructor
  · intro h
    have hinter := h.noInterpolation
    rw [contains, startsWith_interpolation, Bool.or_eq_false_iff, decide_eq_false_iff_not] at hinter
    exact ⟨fun he => h.noEscape (by simp [he]), hinter.1,
      fun hm => h.noEscape (List.mem_cons_of_mem c hm), hinter.2⟩
  · intro h
    obtain ⟨hc, hinter, hs⟩ := h
    refine ⟨by simpa [Ne.symm hc] using hs.noEscape, ?_⟩
    rw [contains, startsWith_interpolation, hs.noInterpolation, decide_eq_false hinter]
    rfl

/-- A character that begins neither an escape nor an interpolation, nor ends the beginning of one, parts
a text. -/
theorem denotesItself_append_cons (hc : c ≠ '\\' ∧ c ≠ '#' ∧ c ≠ '\x7b') :
    DenotesItself (u ++ c :: s) ↔ DenotesItself u ∧ DenotesItself s := by
  induction u with
  | nil => simp [denotesItself_cons, hc, denotesItself_nil]
  | cons d u ih =>
    have hhead : (u ++ c :: s).head? = some '\x7b' ↔ u.head? = some '\x7b' := by
      cases u with
      | nil => simp [hc.2.2]
      | cons e u => rfl
    rw [List.cons_append, denotesItself_cons, denotesItself_cons, ih, hhead, and_assoc, and_assoc]

theorem length_escaped? (h : escaped? c = some t) : t.length ≤ 1 := by
  have htable : ∀ e ∈ escapes, e.2.length ≤ 1 := by decide
  rw [escaped?] at h
  split at h
  · cases h
  · obtain rfl := Option.some.inj h
    cases hlook : escapes.lookup c with
    | none => exact Nat.le_refl 1
    | some t =>
      obtain ⟨before, after, hsplit, -⟩ := List.lookup_eq_some_iff.1 hlook
      exact htable (c, t) (by simp [hsplit])

theorem unescape_of_denotesItself (h : DenotesItself s) : unescape s = some s := by
  rw [unescape]
  induction s with
  | nil => rfl
  | cons c s ih =>
    obtain ⟨hc, hinter, hs⟩ := denotesItself_cons.1 h
    rw [unescapeFrom, if_neg Bool.false_ne_true, if_neg hc, if_neg hinter, ih hs]
    rfl

/-- Escapes make a text shorter when they are read. After a backslash one is read in any case. -/
theorem length_unescapeFrom (s : Text) :
    (∀ t, unescapeFrom true s = some t → t.length ≤ s.length) ∧
      ∀ t, unescapeFrom false s = some t → t = s ∧ DenotesItself s ∨ t.length < s.length := by
  induction s with
  | nil =>
    refine ⟨fun t h => ?_, fun t h => ?_⟩
    · cases h
    · exact .inl ⟨(Option.some.inj h).symm, denotesItself_nil⟩
  | cons c s ih =>
    have hle : ∀ t, unescapeFrom false s = some t → t.length ≤ s.length := by
      intro t ht
      obtain ⟨rfl, -⟩ | hlt := ih.2 t ht
      · exact Nat.le_refl _
      · exact Nat.le_of_lt hlt
    constructor
    · intro t h
      obtain ⟨u, hu, hrest⟩ := Option.bind_eq_some_iff.1 h
      obtain ⟨v, hv, rfl⟩ := Option.map_eq_some_iff.1 hrest
      have hone := length_escaped? hu
      have hlen := hle v hv
      simp only [List.length_append, List.length_cons]
      omega
    · intro t h
      rw [unescapeFrom, if_neg Bool.false_ne_true] at h
      by_cases hc : c = '\\'
      · rw [if_pos hc] at h
        exact .inr (Nat.lt_succ_of_le (ih.1 t h))
      rw [if_neg hc] at h
      by_cases hinter : c = '#' ∧ s.head? = some '\x7b'
      · rw [if_pos hinter] at h
        cases h
      rw [if_neg hinter] at h
      obtain ⟨v, hv, rfl⟩ := Option.map_eq_some_iff.1 h
      obtain ⟨rfl, hverb⟩ | hlt := ih.2 v hv
      · exact .inl ⟨rfl, denotesItself_cons.2 ⟨hc, hinter, hverb⟩⟩
      · exact .inr (Nat.succ_lt_succ hlt)

theorem length_unescape_le (h : unescape s = some t) : t.length ≤ s.length := by
  obtain ⟨rfl, -⟩ | hlt := (length_unescapeFrom s).2 t h
  · exact Nat.le_refl _
  · exact Nat.le_of_lt hlt

theorem unescape_eq_self_iff : unescape s = some s ↔ DenotesItself s := by
  refine ⟨fun h => ?_, unescape_of_denotesItself⟩
  obtain ⟨-, hverb⟩ | hlt := (length_unescapeFrom s).2 s h
  · exact hverb
  · exact absurd hlt (Nat.lt_irrefl _)

end Escape

/-! ### Strings -/

/-- What stands before and after the first quote that no backslash escapes. -/
@[grind =]
def cutQuote? (escaped : Bool) : Text → Option (Text × Text)
  | [] => none
  | c :: s =>
    if c = '"' ∧ escaped = false then some ([], s)
    else (cutQuote? (c = '\\' && !escaped) s).map fun (t, rest) => (c :: t, rest)

/-- What the string denotes whose opening quote has been read, and what follows it. -/
def readString (s : Text) : Option (Text × Text) :=
  (cutQuote? false s).bind fun cut => (unescape cut.1).map (·, cut.2)

section String
variable {s t rest : Text}

theorem eq_append_of_cutQuote? {escaped : Bool} (h : cutQuote? escaped s = some (t, rest)) :
    s = t ++ '"' :: rest := by
  induction s generalizing escaped t with
  | nil => cases h
  | cons c s ih =>
    rw [cutQuote?] at h
    split at h
    · next hq =>
      cases h
      rw [hq.1]
      rfl
    · obtain ⟨⟨u, r⟩, hcut, he⟩ := Option.map_eq_some_iff.1 h
      cases he
      rw [ih hcut]
      rfl

/-- Without a backslash every quote ends the string. -/
theorem quote_not_mem_of_cutQuote? (h : cutQuote? false s = some (t, rest)) (ht : '\\' ∉ t) : '"' ∉ t := by
  induction s generalizing t with
  | nil => cases h
  | cons c s ih =>
    by_cases hq : c = '"'
    · rw [cutQuote?, if_pos ⟨hq, rfl⟩] at h
      cases h
      exact List.not_mem_nil
    rw [cutQuote?, if_neg fun h => hq h.1] at h
    obtain ⟨⟨u, r⟩, hcut, he⟩ := Option.map_eq_some_iff.1 h
    cases he
    have hb : c ≠ '\\' := fun he => ht (by simp [he])
    rw [decide_eq_false hb, Bool.false_and] at hcut
    simpa [Ne.symm hq] using ih hcut fun hm => ht (List.mem_cons_of_mem c hm)

theorem cutQuote?_append (hquote : '"' ∉ t) (hescape : '\\' ∉ t) (rest : Text) :
    cutQuote? false (t ++ '"' :: rest) = some (t, rest) := by
  induction t with
  | nil => rfl
  | cons c t ih =>
    have hq : c ≠ '"' := fun he => hquote (by simp [he])
    have hb : c ≠ '\\' := fun he => hescape (by simp [he])
    have hrest := ih (fun hm => hquote (List.mem_cons_of_mem c hm)) fun hm => hescape (List.mem_cons_of_mem c hm)
    rw [List.cons_append, cutQuote?, if_neg fun h => hq h.1, decide_eq_false hb, Bool.false_and, hrest]
    rfl

/-- A text that is written between quotes as it stands is read back if it denotes itself and has no
quote, and not otherwise. -/
theorem readString_append_iff (t rest : Text) :
    readString (t ++ '"' :: rest) = some (t, rest) ↔ '"' ∉ t ∧ DenotesItself t := by
  constructor
  · intro h
    obtain ⟨⟨raw, r⟩, hcut, hraw⟩ := Option.bind_eq_some_iff.1 h
    obtain ⟨u, hu, he⟩ := Option.map_eq_some_iff.1 hraw
    cases he
    obtain rfl : t = raw := List.append_cancel_right (eq_append_of_cutQuote? hcut)
    have hverb := unescape_eq_self_iff.1 hu
    exact ⟨quote_not_mem_of_cutQuote? hcut hverb.noEscape, hverb⟩
  · intro h
    rw [readString, cutQuote?_append h.1 h.2.noEscape, Option.bind_some, unescape_of_denotesItself h.2,
      Option.map_some]

end String

/-! ### Heredocs -/

def isMargin (c : Char) : Bool := c = ' ' || c = '\t'

def indentation (line : Text) : Nat := (line.takeWhile isMargin).length

/-- Three quotes first, apart from spaces and tabs. -/
def endsHeredoc (line : Text) : Bool := startsWith "\"\"\"" (line.dropWhile isMargin)

/-- The lines before the first that ends the heredoc, and how far that one is indented. -/
def cutHeredoc? : List Text → Option (List Text × Nat)
  | [] => none
  | l :: ls =>
    if endsHeredoc l then some ([], indentation l)
    else (cutHeredoc? ls).map fun (body, margin) => (l :: body, margin)

/-- A line without its margin, as far as it has one. -/
@[grind =]
def outdent : Nat → Text → Text
  | margin + 1, c :: s => if isMargin c then outdent margin s else c :: s
  | _, s => s

/-- What the heredoc denotes whose opening line has been read. -/
def readHeredoc (s : Text) : Option Text :=
  (cutHeredoc? (splitOn '\n' s)).bind fun cut => unescape (ended (cut.1.map (outdent cut.2)))

/-- The line of a heredoc with the margin, which empty lines do without. -/
def inset (margin : Nat) (line : Text) : Text := if line = [] then [] else spaces margin ++ line

section Heredoc
variable {l : Text} {ls : List Text} {margin : Nat}

theorem inset_nil (margin : Nat) : inset margin [] = [] := rfl

theorem inset_of_ne_nil (h : l ≠ []) : inset margin l = spaces margin ++ l := if_neg h

theorem lineFeed_not_mem_inset (h : '\n' ∉ l) : '\n' ∉ inset margin l := by
  rw [inset]
  split
  · exact List.not_mem_nil
  · exact not_mem_spaces_append (by decide) h margin

theorem isMargin_of_mem_spaces {n : Nat} {c : Char} (hc : c ∈ spaces n) : isMargin c = true := by
  rw [List.eq_of_mem_replicate hc]
  rfl

theorem dropWhile_isMargin_spaces (n : Nat) (s : Text) :
    (spaces n ++ s).dropWhile isMargin = s.dropWhile isMargin :=
  List.dropWhile_append_of_pos fun _ hc => isMargin_of_mem_spaces hc

theorem endsHeredoc_inset (margin : Nat) (l : Text) : endsHeredoc (inset margin l) = endsHeredoc l := by
  rw [inset]
  split
  · next h => rw [h]
  · rw [endsHeredoc, dropWhile_isMargin_spaces, endsHeredoc]

/-- Whether a line ends a heredoc is told before the first character that is not a quote. -/
theorem endsHeredoc_append_cons {c : Char} {t : Text} (hc : c ≠ '"') (ht : endsHeredoc (c :: t) = false)
    (s : Text) : endsHeredoc (s ++ c :: t) = endsHeredoc s := by
  have hquotes : c ∉ ("\"\"\"" : Text) := by simpa using hc
  rw [endsHeredoc, List.dropWhile_append, endsHeredoc]
  split
  · next hblank =>
    rw [List.isEmpty_iff.1 hblank]
    exact ht
  · exact startsWith_append_cons hquotes _ t

theorem length_outdent_le (n : Nat) (s : Text) : (outdent n s).length ≤ s.length := by
  fun_induction outdent n s with
  | case1 margin c s hc ih => exact Nat.le_succ_of_le ih
  | case2 => exact Nat.le_refl _
  | case3 => exact Nat.le_refl _

theorem outdent_append_spaces (n m : Nat) (s : Text) : outdent (n + m) (spaces n ++ s) = outdent m s := by
  induction n with
  | zero => rw [Nat.zero_add]; rfl
  | succ n ih =>
    have hspace : isMargin ' ' = true := rfl
    have hspaces : spaces (n + 1) ++ s = ' ' :: (spaces n ++ s) := rfl
    rw [hspaces, Nat.succ_add, outdent, if_pos hspace, ih]

theorem outdent_nil (n : Nat) : outdent n [] = [] := by cases n <;> rfl

theorem outdent_inset (margin : Nat) (l : Text) : outdent margin (inset margin l) = l := by
  rw [inset]
  split
  · next h => rw [h, outdent_nil]
  · have h := outdent_append_spaces margin 0 l
    rw [Nat.add_zero] at h
    rw [h]
    cases l <;> rfl

/-- A margin that is at least as wide goes whole. -/
theorem length_outdent_inset_le {n : Nat} (h : margin ≤ n) (l : Text) :
    (outdent n (inset margin l)).length ≤ l.length := by
  obtain ⟨k, rfl⟩ := Nat.exists_eq_add_of_le h
  rw [inset]
  split
  · rw [outdent_nil]
    exact Nat.zero_le _
  · rw [outdent_append_spaces]
    exact length_outdent_le k l

theorem le_indentation_inset (h : l ≠ []) : margin ≤ indentation (inset margin l) := by
  rw [inset_of_ne_nil h, indentation, List.takeWhile_append_of_pos fun _ hc => isMargin_of_mem_spaces hc,
    List.length_append, spaces, List.length_replicate]
  exact Nat.le_add_right _ _

theorem denotesItself_ended : DenotesItself (ended ls) ↔ ∀ l ∈ ls, DenotesItself l := by
  induction ls with
  | nil => simp [ended, denotesItself_nil]
  | cons l ls ih => rw [ended_cons, denotesItself_append_cons (by decide), ih, List.forall_mem_cons]

theorem length_ended_map_le {f : Text → Text} (hf : ∀ l, (f l).length ≤ l.length) (ls : List Text) :
    (ended (ls.map f)).length ≤ (ended ls).length := by
  induction ls with
  | nil => exact Nat.le_refl _
  | cons l ls ih =>
    have hl := hf l
    rw [List.map_cons, ended_cons, ended_cons, List.length_append, List.length_append,
      List.length_cons, List.length_cons]
    omega

/-- A heredoc ends at its last line, unless one of its own lines ends it before. -/
theorem cutHeredoc?_append {last : Text} (hlast : endsHeredoc last = true) (ls more : List Text) :
    (∀ l ∈ ls, endsHeredoc l = false) ∧ cutHeredoc? (ls ++ last :: more) = some (ls, indentation last) ∨
      ∃ before l after, ls = before ++ l :: after ∧ endsHeredoc l = true ∧
        cutHeredoc? (ls ++ last :: more) = some (before, indentation l) := by
  induction ls with
  | nil => exact .inl ⟨by simp, by rw [List.nil_append, cutHeredoc?, if_pos hlast]⟩
  | cons l ls ih =>
    by_cases hl : endsHeredoc l = true
    · exact .inr ⟨[], l, ls, rfl, hl, by rw [List.cons_append, cutHeredoc?, if_pos hl]⟩
    rw [List.cons_append, cutHeredoc?, if_neg hl]
    obtain ⟨hnone, hcut⟩ | ⟨before, m, after, hsplit, hm, hcut⟩ := ih
    · refine .inl ⟨List.forall_mem_cons.2 ⟨by simpa using hl, hnone⟩, ?_⟩
      rw [hcut, Option.map_some]
    · refine .inr ⟨l :: before, m, after, by rw [hsplit, List.cons_append], hm, ?_⟩
      rw [hcut, Option.map_some]

/-- Lines that are written with the margin of the last one are read back if none of them ends the heredoc
and each denotes itself, and not otherwise. -/
theorem readHeredoc_iff {s last : Text} {more : List Text} (hlast : endsHeredoc last = true)
    (hs : splitOn '\n' s = ls.map (inset (indentation last)) ++ last :: more) :
    readHeredoc s = some (ended ls) ↔ ∀ l ∈ ls, endsHeredoc l = false ∧ DenotesItself l := by
  have hmap : (ls.map (inset (indentation last))).map (outdent (indentation last)) = ls := by
    simp [Function.comp_def, outdent_inset]
  obtain ⟨hnone, hcut⟩ | ⟨before, m, after, hsplit, hm, hcut⟩ :=
    cutHeredoc?_append hlast (ls.map (inset (indentation last))) more
  · have hends : ∀ l ∈ ls, endsHeredoc l = false := by
      intro l hl
      rw [← endsHeredoc_inset (indentation last)]
      exact hnone _ (List.mem_map_of_mem hl)
    rw [readHeredoc, hs, hcut, Option.bind_some, hmap, unescape_eq_self_iff, denotesItself_ended]
    exact ⟨fun h l hl => ⟨hends l hl, h l hl⟩, fun h l hl => (h l hl).2⟩
  · -- what is read of the lines before is too short
    obtain ⟨first, rest, rfl, rfl, hrest⟩ := List.map_eq_append_iff.1 hsplit
    obtain ⟨l, rest, rfl, rfl, rfl⟩ := List.map_eq_cons_iff.1 hrest
    rw [endsHeredoc_inset] at hm
    have hne : l ≠ [] := by
      rintro rfl
      cases hm
    rw [readHeredoc, hs, hcut, Option.bind_some]
    constructor
    · intro h
      have hshort : (ended ((first.map (inset (indentation last))).map
          (outdent (indentation (inset (indentation last) l))))).length ≤ (ended first).length := by
        rw [List.map_map]
        exact length_ended_map_le (length_outdent_inset_le (le_indentation_inset hne)) first
      have hread := Nat.le_trans (length_unescape_le h) hshort
      rw [ended_append, ended_cons, List.length_append, List.length_append, List.length_cons] at hread
      omega
    · intro h
      have hends := (h l (by simp)).1
      rw [hm] at hends
      cases hends

end Heredoc

end Componentry.Elixir
