import Componentry.Document.Fence
import Componentry.Proofs.Elixir.ExampleFunction
import Componentry.Proofs.Markup.Escape
import Componentry.Proofs.Markup.OneLine
import Componentry.Proofs.Markup.TagText
import Componentry.Proofs.Text.Split
import Componentry.Proofs.Text.Trim

/-!
Templates stand between lines of three quotes. No line of a template begins with three quotes unless
a comment of the page has such a line.
-/
namespace Componentry.Elixir
open Componentry.Component Componentry.Document Componentry.Markup Componentry.Text

/-- Three quotes after any blanks: where a heredoc ends. -/
def closesHeredoc (line : Text) : Bool := startsWith "\"\"\"" (line.dropWhile isBlank)

/-! ### Reading on from a place in a line -/

/-- Where in a line a reader of a heredoc is. -/
inductive Place where
  /-- Only blanks so far. -/
  | margin
  | oneQuote
  | twoQuotes
  /-- Past any place where the line could close the heredoc. -/
  | inside
  | closed
  deriving DecidableEq

namespace Place

@[grind =]
def next : Place → Char → Place
  | .closed, _ => .closed
  | p, c =>
    if c = '\n' then .margin
    else match p with
      | .margin => if isBlank c then .margin else if c = '"' then .oneQuote else .inside
      | .oneQuote => if c = '"' then .twoQuotes else .inside
      | .twoQuotes => if c = '"' then .closed else .inside
      | p => p

/-- The place after a text that is read on from a place. -/
def after (p : Place) (s : Text) : Place := s.foldl next p

variable {p : Place} {s t : Text}

theorem after_append (p : Place) (s t : Text) : p.after (s ++ t) = (p.after s).after t :=
  List.foldl_append

theorem after_cons (p : Place) (c : Char) (s : Text) : p.after (c :: s) = (p.next c).after s := rfl

theorem after_closed (s : Text) : closed.after s = closed := by
  induction s with
  | nil => rfl
  | cons c s ih => exact ih

theorem next_lineFeed (h : p ≠ closed) : p.next '\n' = margin := by
  cases p with
  | closed => exact absurd rfl h
  | _ => rfl

/-- A character that is neither blank nor a quote leads past the margin. -/
theorem next_plain (h : p ≠ closed) {c : Char} (hc : isBlank c = false ∧ c ≠ '"') : p.next c = inside := by
  have hlf : c ≠ '\n' := by
    rintro rfl
    exact absurd hc.1 (by decide)
  cases p with
  | closed => exact absurd rfl h
  | _ => simp [next, hlf, hc.1, hc.2]

theorem after_inside (h : '\n' ∉ s) : inside.after s = inside := by
  induction s with
  | nil => rfl
  | cons c s ih =>
    have hc : c ≠ '\n' := fun he => h (by simp [he])
    have hnext : inside.next c = inside := by simp [next, hc]
    rw [after_cons, hnext, ih fun hm => h (List.mem_cons_of_mem c hm)]

theorem after_margin_blank (h : allBlank s) : margin.after s = margin := by
  induction s with
  | nil => rfl
  | cons c s ih =>
    rw [allBlank, List.all_cons, Bool.and_eq_true] at h
    have hnext : margin.next c = margin := by simp [next, h.1]
    rw [after_cons, hnext, ih h.2]

/-- Only quotes close. -/
theorem after_eq_closed_iff (h : '"' ∉ s) : p.after s = closed ↔ p = closed := by
  induction s generalizing p with
  | nil => rfl
  | cons c s ih =>
    have hc : c ≠ '"' := fun he => h (by simp [he])
    rw [after_cons, ih fun hm => h (List.mem_cons_of_mem c hm)]
    cases p with
    | closed => simp [next]
    | _ => simp only [next, if_neg hc]; repeat' split <;> simp

theorem after_lineFeed (p : Place) (s t : Text) :
    p.after (s ++ '\n' :: t) = closed ↔ p.after s = closed ∨ margin.after t = closed := by
  rw [after_append, after_cons]
  by_cases h : p.after s = closed
  · have hclosed : closed.next '\n' = closed := rfl
    simp [h, hclosed, after_closed]
  · simp [h, next_lineFeed h]

/-- Lines close a heredoc if one of them does. -/
theorem after_unlines (ls : List Text) :
    margin.after (unlines ls) = closed ↔ ∃ l ∈ ls, margin.after l = closed := by
  induction ls with
  | nil => simp [unlines, joinWith, after]
  | cons l ls ih =>
    by_cases hls : ls = []
    · subst hls
      simp [unlines_singleton]
    · rw [unlines, joinWith_cons l hls, List.singleton_append, after_lineFeed, ← unlines, ih]
      simp

/-! ### The lines of a text -/

theorem after_twoQuotes (h : '\n' ∉ s) : twoQuotes.after s = closed ↔ startsWith "\"" s := by
  cases s with
  | nil => simp [after, startsWith, after?]
  | cons c s =>
    have hlf : c ≠ '\n' := fun he => h (by simp [he])
    have hs : '\n' ∉ s := fun hm => h (List.mem_cons_of_mem c hm)
    by_cases hc : c = '"'
    · subst hc
      have hnext : twoQuotes.next '"' = closed := rfl
      simp [after_cons, hnext, after_closed, startsWith, after?]
    · have hnext : twoQuotes.next c = inside := by simp [next, hlf, hc]
      simp [after_cons, hnext, after_inside hs, startsWith, after?, Ne.symm hc]

theorem after_oneQuote (h : '\n' ∉ s) : oneQuote.after s = closed ↔ startsWith "\"\"" s := by
  cases s with
  | nil => simp [after, startsWith, after?]
  | cons c s =>
    have hlf : c ≠ '\n' := fun he => h (by simp [he])
    have hs : '\n' ∉ s := fun hm => h (List.mem_cons_of_mem c hm)
    by_cases hc : c = '"'
    · subst hc
      have hnext : oneQuote.next '"' = twoQuotes := rfl
      rw [after_cons, hnext, after_twoQuotes hs]
      simp [startsWith, after?]
    · have hnext : oneQuote.next c = inside := by simp [next, hlf, hc]
      simp [after_cons, hnext, after_inside hs, startsWith, after?, Ne.symm hc]

theorem after_margin (h : '\n' ∉ s) : margin.after s = closed ↔ closesHeredoc s := by
  induction s with
  | nil => simp [after, closesHeredoc, startsWith, after?]
  | cons c s ih =>
    have hlf : c ≠ '\n' := fun he => h (by simp [he])
    have hs : '\n' ∉ s := fun hm => h (List.mem_cons_of_mem c hm)
    by_cases hb : isBlank c
    · have hnext : margin.next c = margin := by simp [next, hb]
      rw [after_cons, hnext, ih hs, closesHeredoc, closesHeredoc, List.dropWhile_cons_of_pos hb]
    · rw [after_cons, closesHeredoc, List.dropWhile_cons_of_neg hb]
      by_cases hc : c = '"'
      · subst hc
        have hnext : margin.next '"' = oneQuote := by decide
        rw [hnext, after_oneQuote hs]
        simp [startsWith, after?]
      · have hnext : margin.next c = inside := next_plain (by simp) ⟨by simpa using hb, hc⟩
        simp [hnext, after_inside hs, startsWith, after?, Ne.symm hc]

theorem after_margin_iff (s : Text) :
    margin.after s = closed ↔ ∃ l ∈ splitOn '\n' s, closesHeredoc l := by
  have hlines : margin.after s = closed ↔ ∃ l ∈ splitOn '\n' s, margin.after l = closed := by
    rw [← after_unlines, unlines, joinWith_splitOn]
  rw [hlines]
  constructor
  · intro h
    obtain ⟨l, hl, hclosed⟩ := h
    exact ⟨l, hl, (after_margin (not_mem_of_mem_splitOn hl)).1 hclosed⟩
  · intro h
    obtain ⟨l, hl, hcloses⟩ := h
    exact ⟨l, hl, (after_margin (not_mem_of_mem_splitOn hl)).2 hcloses⟩

/-- What is read on from inside a line can close only on a later line. -/
theorem after_inside_iff (s : Text) :
    inside.after s = closed ↔ ∃ l ∈ (splitOn '\n' s).tail, closesHeredoc l := by
  cases hs : splitOn '\n' s with
  | nil => exact absurd hs (splitOn_ne_nil '\n' s)
  | cons first rest =>
    have hfirst : inside.after first = inside :=
      after_inside (not_mem_of_mem_splitOn (hs ▸ List.mem_cons_self))
    have hrest : ∀ l ∈ rest, '\n' ∉ l := fun l hl =>
      not_mem_of_mem_splitOn (hs ▸ List.mem_cons_of_mem first hl)
    have hjoin : joinWith ['\n'] (splitOn '\n' s) = s := joinWith_splitOn s
    rw [hs] at hjoin
    by_cases hnone : rest = []
    · subst hnone
      obtain rfl : first = s := hjoin
      simp [hfirst]
    · rw [joinWith_cons first hnone] at hjoin
      rw [← hjoin, List.singleton_append, after_lineFeed, hfirst, after_margin_iff,
        splitOn_joinWith hnone hrest]
      simp

/-! ### Markup -/

/-- Without quotes the reader stays inside a line or at the margin of one. -/
theorem after_quoteless (h : '"' ∉ s) (hp : p = inside ∨ p = margin) :
    p.after s = inside ∨ p.after s = margin := by
  induction s generalizing p with
  | nil => exact hp
  | cons c s ih =>
    have hc : c ≠ '"' := fun he => h (by simp [he])
    refine ih (fun hm => h (List.mem_cons_of_mem c hm)) ?_
    obtain rfl | rfl := hp
    · simp only [next]
      split <;> simp
    · simp only [next, if_neg hc]
      repeat' split
      all_goals simp

/-- The quote after a value may be the first on its line, but it is the only one. -/
theorem after_attrToHeex {a : Text × Text} (h : '\n' ∉ a.1) :
    inside.after (attrToHeex a) = inside ∨ inside.after (attrToHeex a) = oneQuote := by
  rw [attrToHeex]
  split
  · exact .inl (after_inside h)
  · have hvalue : '"' ∉ replace ['"'] "&quot;" a.2 := not_mem_replace_singleton (by decide)
    have hhead : inside.after (a.1 ++ "=\"") = inside := after_inside (by simp [h])
    rw [after_append, after_append, hhead]
    obtain hplace | hplace := after_quoteless hvalue (.inl rfl)
    · rw [hplace]
      exact .inl rfl
    · rw [hplace]
      exact .inr rfl

theorem next_of_shut (hp : p = inside ∨ p = oneQuote) {c : Char} (hc : c ≠ '\n' ∧ c ≠ '"') :
    p.next c = inside := by
  obtain rfl | rfl := hp <;> simp [next, hc.1, hc.2]

theorem after_attrsToHeex {attrs : Attrs} (h : ∀ a ∈ attrs, '\n' ∉ a.1)
    (hp : p = inside ∨ p = oneQuote) :
    p.after (attrsToHeex attrs) = inside ∨ p.after (attrsToHeex attrs) = oneQuote := by
  rw [attrsToHeex_eq_flatMap]
  induction attrs generalizing p with
  | nil => exact hp
  | cons a attrs ih =>
    rw [List.flatMap_cons, after_append, after_cons, next_of_shut hp (by decide)]
    exact ih (fun b hb => h b (List.mem_cons_of_mem a hb)) (after_attrToHeex (h a List.mem_cons_self))

end Place

section Tag
open Place
variable {name : Text} {attrs : Attrs} {p : Place}

theorem after_levelMargin (level : Int) (s : Text) :
    margin.after (levelMargin level ++ s) = margin.after s := by
  have hblank : allBlank (levelMargin level) := allBlank_spaces _
  rw [after_append, after_margin_blank hblank]

/-- A start tag, whose last character is neither a quote nor a line feed, ends inside its line. -/
theorem after_startTag (level : Int) (hname : '\n' ∉ name) (hattrs : ∀ a ∈ attrs, '\n' ∉ a.1)
    {c : Char} (hc : c ≠ '\n' ∧ c ≠ '"') (s : Text) :
    margin.after (levelMargin level ++ ('<' :: name ++ attrsToHeex attrs) ++ c :: s) = inside.after s := by
  have hhead : margin.after ('<' :: name ++ attrsToHeex attrs) = inside.after (attrsToHeex attrs) := by
    have hlt : margin.next '<' = inside := by decide
    rw [after_append, after_cons, hlt, after_inside hname]
  rw [after_append, after_levelMargin, hhead, after_cons,
    next_of_shut (after_attrsToHeex hattrs (.inl rfl)) hc]

theorem after_endTag (hp : p ≠ closed) (hname : '\n' ∉ name) :
    p.after ("</" ++ name ++ ['>']) = inside := by
  have hopen : p.after "</" = inside := by
    show (p.next '<').after ['/'] = inside
    rw [next_plain hp (by decide)]
    rfl
  rw [List.append_assoc, after_append, hopen]
  exact after_inside (by simp [hname])

end Tag

/-! ### Nodes -/

/-- A comment with a line, other than its first, that begins with three quotes. -/
def commentCloses : Node → Bool
  | .comment body => (splitOn '\n' body).tail.any closesHeredoc
  | _ => false

section Node
open Place

theorem after_comment (level : Int) (body : Text) :
    margin.after ((Node.comment body).toHeex level) = closed ↔ commentCloses (.comment body) := by
  have hopen : margin.after "<!-- " = inside := by decide
  rw [Node.toHeex, List.append_assoc, List.append_assoc, after_levelMargin, after_append, after_append,
    hopen, after_eq_closed_iff (by decide), after_inside_iff]
  simp [commentCloses]

theorem after_text (level : Int) (v : Text) : margin.after ((Node.text v).toHeex level) ≠ closed := by
  rw [Node.toHeex, after_levelMargin, Ne, after_eq_closed_iff (mark_not_mem_escapeText (by decide) _)]
  decide

theorem after_inline (level : Int) {name : Text} {attrs : Attrs} (hname : '\n' ∉ name)
    (hattrs : ∀ a ∈ attrs, '\n' ∉ a.1) (ns : List Node) :
    margin.after (levelMargin level ++ ('<' :: name ++ attrsToHeex attrs) ++ ['>'] ++
      ns.flatMap Node.inlineHeex ++ "</" ++ name ++ ['>']) = inside := by
  have htexts : inside.after (ns.flatMap Node.inlineHeex) ≠ closed := by
    rw [Ne, after_eq_closed_iff (mark_not_mem_inlineHeex (by decide) ns)]
    decide
  have hstart := after_startTag level hname hattrs (c := '>') (by decide)
    (ns.flatMap Node.inlineHeex ++ ("</" ++ name ++ ['>']))
  rw [after_append inside, after_endTag htexts hname] at hstart
  simpa only [List.append_assoc, List.cons_append, List.nil_append] using hstart

/-- Texts alone hold no comment. -/
theorem preorder_of_all_isText {ns : List Node} (h : ns.all Node.isText) :
    ∀ n ∈ forestPreorder ns, commentCloses n = false := by
  intro n hn
  rw [forestPreorder_eq_flatMap] at hn
  obtain ⟨m, hm, hn⟩ := List.mem_flatMap.1 hn
  have htext := List.all_eq_true.1 h m hm
  cases m with
  | text v => rw [List.mem_singleton.1 hn]; rfl
  | _ => cases htext

mutual
/-- Of all that a node shows only the lines of its comments can begin with three quotes. -/
theorem after_toHeex_iff (level : Int) (n : Node) (h : ∀ m ∈ n.preorder, m.OneLine) :
    margin.after (n.toHeex level) = closed ↔ ∃ m ∈ n.preorder, commentCloses m := by
  match n with
  | .comment body => simpa [Node.preorder] using after_comment level body
  | .text v => simpa [Node.preorder, commentCloses] using after_text level v
  | .element name attrs children =>
    obtain ⟨⟨hname, hattrs⟩, hchildren⟩ := List.forall_mem_cons.1 h
    -- the tags of an element never close, so that only what lies inside it counts
    have hpreorder : (∃ m ∈ (Node.element name attrs children).preorder, commentCloses m) ↔
        ∃ m ∈ forestPreorder children, commentCloses m := by
      simp [Node.preorder, commentCloses]
    rw [hpreorder, Node.toHeex]
    split
    · next hempty =>
      obtain rfl := List.isEmpty_iff.1 hempty
      have hline : margin.after (levelMargin level ++ ('<' :: name ++ attrsToHeex attrs) ++ " />") = inside :=
        after_startTag level hname hattrs (by decide) "/>"
      rw [hline]
      simp [forestPreorder]
    split
    · next htexts =>
      have hline := after_inline level hname hattrs children
      rw [hline]
      simpa using preorder_of_all_isText htexts
    · have hopen : margin.after (levelMargin level ++ ('<' :: name ++ attrsToHeex attrs) ++ ['>']) = inside :=
        after_startTag level hname hattrs (by decide) []
      have hclose : margin.after (levelMargin level ++ "</" ++ name ++ ['>']) = inside := by
        have hend := after_endTag (p := margin) (by simp) hname
        rwa [← after_levelMargin level, ← List.append_assoc, ← List.append_assoc] at hend
      have hlines := after_children_iff (level + 1) children hchildren
      rw [after_unlines, ← hlines]
      simp only [List.mem_append, List.mem_cons, or_and_right, exists_or, exists_eq_left, hopen, hclose]
      simp

theorem after_children_iff (level : Int) (ns : List Node) (h : ∀ m ∈ forestPreorder ns, m.OneLine) :
    (∃ l ∈ childrenToHeex level ns, margin.after l = closed) ↔
      ∃ m ∈ forestPreorder ns, commentCloses m := by
  match ns with
  | [] => simp [childrenToHeex, forestPreorder]
  | n :: ns =>
    rw [forestPreorder, List.forall_mem_append] at h
    have hhead := after_toHeex_iff level n h.1
    have hrest := after_children_iff level ns h.2
    simp only [childrenToHeex, forestPreorder, List.mem_cons, List.mem_append, or_and_right, exists_or,
      exists_eq_left, hhead, hrest]
end

end Node

/-! ### Pages -/

section Page
variable {path : Text} {lines : List Text} {es : List Example}

theorem parse_of_verdict {b : Block} {v : Verdict} {e : Example} (h : b.verdict path = .ok v)
    (he : v.example? = some e) : ∃ html, parse html = .ok e.nodes := by
  rw [Block.verdict] at h
  split at h
  · cases h
    cases he
  · next title =>
    split at h
    · cases h
      cases he
    · rw [parseMarkup] at h
      cases hparse : parse b.body with
      | error why =>
        rw [hparse] at h
        cases h
      | ok ns =>
        rw [hparse] at h
        cases h
        cases he
        exact ⟨b.body, hparse⟩

/-- The nodes of an example have been read from a text. -/
theorem parse_of_mem_examples (h : examples path lines = .ok es) {e : Example} (he : e ∈ es) :
    ∃ html, parse html = .ok e.nodes := by
  have hverdicts : ∀ bs : List Block, ∀ v ∈ (verdicts path bs).1, v.example? = some e →
      ∃ html, parse html = .ok e.nodes := by
    intro bs
    induction bs with
    | nil => exact fun v hv => absurd hv List.not_mem_nil
    | cons b bs ih =>
      intro v hv
      rw [verdicts] at hv
      cases hb : b.verdict path with
      | error f =>
        rw [hb] at hv
        exact absurd hv List.not_mem_nil
      | ok w =>
        rw [hb] at hv
        obtain rfl | hv := List.mem_cons.1 hv
        · exact parse_of_verdict hb
        · exact ih v hv
  rw [examples] at h
  split at h
  · cases h
  · next vs hvs =>
    cases h
    obtain ⟨v, hv, hve⟩ := List.mem_filterMap.1 he
    exact hverdicts (blocks lines) v (by rwa [hvs]) hve

/-- An example function shows nodes of its example. -/
theorem mem_preorder_of_mem_exampleFunctions {e : Example} {f : ExampleFunction}
    (h : f ∈ exampleFunctions e) {n : Node} (hn : n ∈ forestPreorder f.nodes) :
    n ∈ forestPreorder e.nodes := by
  rw [exampleFunctions] at h
  split at h
  · obtain ⟨m, hm, hf⟩ := List.mem_filterMap.1 h
    cases m with
    | element name attrs children =>
      obtain rfl := Option.some.inj hf
      rw [forestPreorder_eq_flatMap] at hn ⊢
      exact List.mem_flatMap.2 ⟨_, hm, by simpa using hn⟩
    | _ => cases hf
  · rw [List.mem_singleton.1 h] at hn
    exact hn

/-- The code of the examples of a page is that of their functions, and a line of the template of one
begins with three quotes only where a comment that it shows has such a line. -/
theorem body_closes_iff_comment (h : examples path lines = .ok es) :
    examplesCode es = unlines ((es.flatMap exampleFunctions).map ExampleFunction.code) ∧
      ∀ f ∈ es.flatMap exampleFunctions,
        (∃ l ∈ splitOn '\n' f.body, closesHeredoc l) ↔ ∃ n ∈ forestPreorder f.nodes, commentCloses n := by
  refine ⟨examplesCode_eq es, fun f hf => ?_⟩
  obtain ⟨e, he, hfe⟩ := List.mem_flatMap.1 hf
  obtain ⟨html, hparse⟩ := parse_of_mem_examples h he
  have honeLine : ∀ n ∈ forestPreorder f.nodes, n.OneLine := fun n hn =>
    oneLine_of_parse hparse n (mem_preorder_of_mem_exampleFunctions hfe hn)
  rw [← Place.after_margin_iff, ExampleFunction.body, forestToHeex, Place.after_unlines]
  exact after_children_iff 2 f.nodes honeLine

end Page

/-- Three quotes in a value, in a text and on the second line of a comment. -/
def quotedLines : List Text := [
    "### ~Text", "```html", "<p title='a", "\"\"\" b'>", "\"\"\" c</p>", "<!-- d", "\"\"\" e", "-->", "```"]

theorem examples_quotedLines :
    ∃ es, examples "docs/text/+page.md" quotedLines = .ok es ∧
      ∃ f ∈ es.flatMap exampleFunctions, ∃ l ∈ splitOn '\n' f.body, closesHeredoc l := by
  have hcloses : (examples "docs/text/+page.md" quotedLines).toOption.any (fun es =>
      (es.flatMap exampleFunctions).any fun f => (splitOn '\n' f.body).any closesHeredoc) := by
    decide +kernel
  cases hread : examples "docs/text/+page.md" quotedLines with
  | error f =>
    rw [hread] at hcloses
    cases hcloses
  | ok es =>
    simp only [hread, Except.toOption, Option.any_some, List.any_eq_true] at hcloses
    exact ⟨es, rfl, hcloses⟩

theorem body_closes :
    ¬ ∀ (path : Text) (lines : List Text) (es : List Example), examples path lines = .ok es →
      ∀ f ∈ es.flatMap exampleFunctions, ∀ l ∈ splitOn '\n' f.body, ¬ closesHeredoc l := by
  intro h
  obtain ⟨es, hread, f, hf, l, hl, hcloses⟩ := examples_quotedLines
  exact h _ _ es hread f hf l hl hcloses

theorem body_closes_iff_comment_quotedLines :
    ∃ es, examples "docs/text/+page.md" quotedLines = .ok es ∧
      ∃ f ∈ es.flatMap exampleFunctions, ∃ n ∈ forestPreorder f.nodes, commentCloses n := by
  obtain ⟨es, hread, f, hf, hcloses⟩ := examples_quotedLines
  exact ⟨es, hread, f, hf, ((body_closes_iff_comment hread).2 f hf).1 hcloses⟩

end Componentry.Elixir
