import Componentry.Proofs.Markup.Keys
import Componentry.Proofs.Markup.Scanning
import Componentry.Proofs.Text.Join

/-!
Plain forests read back from their HEEx, at any level, up to the blanks around their texts.
-/
namespace Componentry.Markup
open Componentry.Text Componentry.Component

/-! ### Attributes of plain elements -/

theorem cleanAttr_eq_self {a : Text × Text}
    (h : a.1 = ("class" : Text) → contains runtimeMarker a.2 = false) : cleanAttr a = a := by
  rw [cleanAttr]
  by_cases hclass : a.1 = ("class" : Text)
  · rw [if_pos hclass, cleanClass, replace_eq_self (h hclass)]
  · rw [if_neg hclass]

theorem cleanAttr_of_isPlainAttr {a : Text × Text} (h : isPlainAttr a) : cleanAttr a = a := by
  simp only [isPlainAttr, Bool.and_eq_true, Bool.or_eq_true, decide_eq_true_eq,
    Bool.not_eq_true'] at h
  exact cleanAttr_eq_self fun hclass => h.2.resolve_left (by simp [hclass])

/-- Reading keeps plain attributes as they are. -/
theorem clean_ofPairs {attrs : Attrs} (h : isPlainAttrs attrs) :
    (Attrs.ofPairs attrs).map cleanAttr = attrs := by
  simp only [isPlainAttrs, Bool.and_eq_true, decide_eq_true_eq, List.all_eq_true] at h
  rw [ofPairs_of_nodup h.2]
  exact (List.map_congr_left fun a ha => cleanAttr_of_isPlainAttr (h.1 a ha)).trans (List.map_id _)

/-! ### Builders that have read more -/

namespace Builder

/-- The content of the innermost open element, latest first, its texts trimmed. -/
def seen (b : Builder) : List Node := b.flush.nodes.map Node.trimTexts

/-- Between `b` and `b'` the nodes `ns` have been read, up to blanks around texts. -/
structure Follows (b b' : Builder) (ns : List Node) : Prop where
  frames : b'.frames = b.frames
  credits : b'.credits = b.credits
  seen : b'.seen = (ns.map Node.trimTexts).reverse ++ b.seen

variable {b b' b'' : Builder} {ns ms : List Node}

theorem Follows.trans (h : Follows b b' ns) (h' : Follows b' b'' ms) : Follows b b'' (ns ++ ms) :=
  ⟨h'.frames.trans h.frames, h'.credits.trans h.credits, by
    rw [h'.seen, h.seen, List.map_append, List.reverse_append, List.append_assoc]⟩

theorem seen_of_blank (h : allBlank b.pending) : b.seen = b.nodes.map Node.trimTexts := by
  simp [seen, flush, h]

theorem seen_of_not_blank (h : ¬ allBlank b.pending) :
    b.seen = .text (trim b.pending) :: b.nodes.map Node.trimTexts := by
  simp [seen, flush, h, Node.trimTexts]

theorem follows_blank {w : Text} (hw : allBlank w) : Follows b (b.add (.data w)) [] := by
  refine ⟨rfl, rfl, ?_⟩
  have hpending : (b.add (.data w)).pending = b.pending ++ w := rfl
  have hnodes : (b.add (.data w)).nodes = b.nodes := rfl
  by_cases hb : allBlank b.pending
  · rw [seen_of_blank hb, seen_of_blank (by rw [hpending, allBlank_append, hb, hw]; rfl)]
    rfl
  · rw [seen_of_not_blank hb, seen_of_not_blank (by rw [hpending, allBlank_append]; simp [hb]),
      hpending, trim_append_right hw, hnodes]
    rfl

theorem follows_text {v w : Text} (hb : allBlank b.pending) (hw : ¬ allBlank w) (ht : trim w = trim v) :
    Follows b (b.add (.data w)) [.text v] := by
  refine ⟨rfl, rfl, ?_⟩
  have hpending : (b.add (.data w)).pending = b.pending ++ w := rfl
  have hnot : ¬ allBlank (b.add (.data w)).pending := by
    rw [hpending, allBlank_append]; simp [hw]
  rw [seen_of_not_blank hnot, seen_of_blank hb, hpending, trim_append_left hb, ht]
  rfl

theorem follows_comment {body : Text} (h : trim body = body) :
    Follows b (b.add (.comment (' ' :: (body ++ [' '])))) [.comment body] := by
  have htrim : trim (' ' :: (body ++ [' '])) = body := by
    have hspace : allBlank [' '] = true := by decide
    rw [← List.singleton_append, trim_append_left hspace, trim_append_right hspace, h]
  exact ⟨rfl, rfl, by simp [add, htrim, seen, flush, allBlank, Node.trimTexts]⟩

theorem push_eq {attrs : Attrs} (h : isPlainAttrs attrs) (name : Text) :
    b.push name attrs = ⟨⟨name, attrs, b.flush.nodes⟩ :: b.frames, [], [], b.credits⟩ := by
  simp [push, clean_ofPairs h, flush]

/-- Closing the innermost open element, if no credit of its name is left. -/
theorem close_eq {f : Frame} {fs : List Frame} (h : b.frames = f :: fs) :
    b.close f.name =
      ⟨fs, .element f.name f.attrs b.flush.nodes.reverse :: f.left, [], b.credits⟩ := by
  obtain ⟨frames, nodes, pending, credits⟩ := b
  simp only at h
  subst h
  simp [close, popTo, flush]

theorem follows_closed {name : Text} {attrs : Attrs} (hattrs : isPlainAttrs attrs)
    (h : Follows (b.push name attrs) b' ns) : Follows b (b'.close name) [.element name attrs ns] := by
  have hframes : b'.frames = ⟨name, attrs, b.flush.nodes⟩ :: b.frames := by
    rw [h.frames, push_eq hattrs]
  have hseen : b'.flush.nodes.map Node.trimTexts = (ns.map Node.trimTexts).reverse := by
    have hempty : (b.push name attrs).seen = [] := by rw [push_eq hattrs]; rfl
    have := h.seen
    rwa [hempty, List.append_nil] at this
  have hclose := close_eq hframes
  refine ⟨by rw [hclose], by rw [hclose]; exact h.credits.trans (by rw [push_eq hattrs]), ?_⟩
  rw [hclose, seen_of_blank rfl]
  simp only [List.map_cons, Node.trimTexts, trimForest_eq_map, List.map_reverse, hseen,
    List.reverse_reverse, List.map_nil, List.reverse_cons, List.reverse_nil, List.nil_append,
    List.singleton_append]
  rfl

theorem pending_close (b : Builder) (name : Text) : (b.close name).pending = [] := by
  rw [close]
  split <;> rfl

theorem Follows.refl : Follows b b [] := ⟨rfl, rfl, rfl⟩

theorem follows_selfClosed {name : Text} {attrs : Attrs} (hattrs : isPlainAttrs attrs) :
    Follows b (b.add (.selfClosed name attrs)) [.element name attrs []] :=
  follows_closed hattrs .refl

theorem add_opening {name : Text} (h : name ∉ emptyNames) (attrs : Attrs) :
    b.add (.opening name attrs) = b.push name attrs := by
  simp [add, h]

theorem add_closing (h : b.credits = []) (name : Text) : b.add (.closing name) = b.close name := by
  simp [add, endTag, h]

end Builder

/-! ### Printing, then reading -/

open Builder

theorem isText_text (v : Text) : (Node.text v).isText = true := rfl

section Shapes
variable (level : Int) (name : Text) (attrs : Attrs) (s : Text)

theorem toHeex_empty :
    (Node.element name attrs []).toHeex level ++ s =
      levelMargin level ++ ('<' :: (name ++ tagRest attrs .selfClosed s)) := by
  simp [Node.toHeex, tagRest, tagTail]

theorem toHeex_inline (v : Text) :
    (Node.element name attrs [.text v]).toHeex level ++ s =
      levelMargin level ++ ('<' :: (name ++
        tagRest attrs .opened (escapeText v ++ ("</" ++ (name ++ '>' :: s))))) := by
  simp [Node.toHeex, tagRest, tagTail, isText_text, Node.inlineHeex]

theorem toHeex_block {children : List Node} (h : children.all Node.isText = false) :
    (Node.element name attrs children).toHeex level ++ s =
      levelMargin level ++ ('<' :: (name ++ tagRest attrs .opened (['\n'] ++
        (unlines (childrenToHeex (level + 1) children) ++ (['\n'] ++ (levelMargin level ++
          ("</" ++ (name ++ '>' :: s)))))))) := by
  have hne : children ≠ [] := by rintro rfl; simp at h
  have hempty : children.isEmpty = false := by simpa using hne
  have hlines : childrenToHeex (level + 1) children ≠ [] := by
    rw [childrenToHeex_eq_map]; simpa using hne
  rw [Node.toHeex]
  simp only [hempty, h, Bool.false_eq_true, if_false, unlines]
  rw [List.cons_append, joinWith_cons _ (by simp), joinWith_concat hlines]
  simp [tagRest, tagTail]

end Shapes

theorem allBlank_levelMargin (level : Int) : allBlank (levelMargin level) := allBlank_spaces _

theorem isText_of_allBlank {w : Text} (h : allBlank w) : ∀ c ∈ w, isText c = true := by
  intro c hc
  have hb : isBlank c = true := List.all_eq_true.1 h c hc
  have h₁ : c ≠ '<' := by rintro rfl; revert hb; decide
  have h₂ : c ≠ '&' := by rintro rfl; revert hb; decide
  simp [isText, h₁, h₂]

theorem Builder.scan_blank (b : Builder) {w : Text} (h : allBlank w) (s : Text) :
    b.scan (w ++ s) = (b.add (.data w)).scan s :=
  scan_data b s (isText_of_allBlank h)

/-- In a plain forest nothing but text among the nodes means a single text. -/
theorem eq_singleton_of_all_isText {n : Node} {ns : List Node} (h : isPlainForest (n :: ns))
    (ht : (n :: ns).all Node.isText) : ∃ v, n = .text v ∧ ns = [] ∧ ¬ allBlank v := by
  simp only [isPlainForest, Bool.and_eq_true] at h
  cases n with
  | text v =>
    refine ⟨v, rfl, ?_, by simpa [Node.isPlain] using h.1.1⟩
    cases ns with
    | nil => rfl
    | cons m ms =>
      have hm : m.isText = true := by simp at ht; exact ht.2.1
      simp [isText_text, hm] at h
  | comment body => simp [Node.isText] at ht
  | element name attrs children => simp [Node.isText] at ht

section Element
variable {name : Text} {attrs : Attrs} (hname : isPlainName name) (hattrs : isPlainAttrs attrs)
  (level : Int) (b : Builder)
include hname hattrs

theorem scan_empty :
    ∃ b', Follows b b' [.element name attrs []] ∧ b'.pending = [] ∧
      ∀ s, b.scan ((Node.element name attrs []).toHeex level ++ s) = b'.scan s := by
  have hmargin := allBlank_levelMargin level
  refine ⟨_, (follows_blank hmargin).trans (follows_selfClosed hattrs), pending_close _ name, fun s => ?_⟩
  rw [toHeex_empty, scan_blank b hmargin, scan_selfClosed _ s hname (all_isPlainAttr hattrs)]

variable (hraw : isRawName name = false) (hvoid : name ∉ emptyNames) (hc : b.credits = [])
include hraw hvoid hc

theorem scan_inline {v : Text} (hv : ¬ allBlank v) :
    ∃ b', Follows b b' [.element name attrs [.text v]] ∧ b'.pending = [] ∧
      ∀ s, b.scan ((Node.element name attrs [.text v]).toHeex level ++ s) = b'.scan s := by
  have hmargin := allBlank_levelMargin level
  have hpush := push_eq (b := b.add (.data (levelMargin level))) hattrs name
  have hf := follows_text (b := (b.add (.data (levelMargin level))).push name attrs) (v := v)
    (by rw [hpush]; rfl) hv rfl
  refine ⟨_, (follows_blank hmargin).trans (follows_closed hattrs hf), pending_close _ name, fun s => ?_⟩
  rw [toHeex_inline, scan_blank b hmargin, scan_opening _ _ hname hraw (all_isPlainAttr hattrs),
    add_opening hvoid, scan_escapeText, scan_closing _ s hname, add_closing]
  rw [hf.credits, hpush]; exact hc

theorem scan_block {children : List Node} (hmixed : children.all Node.isText = false)
    (hread : ∀ b : Builder, b.credits = [] → allBlank b.pending → ∃ b', Follows b b' children ∧
      ∀ s, b.scan (unlines (childrenToHeex (level + 1) children) ++ s) = b'.scan s) :
    ∃ b', Follows b b' [.element name attrs children] ∧ b'.pending = [] ∧
      ∀ s, b.scan ((Node.element name attrs children).toHeex level ++ s) = b'.scan s := by
  have hmargin := allBlank_levelMargin level
  have hline : allBlank ['\n'] = true := by decide
  have hend : allBlank (['\n'] ++ levelMargin level) = true := by
    rw [allBlank_append, hline, hmargin]; rfl
  have hpush := push_eq (b := b.add (.data (levelMargin level))) hattrs name
  have hf₁ := follows_blank (b := (b.add (.data (levelMargin level))).push name attrs) hline
  obtain ⟨b₂, hf₂, hs₂⟩ := hread
    (((b.add (.data (levelMargin level))).push name attrs).add (.data ['\n']))
    (by rw [hf₁.credits, hpush]; exact hc) (by rw [hpush]; exact hline)
  have hf : Follows ((b.add (.data (levelMargin level))).push name attrs)
      (b₂.add (.data (['\n'] ++ levelMargin level))) children := by
    simpa using (hf₁.trans hf₂).trans (follows_blank hend)
  refine ⟨_, (follows_blank hmargin).trans (follows_closed hattrs hf), pending_close _ name, fun s => ?_⟩
  rw [toHeex_block _ _ _ _ hmixed, scan_blank b hmargin,
    scan_opening _ _ hname hraw (all_isPlainAttr hattrs), add_opening hvoid, scan_blank _ hline, hs₂,
    scan_blank _ hline, scan_blank _ hmargin, add_data_data, scan_closing _ s hname, add_closing]
  rw [hf.credits, hpush]; exact hc

end Element

theorem scan_text (level : Int) {v : Text} (hv : ¬ allBlank v) (b : Builder) (hb : allBlank b.pending) :
    ∃ b', Follows b b' [.text v] ∧ ∀ s, b.scan ((Node.text v).toHeex level ++ s) = b'.scan s := by
  have hmargin := allBlank_levelMargin level
  have hpending : allBlank (b.add (.data (levelMargin level))).pending := by
    show allBlank (b.pending ++ levelMargin level) = true
    rw [allBlank_append, hb, hmargin]; rfl
  have hf := follows_text hpending (w := trim v) (by rwa [allBlank_trim]) (trim_trim v)
  refine ⟨_, (follows_blank hmargin).trans hf, fun s => ?_⟩
  rw [Node.toHeex, List.append_assoc, scan_blank b hmargin, scan_escapeText]

mutual
/-- The HEEx of a plain node is read as that node. A text that is to be read must not follow another
text, and what follows a node that is no text starts afresh. -/
theorem scan_toHeex (level : Int) (n : Node) (hn : n.isPlain) (b : Builder) (hc : b.credits = [])
    (hb : n.isText → allBlank b.pending) :
    ∃ b', Follows b b' [n] ∧ (n.isText = false → b'.pending = []) ∧
      ∀ s, b.scan (n.toHeex level ++ s) = b'.scan s := by
  match n with
  | .text v =>
    obtain ⟨b', hf, hs⟩ := scan_text level (by simpa [Node.isPlain] using hn) b (hb rfl)
    exact ⟨b', hf, by simp [isText_text], hs⟩
  | .comment body =>
    simp only [Node.isPlain, Bool.and_eq_true, decide_eq_true_eq, Bool.not_eq_true'] at hn
    have hmargin := allBlank_levelMargin level
    refine ⟨_, (follows_blank hmargin).trans (follows_comment hn.1), fun _ => rfl, fun s => ?_⟩
    rw [Node.toHeex, List.append_assoc, List.append_assoc, List.append_assoc, scan_blank b hmargin,
      scan_comment _ s hn.2]
  | .element name attrs children =>
    simp only [Node.isPlain, Bool.and_eq_true, Bool.not_eq_true', Bool.or_eq_true,
      decide_eq_true_eq] at hn
    obtain ⟨⟨⟨⟨hname, hraw⟩, hvoid⟩, hattrs⟩, hchildren⟩ := hn
    have hread := fun b hc hb => scan_children (level + 1) children hchildren b hc fun _ => hb
    cases children with
    | nil =>
      obtain ⟨b', hf, hp, hs⟩ := scan_empty hname hattrs level b
      exact ⟨b', hf, fun _ => hp, hs⟩
    | cons m ms =>
      have hvoid' : name ∉ emptyNames := by simpa using hvoid
      by_cases htexts : (m :: ms).all Node.isText
      · obtain ⟨v, rfl, rfl, hv⟩ := eq_singleton_of_all_isText hchildren htexts
        obtain ⟨b', hf, hp, hs⟩ := scan_inline hname hattrs level b hraw hvoid' hc hv
        exact ⟨b', hf, fun _ => hp, hs⟩
      · obtain ⟨b', hf, hp, hs⟩ := scan_block hname hattrs level b hraw hvoid' hc
          (by simpa using htexts) hread
        exact ⟨b', hf, fun _ => hp, hs⟩

theorem scan_children (level : Int) (ns : List Node) (hns : isPlainForest ns) (b : Builder)
    (hc : b.credits = []) (hb : (ns.head?.map Node.isText).getD false → allBlank b.pending) :
    ∃ b', Follows b b' ns ∧ ∀ s, b.scan (unlines (childrenToHeex level ns) ++ s) = b'.scan s := by
  match ns with
  | [] => exact ⟨b, .refl, fun s => rfl⟩
  | [n] =>
    simp only [isPlainForest, Bool.and_eq_true] at hns
    obtain ⟨b', hf, -, hs⟩ := scan_toHeex level n hns.1.1 b hc hb
    exact ⟨b', hf, hs⟩
  | n :: m :: ms =>
    simp only [isPlainForest, Bool.and_eq_true] at hns
    obtain ⟨b₁, hf₁, hp₁, hs₁⟩ := scan_toHeex level n hns.1.1 b hc hb
    have hline : allBlank ['\n'] = true := by decide
    have hc₁ : (b₁.add (.data ['\n'])).credits = [] := hf₁.credits.trans hc
    have hb₁ : (((m :: ms).head?.map Node.isText).getD false) = true →
        allBlank (b₁.add (.data ['\n'])).pending = true := by
      intro hm
      have hn : n.isText = false := by simp at hm; simpa [hm] using hns.1.2
      show allBlank (b₁.pending ++ ['\n']) = true
      rw [hp₁ hn]; exact hline
    obtain ⟨b₂, hf₂, hs₂⟩ := scan_children level (m :: ms) (by simpa [isPlainForest] using hns.2) _ hc₁ hb₁
    refine ⟨b₂, (hf₁.trans (follows_blank hline)).trans hf₂, fun s => ?_⟩
    rw [← hs₂ s, ← scan_blank _ hline, ← hs₁]
    simp [childrenToHeex, unlines, joinWith_cons]
end

/-- The HEEx of a plain forest is markup, and reading it gives the forest back: no node is lost,
merged, moved or nested otherwise, and only the blanks around a text may differ. -/
theorem parse_forestToHeex (level : Int) (ns : List Node) (h : isPlainForest ns) :
    ∃ ms, parse (forestToHeex level ns) = .ok ms ∧ trimForest ms = trimForest ns := by
  obtain ⟨b, hf, hs⟩ := scan_children level ns h .empty rfl fun _ => rfl
  have hscan : Builder.empty.scan (forestToHeex level ns) = .ok (b, none, []) := by
    have := hs []
    rwa [List.append_nil, scan_nil] at this
  obtain ⟨p, hp, hpb⟩ : ∃ p, pass false none (forestToHeex level ns) = .ok p ∧
      (p.tokens.foldl Builder.add .empty, p.raw, p.rest) = (b, none, []) := by
    rw [Builder.scan] at hscan
    cases hp : pass false none (forestToHeex level ns) with
    | error e => rw [hp] at hscan; cases hscan
    | ok p => rw [hp] at hscan; exact ⟨p, rfl, Except.ok.inj hscan⟩
  obtain ⟨hb, hraw, hrest⟩ := by simpa only [Prod.mk.injEq] using hpb
  have htokens : tokens (forestToHeex level ns) = .ok p.tokens := by
    simp [tokens, hp, hraw, hrest, pass_nil, bind, Except.bind, pure, Except.pure]
  refine ⟨b.finish, by rw [parse, htokens, ← hb]; rfl, ?_⟩
  have hframes : b.flush.frames = [] := hf.frames
  have hseen : b.flush.nodes.map Node.trimTexts = (ns.map Node.trimTexts).reverse := by
    have hempty : Builder.empty.seen = [] := rfl
    have := hf.seen
    rwa [hempty, List.append_nil] at this
  have hfinish : b.finish = b.flush.nodes.reverse := by
    simp [Builder.finish, hframes, Builder.closeAll]
  rw [hfinish, trimForest_eq_map, trimForest_eq_map, List.map_reverse, hseen, List.reverse_reverse]

/-- A comment, an empty element with a bare key, text beside elements, and quotes in a value. -/
def mixedForest : List Node := [
    .comment "a - b",
    .element "div" [("class", "card $ x"), ("title", "say \"hi\" > 1")] [
      .text "  R&D <now>\n", .element "input" [("disabled", []), ("type", "text")] [],
      .text " &amp; ", .element "p" [] [.text " one\n two "], .comment []],
    .text "\t\"end\""]

theorem parse_forestToHeex_mixedForest :
    isPlainForest mixedForest ∧
      ∃ ms, parse (forestToHeex 2 mixedForest) = .ok ms ∧ trimForest ms = trimForest mixedForest :=
  have h : isPlainForest mixedForest := by decide
  ⟨h, parse_forestToHeex 2 mixedForest h⟩

end Componentry.Markup
