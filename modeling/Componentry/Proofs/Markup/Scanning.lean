import Componentry.Markup.Tree
import Componentry.Proofs.Markup.TagText

/-!
What the scanner makes of printed pieces of markup, each followed by anything: text, tags and
comments, as they reach the builder of the tree.
-/
namespace Componentry.Markup
open Componentry.Text Componentry.Component

theorem pass_of_go {final : Bool} {raw raw' : Option Text} {s rest : Text} {ts : List Token}
    (h : step final raw s = .go ts raw' rest) :
    pass final raw s = (pass final raw' rest).map fun p => { p with tokens := ts ++ p.tokens } := by
  rw [pass_eq, h]

theorem pass_nil (final : Bool) (raw : Option Text) : pass final raw [] = .ok ⟨[], raw, []⟩ := by
  have h : step final raw [] = .halt [] [] := by cases raw <;> rfl
  rw [pass_eq, h]

/-- The first reading, its tokens given to a builder: the builder then, and what was left. -/
def Builder.scan (b : Builder) (s : Text) : Except Rejection (Builder × Option Text × Text) :=
  (pass false none s).map fun p => (p.tokens.foldl Builder.add b, p.raw, p.rest)

namespace Builder
variable (b : Builder) (s : Text)

theorem scan_of_go {rest : Text} {ts : List Token} (h : step false none s = .go ts none rest) :
    b.scan s = (ts.foldl add b).scan rest := by
  rw [scan, pass_of_go h, scan]
  cases pass false none rest with
  | error e => rfl
  | ok p => simp [Except.map, List.foldl_append]

theorem scan_nil : b.scan [] = .ok (b, none, []) := by
  rw [scan, pass_nil]
  rfl

/-! ### Text -/

theorem add_data_data (u w : Text) : (b.add (.data u)).add (.data w) = b.add (.data (u ++ w)) := by
  simp [add]

theorem step_text {c : Char} (hc : isText c = true) :
    step false none (c :: s) = .go [.data (c :: s.takeWhile isText)] none (s.dropWhile isText) := by
  have h₁ : c ≠ '<' := by rintro rfl; simp [isText] at hc
  have h₂ : c ≠ '&' := by rintro rfl; simp [isText] at hc
  rw [step]
  · exact h₁
  · exact h₂

theorem scan_char {c : Char} (hc : isText c = true) :
    b.scan (c :: s) = (b.add (.data [c])).scan s := by
  rw [scan_of_go b _ (step_text s hc)]
  cases s with
  | nil => rfl
  | cons d s =>
    by_cases hd : isText d = true
    · rw [List.takeWhile_cons_of_pos hd, List.dropWhile_cons_of_pos hd, scan_of_go _ _ (step_text s hd)]
      simp [add]
    · rw [List.takeWhile_cons_of_neg hd, List.dropWhile_cons_of_neg hd]
      rfl

theorem scan_data {u : Text} (hu : ∀ c ∈ u, isText c = true) :
    b.scan (u ++ s) = (b.add (.data u)).scan s := by
  induction u generalizing b with
  | nil => simp [add]
  | cons c u ih =>
    rw [List.cons_append, scan_char b _ (hu c (by simp)), ih _ fun d hd => hu d (List.mem_cons_of_mem c hd),
      add_data_data, List.singleton_append]

theorem reference_name {c : Char} {name : Text} (hc : isLetter c = true)
    (hname : ∀ d ∈ name, isRefNameChar d = true) :
    reference false (c :: (name ++ ';' :: s)) = .read (dataOfName (c :: name)) s := by
  have hhash : c ≠ '#' := by
    intro he
    subst he
    exact absurd hc (by decide)
  have hstop : ∀ d, (';' :: s).head? = some d → isRefNameChar d = false := by
    intro d hd
    cases hd
    decide
  unfold reference
  split
  · next he => cases he
  · next he => exact absurd (List.cons.inj he).1 hhash
  · next he =>
    cases he
    rw [if_pos hc]
    dsimp only
    rw [takeWhile_append_stop hname hstop, dropWhile_append_stop hname hstop]
    rfl

theorem reference_entity {e : Char × Text} (he : e ∈ entities) :
    ∃ t, e.2 = '&' :: t ∧ reference false (t ++ s) = .read [e.1] s := by
  have hname : ∀ name : Text, name.all isRefNameChar = true → ∀ d ∈ name, isRefNameChar d = true :=
    fun _ => List.all_eq_true.1
  have hamp : dataOfName "amp" = ['&'] := by decide
  have hlt : dataOfName "lt" = ['<'] := by decide
  have hgt : dataOfName "gt" = ['>'] := by decide
  have hquot : dataOfName "quot" = ['"'] := by decide
  simp only [entities, List.mem_cons, List.not_mem_nil, or_false] at he
  obtain rfl | rfl | rfl | rfl := he
  · exact ⟨"amp;", rfl, hamp ▸ reference_name s (by decide) (hname "mp" (by decide))⟩
  · exact ⟨"lt;", rfl, hlt ▸ reference_name s (by decide) (hname "t" (by decide))⟩
  · exact ⟨"gt;", rfl, hgt ▸ reference_name s (by decide) (hname "t" (by decide))⟩
  · exact ⟨"quot;", rfl, hquot ▸ reference_name s (by decide) (hname "uot" (by decide))⟩

theorem scan_entityOf (c : Char) : b.scan (entityOf c ++ s) = (b.add (.data [c])).scan s := by
  cases hl : entities.lookup c with
  | none =>
    have hne : ∀ e ∈ entities, e.1 ≠ c := fun e he =>
      (bne_iff_ne.1 (List.lookup_eq_none_iff.1 hl e he)).symm
    have htext : isText c = true := by
      have h₁ := hne ('<', "&lt;") (by simp [entities])
      have h₂ := hne ('&', "&amp;") (by simp [entities])
      simp [isText, Ne.symm h₁, Ne.symm h₂]
    rw [entityOf_of_ne hne, List.singleton_append, scan_char b s htext]
  | some q =>
    have hmem : (c, q) ∈ entities := by
      obtain ⟨l, r, he, -⟩ := List.lookup_eq_some_iff.1 hl
      simp [he]
    obtain ⟨t, hq, href⟩ := reference_entity s hmem
    have hstep : step false none ('&' :: (t ++ s)) = .go [.data [c]] none s := by
      simp only [step, href]
    rw [entityOf, hl, Option.getD_some, show q = '&' :: t from hq, List.cons_append,
      scan_of_go b _ hstep]
    rfl

theorem scan_escapeText (t : Text) : b.scan (escapeText t ++ s) = (b.add (.data t)).scan s := by
  rw [escapeText_eq_flatMap]
  induction t generalizing b with
  | nil => simp [add]
  | cons c t ih =>
    rw [List.flatMap_cons, List.append_assoc, scan_entityOf, ih, add_data_data, List.singleton_append]

/-! ### Markup -/

theorem scan_markup {t rest : Text} {tok : Token} (h : markup none t = .read [tok] none rest) :
    b.scan ('<' :: t) = (b.add tok).scan rest := by
  have hstep : step false none ('<' :: t) = .go [tok] none rest := by
    simp only [step, markupStep, h]
  rw [scan_of_go b _ hstep]
  rfl

theorem markup_name {name : Text} (hname : isPlainName name) (t : Text) :
    markup none (name ++ t) = startTag (name ++ t) := by
  obtain ⟨c, u, rfl, hc⟩ := isPlainName_head hname
  have hkey := isKeyChar_of_isLower hc
  have h₁ := ne_of_isKeyChar (d := '/') hkey rfl
  have h₂ := ne_of_isKeyChar (d := '!') hkey rfl
  have h₃ := ne_of_isKeyChar (d := '?') hkey rfl
  rw [List.cons_append]
  unfold markup
  split
  · next he => cases he
  · next he => exact absurd (List.cons.inj he).1 h₁
  · next he => exact absurd (List.cons.inj he).1 h₂
  · next he => exact absurd (List.cons.inj he).1 h₃
  · next he =>
    cases he
    rw [if_pos (isLetter_of_isLower hc)]

theorem scan_opening {name : Text} {attrs : Attrs} (hname : isPlainName name)
    (hraw : isRawName name = false) (hattrs : ∀ a ∈ attrs, isPlainAttr a) :
    b.scan ('<' :: (name ++ tagRest attrs .opened s)) = (b.add (.opening name attrs)).scan s :=
  scan_markup b ((markup_name hname _).trans (startTag_opened hname hraw hattrs))

theorem scan_selfClosed {name : Text} {attrs : Attrs} (hname : isPlainName name)
    (hattrs : ∀ a ∈ attrs, isPlainAttr a) :
    b.scan ('<' :: (name ++ tagRest attrs .selfClosed s)) = (b.add (.selfClosed name attrs)).scan s :=
  scan_markup b ((markup_name hname _).trans (startTag_selfClosed hname hattrs))

theorem scan_closing {name : Text} (hname : isPlainName name) :
    b.scan ("</" ++ (name ++ '>' :: s) : Text) = (b.add (.closing name)).scan s :=
  scan_markup b (endTag_printed hname s)

theorem scan_comment {body : Text} (h : contains "--" body = false) :
    b.scan ("<!-- " ++ (body ++ (" -->" ++ s)) : Text) =
      (b.add (.comment (' ' :: (body ++ [' '])))).scan s :=
  scan_markup b (declaration_comment h s)

end Builder
end Componentry.Markup
