import Componentry.Proofs.Elixir.Denotation
import Componentry.Proofs.Elixir.ExampleFunction

/-!
The sections of a module in the template: the margin that the template itself writes against one that
is written before, between line feeds only.
-/
namespace Componentry.Template

/-- The expression without a margin. -/
def Expr.bare : Expr → Expr
  | .indent e _ _ => e
  | e => e

mutual
/-- The item without margins. -/
def Item.bare : Item → Item
  | .text s => .text s
  | .expr e => .expr e.bare
  | .cond e yes no => .cond e (bareAll yes) (bareAll no)
def bareAll : List Item → List Item
  | [] => []
  | i :: is => i.bare :: bareAll is
end

end Componentry.Template

namespace Componentry.Elixir
open Componentry.Component Componentry.Document Componentry.Markup Componentry.Template Componentry.Text

/-! ### Margins -/

section Margin
variable {s : Text} {margin : Nat}

theorem indent_eq (margin : Nat) (s : Text) : indent margin s = unlines ((splitOn '\n' s).map (inset margin)) := rfl

/-- The template's margin stands before the lines of a block, whatever ends them. -/
theorem indentLines_eq (h : IsBlock s) (margin : Nat) :
    indentLines margin true s = indent margin (unlines (lines s)) := by
  obtain ⟨l, ls, hlines, hne⟩ := exists_lines_eq_cons h
  rw [indentLines, lines_concat h, indent_eq, splitOn_unlines_lines h, hlines, List.map_cons, inset_of_ne_nil hne]
  exact append_joinWith _ _ _

theorem indent_ne_nil (h : s ≠ []) (margin : Nat) : indent margin s ≠ [] := by
  intro hnil
  cases hsplit : splitOn '\n' s with
  | nil => exact splitOn_ne_nil '\n' s hsplit
  | cons l ls =>
    rw [indent_eq, hsplit, List.map_cons] at hnil
    by_cases hls : ls = []
    · subst hls
      obtain rfl : l = s := by
        have hjoin : joinWith ['\n'] (splitOn '\n' s) = s := joinWith_splitOn s
        rwa [hsplit] at hjoin
      rw [List.map_nil, unlines_singleton, inset_of_ne_nil h] at hnil
      exact h (List.append_eq_nil_iff.1 hnil).2
    · rw [unlines, joinWith_cons _ (by simpa using hls)] at hnil
      simp at hnil

/-! ### Characters that end a line and are no line feeds -/

def isStray (c : Char) : Bool := isLineBreak c && c ≠ '\n'

/-- How many ends of lines of another kind a text has. -/
def strays (s : Text) : Nat := s.countP isStray

theorem strays_append (s t : Text) : strays (s ++ t) = strays s + strays t := List.countP_append

theorem strays_eq_zero_iff : strays s = 0 ↔ ∀ c ∈ s, isLineBreak c = true → c = '\n' := by
  simp [strays, isStray]

theorem strays_eq_zero_of_lines {ls : List Text} (h : ∀ l ∈ ls, ∀ c ∈ l, isLineBreak c = false) :
    strays (unlines ls) = 0 := by
  rw [strays_eq_zero_iff]
  intro c hc hbreak
  obtain hsep | ⟨l, hl, hin⟩ := mem_of_mem_joinWith hc
  · exact List.mem_singleton.1 hsep
  · rw [h l hl c hin] at hbreak
    cases hbreak

theorem strays_unlines (ls : List Text) : strays (unlines ls) = strays ls.flatten := by
  induction ls with
  | nil => rfl
  | cons l ls ih =>
    by_cases hls : ls = []
    · subst hls
      simp [unlines_singleton]
    · have hsep : strays ['\n'] = 0 := by decide
      rw [unlines, joinWith_cons l hls, strays_append, strays_append, ← unlines, ih, hsep, List.flatten_cons,
        strays_append, Nat.zero_add]

theorem strays_inset (margin : Nat) (l : Text) : strays (inset margin l) = strays l := by
  have hspaces : strays (spaces margin) = 0 := by
    rw [strays_eq_zero_iff]
    intro c hc hbreak
    rw [List.eq_of_mem_replicate hc] at hbreak
    cases hbreak
  by_cases hl : l = []
  · rw [hl, inset_nil]
  · rw [inset_of_ne_nil hl, strays_append, hspaces, Nat.zero_add]

/-- A margin between line feeds leaves every other character alone. -/
theorem strays_indent (margin : Nat) (s : Text) : strays (indent margin s) = strays s := by
  have hlines : ∀ ls : List Text, strays (ls.map (inset margin)).flatten = strays ls.flatten := by
    intro ls
    induction ls with
    | nil => rfl
    | cons l ls ih =>
      rw [List.map_cons, List.flatten_cons, List.flatten_cons, strays_append, strays_append, ih, strays_inset]
  rw [indent_eq, strays_unlines, hlines, ← strays_unlines, unlines, joinWith_splitOn]

theorem strays_squeezeFrom (seen : Nat) (s : Text) : strays (squeezeFrom seen s) = strays s := by
  induction s generalizing seen with
  | nil => rfl
  | cons c s ih =>
    have hcons (t : Text) : strays (c :: t) = strays [c] + strays t := strays_append [c] t
    rw [squeezeFrom]
    by_cases hc : c = '\n'
    · have hfeed : strays [c] = 0 := by
        subst hc
        decide
      rw [if_pos hc, hcons s, hfeed]
      split
      · rw [hcons, hfeed, ih]
      · rw [ih, Nat.zero_add]
    · rw [if_neg hc, hcons, ih, ← hcons]

end Margin

/-! ### The sections -/

theorem isBlock_function (spec : Spec) : IsBlock (function spec) := by
  obtain ⟨front, close, -, hfunction⟩ := function_eq spec
  obtain ⟨body, hbody⟩ : ∃ body, templateEnd (tagOfClass spec.baseClass) = body ++ [("end" : Text)] := by
    rw [templateEnd]
    split
    · exact ⟨[_], rfl⟩
    · exact ⟨[_, _, _], rfl⟩
  have hlast : (function spec).getLast? = some 'd' := by
    rw [hfunction, hbody, ← List.cons_append, ← List.cons_append, ← List.append_assoc, unlines,
      joinWith_concat (by simp), ← List.append_assoc, List.getLast?_append]
    rfl
  exact ⟨⟨'@', rfl, rfl⟩, ⟨'d', hlast, rfl⟩⟩

/-- The examples, unless there are none, begin with the documentation of the first. -/
theorem isBlock_exampleText {spec : Spec} (h : exampleText spec ≠ []) : IsBlock (exampleText spec) := by
  obtain ⟨t, ht⟩ : ∃ t, examplesCode spec.examples = '@' :: t := by
    rw [exampleText, examplesCode_eq] at h
    rw [examplesCode_eq]
    cases hfunctions : spec.examples.flatMap exampleFunctions with
    | nil =>
      rw [hfunctions] at h
      exact absurd rfl h
    | cons f fs =>
      have hcode : f.code = '@' :: f.code.tail := rfl
      rw [List.map_cons, hcode]
      cases fs with
      | nil => exact ⟨_, rfl⟩
      | cons g gs => exact ⟨_, rfl⟩
  rw [exampleText, ht]
  exact isBlock_trimEnd rfl t

section Page
variable {base : Text} {page : Page}

/-- The declarations are lines that nothing else ends. -/
theorem attrLines_ofPage (base : Text) (page : Page) :
    let spec := Spec.ofPage base page
    ∀ l ∈ spec.dimensions.map (attrLine spec) ++ [classLine, restLine spec.baseClass],
      l ≠ [] ∧ ∀ c ∈ l, isLineBreak c = false := by
  intro spec l hl
  have hwords : ∀ d ∈ spec.dimensions, OfVocabulary spec d := by
    intro d hd
    obtain ⟨b, hb⟩ := exists_baseClass_of_mem_dimensions hd
    exact ofVocabulary_ofPage hb hd
  refine ⟨?_, isLineBreak_of_mem_attrLines hwords l hl⟩
  obtain hl | hl := List.mem_append.1 hl
  · obtain ⟨d, -, rfl⟩ := List.mem_map.1 hl
    rw [attrLine_eq]
    exact List.append_ne_nil_of_left_ne_nil (by decide) _
  · obtain rfl | rfl : l = classLine ∨ l = restLine spec.baseClass := by simpa using hl
    · decide
    · unfold restLine
      split
      · simp
      · decide

theorem isBlock_attrs (base : Text) (page : Page) : IsBlock (attrs (Spec.ofPage base page)) := by
  refine isBlock_joinWith (by simp) fun l hl => ?_
  obtain ⟨hne, hbreak⟩ := attrLines_ofPage base page l hl
  exact isBlock_of_forall hne hbreak

theorem strays_attrs (base : Text) (page : Page) : strays (attrs (Spec.ofPage base page)) = 0 :=
  strays_eq_zero_of_lines fun l hl => (attrLines_ofPage base page l hl).2

/-- So are the clauses of a helper. -/
theorem helperLines_ofPage {d : Dimension} (hd : d ∈ (Spec.ofPage base page).dimensions) :
    let spec := Spec.ofPage base page
    ∀ l ∈ nilClause d :: ((declaredValues spec d).filterMap id).map (helperClause spec d),
      l ≠ [] ∧ ∀ c ∈ l, isLineBreak c = false := by
  intro spec
  have hnil : ∀ e ∈ Dimension.all, (nilClause e).any isLineBreak = false := by decide
  obtain ⟨b, hb⟩ := exists_baseClass_of_mem_dimensions hd
  refine List.forall_mem_cons.2 ⟨⟨?_, fun c hc => ?_⟩, fun l hl => ?_⟩
  · exact List.append_ne_nil_of_right_ne_nil _ (by decide)
  · exact isLineBreak_of_mem (hnil d (List.mem_filter.1 hd).1) hc
  · obtain ⟨v, hv, rfl⟩ := List.mem_map.1 hl
    have hword := mem_vocabulary_of_mem_declaredValues hb (by simpa using hv)
    refine ⟨List.append_ne_nil_of_right_ne_nil _ (by decide), fun c hc => ?_⟩
    obtain hin | hbreak := mem_or_of_mem_helperClause hb hword hc
    · exact isLineBreak_of_mem_baseClass hb c hin
    · exact hbreak

theorem isBlock_helpers (h : helpers (Spec.ofPage base page) ≠ []) : IsBlock (helpers (Spec.ofPage base page)) := by
  have hne : (Spec.ofPage base page).dimensions ≠ [] := fun hnil => h (if_pos hnil)
  have hheading : IsBlock helpersHeading := ⟨⟨'#', rfl, rfl⟩, ⟨'n', rfl, rfl⟩⟩
  rw [helpers_eq_joinWith hne]
  refine isBlock_joinWith (by simp) (List.forall_mem_cons.2 ⟨hheading, fun t ht => ?_⟩)
  obtain ⟨d, hd, rfl⟩ := List.mem_map.1 ht
  refine isBlock_joinWith (by simp) fun l hl => ?_
  obtain ⟨hlne, hbreak⟩ := helperLines_ofPage hd l hl
  exact isBlock_of_forall hlne hbreak

theorem strays_helpers (base : Text) (page : Page) : strays (helpers (Spec.ofPage base page)) = 0 := by
  by_cases hne : (Spec.ofPage base page).dimensions = []
  · rw [helpers, if_pos hne]
    rfl
  · have hsep : strays "\n\n" = 0 := by decide
    have hheading : strays helpersHeading = 0 := by decide
    rw [strays_eq_zero_iff] at hsep hheading ⊢
    rw [helpers_eq_joinWith hne]
    intro c hc
    obtain hc | ⟨t, ht, hc⟩ := mem_of_mem_joinWith hc
    · exact hsep c hc
    · obtain rfl | ht := List.mem_cons.1 ht
      · exact hheading c hc
      · obtain ⟨d, hd, rfl⟩ := List.mem_map.1 ht
        exact strays_eq_zero_iff.1 (strays_eq_zero_of_lines fun l hl => (helperLines_ofPage hd l hl).2) c hc

end Page

/-! ### The template over sections that have their margin -/

section Embedding
variable {set : Text → Text} {spec : Spec}

/-- The names that the template uses, the sections changed by `set`. -/
def sectionScope (set : Text → Text) (spec : Spec) : Scope := [
    ("spec", spec.toValue),
    ("usage", .text (usage spec)),
    ("attrs", .text (set (attrs spec))),
    ("component_function", .text (set (function spec))),
    ("class_helpers", .text (set (helpers spec))),
    ("examples", .text (set (exampleText spec)))]

/-- The module in which the usual template has `set` of each section in place of its own margins. -/
def renderWith (set : Text → Text) (spec : Spec) : Except Template.Fault Text :=
  (renderAll (sectionScope set spec) (bareAll standardTemplate)).map formatCode

def sections (spec : Spec) : List Text := [attrs spec, function spec, helpers spec, exampleText spec]

def classesPart (set : Text → Text) (spec : Spec) : Text :=
  if helpers spec = [] then [] else set (helpers spec) ++ "\n\n"

def examplesPart (set : Text → Text) (spec : Spec) : Text :=
  if exampleText spec = [] then [] else "  # Examples\n\n" ++ (set (exampleText spec) ++ "\n")

/-- What the items of the template come to with `set` of each section. -/
def piecesWith (set : Text → Text) (spec : Spec) : List Text :=
  (modulePieces spec).take 9 ++ [set (attrs spec), "\n\n", set (function spec), "\n\n", classesPart set spec,
    examplesPart set spec, "end"]

theorem modulePieces_eq (spec : Spec) : modulePieces spec = piecesWith (indentLines 2 true) spec := rfl

theorem renderAll_bare (h : ∀ s ∈ sections spec, set s = [] ↔ s = []) :
    renderAll (sectionScope set spec) (bareAll standardTemplate) = .ok (piecesWith set spec).flatten := by
  have hhelpers : renderAll (sectionScope set spec) [.expr (.name "class_helpers"), .text "\n\n"] =
      .ok (set (helpers spec) ++ "\n\n") := rfl
  have hexamples : renderAll (sectionScope set spec)
      [.text "  # Examples\n\n", .expr (.name "examples"), .text "\n"] =
      .ok ("  # Examples\n\n" ++ (set (exampleText spec) ++ "\n")) := rfl
  have hempty := h (helpers spec) (by simp [sections])
  have hnone := h (exampleText spec) (by simp [sections])
  rw [piecesWith, classesPart, examplesPart]
  simp only [← hempty, ← hnone]
  refine renderAll_of_forall₂ ?_
  exact .cons rfl <| .cons rfl <| .cons rfl <| .cons rfl <| .cons rfl <| .cons rfl <| .cons rfl <| .cons rfl <|
    .cons rfl <| .cons rfl <| .cons rfl <| .cons rfl <| .cons rfl <| .cons (render_cond rfl hhelpers) <|
    .cons (render_cond rfl hexamples) <| .cons rfl .nil

theorem piecesWith_eq (set : Text → Text) (spec : Spec) :
    piecesWith set spec = ("defmodule " : Text) :: ((piecesWith set spec).tail.dropLast ++ [("end" : Text)]) := rfl

/-- The final form keeps every end of a line but line feeds. -/
theorem strays_formatCode (set : Text → Text) (spec : Spec) :
    strays (formatCode (piecesWith set spec).flatten) = strays (piecesWith set spec).flatten := by
  have hfeed : strays ['\n'] = 0 := by decide
  have hflatten : (piecesWith set spec).flatten =
      "defmodule " ++ (piecesWith set spec).tail.dropLast.flatten ++ "end" := by
    nth_rewrite 1 [piecesWith_eq]
    rw [List.flatten_cons, List.flatten_append, List.flatten_singleton, List.append_assoc]
  rw [hflatten, formatCode_eq, strays_append, strays_squeezeFrom, hfeed, Nat.add_zero]

/-- What the template adds to the sections has a number of them that does not depend on the sections. -/
theorem strays_piecesWith (hnil : set [] = []) (spec : Spec) :
    strays (piecesWith set spec).flatten =
      strays ((modulePieces spec).take 9).flatten + strays ((sections spec).flatMap set) := by
  have hfixed : strays "\n\n" = 0 ∧ strays "  # Examples\n\n" = 0 ∧ strays "\n" = 0 ∧ strays "end" = 0 := by decide
  have hclasses : strays (classesPart set spec) = strays (set (helpers spec)) := by
    rw [classesPart]
    split
    · next h => rw [h, hnil]
    · rw [strays_append, hfixed.1, Nat.add_zero]
  have hexamples : strays (examplesPart set spec) = strays (set (exampleText spec)) := by
    rw [examplesPart]
    split
    · next h => rw [h, hnil]
    · rw [strays_append, strays_append, hfixed.2.1, hfixed.2.2.1, Nat.zero_add, Nat.add_zero]
  rw [piecesWith, List.flatten_append, strays_append]
  simp only [List.flatten_cons, List.flatten_nil, strays_append, hfixed, hclasses, hexamples, sections,
    List.flatMap_cons, List.flatMap_nil]
  have hend : strays [] = 0 := rfl
  omega

end Embedding

/-! ### Pages -/

section Page
variable {base : Text} {page : Page}

/-- A section is a block, unless it is left out. -/
theorem isBlock_of_mem_sections {s : Text} (hs : s ∈ sections (Spec.ofPage base page)) (hne : s ≠ []) :
    IsBlock s := by
  simp only [sections, List.mem_cons, List.not_mem_nil, or_false] at hs
  obtain rfl | rfl | rfl | rfl := hs
  · exact isBlock_attrs base page
  · exact isBlock_function _
  · exact isBlock_helpers hne
  · exact isBlock_exampleText hne

theorem piecesWith_congr {set set' : Text → Text}
    (h : ∀ s ∈ sections (Spec.ofPage base page), IsBlock s → set s = set' s) :
    piecesWith set (Spec.ofPage base page) = piecesWith set' (Spec.ofPage base page) := by
  generalize hspec : Spec.ofPage base page = spec at h ⊢
  have hattrs : set (attrs spec) = set' (attrs spec) :=
    h _ (by simp [sections]) (hspec ▸ isBlock_attrs base page)
  have hfunction : set (function spec) = set' (function spec) :=
    h _ (by simp [sections]) (isBlock_function spec)
  have hclasses : classesPart set spec = classesPart set' spec := by
    refine ite_congr rfl (fun _ => rfl) fun hne => ?_
    subst hspec
    rw [h _ (by simp [sections]) (isBlock_helpers hne)]
  have hexamples : examplesPart set spec = examplesPart set' spec := by
    refine ite_congr rfl (fun _ => rfl) fun hne => ?_
    rw [h _ (by simp [sections]) (isBlock_exampleText hne)]
  rw [piecesWith, piecesWith, hattrs, hfunction, hclasses, hexamples]

theorem renderWith_eq {set : Text → Text} (hnil : set [] = [])
    (h : ∀ s ∈ sections (Spec.ofPage base page), IsBlock s → set s ≠ []) :
    renderWith set (Spec.ofPage base page) = .ok (formatCode (piecesWith set (Spec.ofPage base page)).flatten) := by
  rw [renderWith, renderAll_bare, Except.map]
  intro s hs
  by_cases hne : s = []
  · rw [hne, hnil]
  · exact iff_of_false (h s hs (isBlock_of_mem_sections hs hne)) hne

/-- The lines of the text, whatever ends them, with a margin. -/
def insetLines (s : Text) : Text := indent 2 (unlines (lines s))

theorem strays_insetLines (s : Text) : strays (insetLines s) = 0 := by
  rw [insetLines, strays_indent]
  exact strays_eq_zero_of_lines fun l hl => isLineBreak_of_mem_lines hl

theorem insetLines_ne_nil {s : Text} (h : IsBlock s) : insetLines s ≠ [] := by
  refine indent_ne_nil (fun hnil => ?_) 2
  obtain ⟨l, ls, hl, hne⟩ := exists_lines_eq_cons h
  have hsplit := splitOn_unlines_lines h
  rw [hnil, hl] at hsplit
  exact hne (List.cons.inj hsplit).1.symm

theorem render_eq (base : Text) (page : Page) :
    render standardTemplate (Spec.ofPage base page) =
      .ok (formatCode (piecesWith insetLines (Spec.ofPage base page)).flatten) := by
  rw [render, renderAll_eq_flatten, modulePieces_eq, piecesWith_congr fun s _ hs => indentLines_eq hs 2]
  rfl

/-- The margin of the template and one between line feeds come to the same just if line feeds alone end lines
in the sections that may have other ends of lines. -/
theorem render_eq_renderWith_indent_iff (base : Text) (page : Page) :
    render standardTemplate (Spec.ofPage base page) = renderWith (indent 2) (Spec.ofPage base page) ↔
      ∀ s ∈ [function (Spec.ofPage base page), exampleText (Spec.ofPage base page)],
        ∀ c ∈ s, isLineBreak c = true → c = '\n' := by
  have hattrs := strays_attrs base page
  have hhelpers := strays_helpers base page
  have hindent : renderWith (indent 2) (Spec.ofPage base page) =
      .ok (formatCode (piecesWith (indent 2) (Spec.ofPage base page)).flatten) := renderWith_eq rfl
    fun s _ hs => indent_ne_nil hs.ne_nil 2
  rw [render_eq, hindent, Except.ok.injEq, List.forall_mem_cons, List.forall_mem_singleton,
    ← strays_eq_zero_iff, ← strays_eq_zero_iff]
  constructor
  · intro h
    have hcount := congrArg strays h
    rw [strays_formatCode, strays_formatCode, strays_piecesWith rfl, strays_piecesWith rfl] at hcount
    simp only [sections, List.flatMap_cons, List.flatMap_nil, strays_append, strays_insetLines,
      strays_indent] at hcount
    omega
  · intro h
    have hclean : ∀ s ∈ sections (Spec.ofPage base page), strays s = 0 := by
      simp only [sections, List.forall_mem_cons]
      exact ⟨hattrs, h.1, hhelpers, h.2, by simp⟩
    have hsame : piecesWith insetLines (Spec.ofPage base page) = piecesWith (indent 2) (Spec.ofPage base page) := by
      refine piecesWith_congr fun s hs hblock => ?_
      rw [insetLines, unlines_lines hblock (strays_eq_zero_iff.1 (hclean s hs))]
    rw [hsame]

end Page

/-- In the module of a page each section has two spaces before its lines, whatever ends a line: every end of
a line is a line feed then. With a margin written between line feeds only, before the template takes the
sections, the module is the same just if nothing else ends a line in the component function, which has
the name of the component, and in the examples, which have what is documented. -/
theorem sections_embedded_iff (base : Text) (page : Page) :
    let spec := Spec.ofPage base page
    render standardTemplate spec = renderWith (fun s => indent 2 (unlines (lines s))) spec ∧
      (render standardTemplate spec = renderWith (indent 2) spec ↔
        ∀ s ∈ [function spec, exampleText spec], ∀ c ∈ s, isLineBreak c = true → c = '\n') :=
  ⟨(render_eq base page).trans (renderWith_eq rfl fun _ _ hs => insetLines_ne_nil hs).symm,
    render_eq_renderWith_indent_iff base page⟩

/-- A form feed in a text, which a reference may stand for. -/
def feedForest : List Node := [.element "p" [] [.text ['a', '\x0c', 'b']]]

def feedPage : Page := ⟨"docs/text/+page.md", [⟨"Text", feedForest⟩]⟩

/-- The text is cut in the module: the template puts what follows the form feed on a line of its own. -/
theorem sections_cut :
    parse "<p>a&#12;b</p>" = .ok feedForest ∧
      render standardTemplate (Spec.ofPage defaultNamespace feedPage) ≠
        renderWith (indent 2) (Spec.ofPage defaultNamespace feedPage) := by
  have hfeed : '\x0c' ∈ exampleText (Spec.ofPage defaultNamespace feedPage) := by decide
  refine ⟨by with_unfolding_all rfl, fun h => ?_⟩
  have hline := (render_eq_renderWith_indent_iff _ _).1 h _ (by simp) _ hfeed rfl
  exact absurd hline (by decide)

end Componentry.Elixir
