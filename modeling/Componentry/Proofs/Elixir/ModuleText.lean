import Componentry.Elixir.Module
import Componentry.Proofs.Elixir.LiteralReading
import Componentry.Proofs.Text.Lines
import Componentry.Proofs.Text.Trim
import Mathlib.Data.List.Forall2

/-!
The text of a rendered module, line by line: what the usual template puts together, what a section's
lines become in it, and what the final form leaves of them.
-/
namespace Componentry.Elixir
open Componentry.Component Componentry.Template Componentry.Text

/-! ### The final form -/

section Squeeze
variable {seen : Nat} {l s u : Text} {ls : List Text}

/-- The number of line feeds at the end of a text, as far as they are counted. -/
def seenAfter (seen : Nat) (u : Text) : Nat :=
  u.foldl (fun n c => if c = '\n' then if n < 2 then n + 1 else n else 0) seen

theorem squeezeFrom_append (seen : Nat) (u s : Text) :
    squeezeFrom seen (u ++ s) = squeezeFrom seen u ++ squeezeFrom (seenAfter seen u) s := by
  induction u generalizing seen with
  | nil => rfl
  | cons c u ih =>
    have hafter : seenAfter seen (c :: u) =
        seenAfter (if c = '\n' then if seen < 2 then seen + 1 else seen else 0) u := rfl
    rw [List.cons_append, squeezeFrom, squeezeFrom, hafter]
    by_cases hc : c = '\n'
    · by_cases hseen : seen < 2
      · simp only [if_pos hc, if_pos hseen, ih, List.cons_append]
      · simp only [if_pos hc, if_neg hseen, ih]
    · simp only [if_neg hc, ih, List.cons_append]

theorem squeezeFrom_eq_self (h : '\n' ∉ u) : squeezeFrom seen u = u := by
  induction u generalizing seen with
  | nil => rfl
  | cons c u ih =>
    have hc : c ≠ '\n' := fun he => h (by simp [he])
    rw [squeezeFrom, if_neg hc, ih fun hm => h (List.mem_cons_of_mem c hm)]

theorem seenAfter_eq_zero (h : '\n' ∉ u) (hne : u ≠ []) : seenAfter seen u = 0 := by
  have hlast : u.getLast hne ≠ '\n' := fun he => h (he ▸ List.getLast_mem hne)
  rw [seenAfter, ← List.dropLast_append_getLast hne, List.foldl_append]
  exact if_neg hlast

theorem squeezeFrom_line (hl : l ≠ []) (hlf : '\n' ∉ l) (s : Text) :
    squeezeFrom seen (l ++ '\n' :: s) = l ++ '\n' :: squeezeFrom 1 s := by
  rw [squeezeFrom_append, squeezeFrom_eq_self hlf, seenAfter_eq_zero hlf hl]
  rfl

/-- Lines of which no two in a row are empty stay as they are. -/
theorem squeezeFrom_ended {first : Text} (hlines : ∀ l ∈ first :: ls, '\n' ∉ l)
    (hgaps : (first :: ls).IsChain fun l m => l ≠ [] ∨ m ≠ []) (s : Text) :
    ∃ n, squeezeFrom (if first = [] then 2 else 1) (ended ls ++ s) = ended ls ++ squeezeFrom n s := by
  induction ls generalizing first with
  | nil => exact ⟨_, rfl⟩
  | cons l ls ih =>
    obtain ⟨hgap, hgaps⟩ := List.isChain_cons_cons.1 hgaps
    obtain ⟨n, hn⟩ := ih (fun m hm => hlines m (List.mem_cons_of_mem first hm)) hgaps
    refine ⟨n, ?_⟩
    rw [ended_cons, List.append_assoc, List.cons_append, List.append_assoc, List.cons_append, ← hn]
    by_cases hl : l = []
    · subst hl
      rw [if_neg (hgap.resolve_right (by simp)), if_pos rfl]
      rfl
    · rw [if_neg hl, squeezeFrom_line hl (hlines l (by simp))]

/-- The final form takes only empty lines away. -/
theorem filter_splitOn_squeezeFrom (s : Text) :
    (splitOn '\n' (squeezeFrom 0 s)).filter (· ≠ []) = (splitOn '\n' s).filter (· ≠ []) := by
  -- `u` is the line that has been begun; a line feed can be dropped only where there is none
  have hopen : ∀ u seen, '\n' ∉ u → (u ≠ [] → seen = 0) →
      (splitOn '\n' (u ++ squeezeFrom seen s)).filter (· ≠ []) = (splitOn '\n' (u ++ s)).filter (· ≠ []) := by
    induction s with
    | nil => exact fun u seen _ _ => rfl
    | cons c s ih =>
      intro u seen hu hseen
      by_cases hc : c = '\n'
      · subst hc
        have hrest (n : Nat) : (splitOn '\n' (squeezeFrom n s)).filter (· ≠ []) =
            (splitOn '\n' s).filter (· ≠ []) := ih [] n List.not_mem_nil fun h => absurd rfl h
        rw [squeezeFrom, if_pos rfl]
        split
        · rw [splitOn_append_cons hu, splitOn_append_cons hu, List.filter_cons, List.filter_cons, hrest]
        · next hmany =>
          have hnil : u = [] := by
            by_contra hne
            rw [hseen hne] at hmany
            exact hmany (by decide)
          subst hnil
          rw [List.nil_append, List.nil_append, hrest, splitOn, if_pos rfl]
          rfl
      · rw [squeezeFrom, if_neg hc]
        have hu' : '\n' ∉ u ++ [c] := by simp [hu, Ne.symm hc]
        have hrest := ih (u ++ [c]) 0 hu' fun _ => rfl
        rwa [List.append_assoc, List.append_assoc] at hrest
  exact hopen [] 0 List.not_mem_nil fun h => absurd rfl h

end Squeeze

/-! ### Sections -/

/-- A line of a section gets the margin, unless it is empty or has an end of line of another kind in it. -/
theorem mem_splitOn_indentLines {l s : Text} (hl : l ∈ splitOn '\n' s) (hbreak : ∀ c ∈ l, isLineBreak c = false)
    (hne : l ≠ []) (margin : Nat) : spaces margin ++ l ∈ splitOn '\n' (indentLines margin true s) := by
  have hmem := mem_lines_of_mem_splitOn hl (List.any_eq_false.2 fun c hc => by simp [hbreak c hc])
  have hline : '\n' ∉ spaces margin ++ l := not_mem_spaces_append (by decide) (lineFeed_not_mem hbreak) margin
  rw [indentLines]
  cases hlines : lines (s ++ ['\n']) with
  | nil =>
    rw [hlines] at hmem
    cases hmem
  | cons first rest =>
    rw [hlines] at hmem
    simp only [if_true]
    rw [unlines, append_joinWith, ← unlines]
    refine mem_splitOn_unlines ?_ hline
    obtain rfl | hrest := List.mem_cons.1 hmem
    · exact List.mem_cons_self
    · exact List.mem_cons_of_mem _ (List.mem_map.2 ⟨l, hrest, if_neg hne⟩)

/-! ### The usual template -/

theorem renderAll_of_forall₂ {scope : Scope} {is : List Item} {ts : List Text}
    (h : List.Forall₂ (fun i t => i.render scope = .ok t) is ts) : renderAll scope is = .ok ts.flatten := by
  induction h with
  | nil => rfl
  | @cons i t is ts hi _ ih =>
    rw [renderAll, hi, ih]
    rfl

/-- A condition on a text takes its branch if the text is not empty. -/
theorem render_cond {scope : Scope} {name s t : Text} {yes : List Item}
    (hname : scope.lookup name = some (.text s)) (hyes : renderAll scope yes = .ok t) :
    (Item.cond (.name name) yes []).render scope = .ok (if s = [] then [] else t) := by
  have heval : (Expr.name name).eval scope = .ok (.text s) := by rw [Expr.eval, hname]
  rw [Item.render, heval]
  by_cases hs : s = []
  · simp [hs, Value.isTrue, renderAll]
  · simp [hs, Value.isTrue, hyes]

def nameLine (spec : Spec) : Text := spec.name ++ " component with DaisyUI styling."

def pathLine (spec : Spec) : Text := "Generated from: " ++ spec.sourcePath

def usageLine (spec : Spec) : Text := "    " ++ usage spec

def examplesHeading : Text := "## Examples"

/-- What the documentation of a module says, line by line. -/
def docLines (spec : Spec) : List Text :=
  [nameLine spec, [], pathLine spec, [], examplesHeading, [], usageLine spec]

def docEnd : Text := "  \"\"\""

def exampleText (spec : Spec) : Text := trimEnd (examplesCode spec.examples)

/-- The sections of a module and what is between them, after the documentation. A section counts as a
line here. -/
def sectionLines (spec : Spec) : List Text :=
  let component : List Text := [[], "  use Phoenix.Component", [], "  # Component", [],
    indentLines 2 true (attrs spec), [], indentLines 2 true (function spec), []]
  let classes : List Text := [indentLines 2 true (helpers spec), []]
  let shown : List Text := ["  # Examples", [], indentLines 2 true (exampleText spec)]
  component ++ ((if helpers spec = [] then [] else classes) ++ (if exampleText spec = [] then [] else shown))

def openingLine (spec : Spec) : Text := "defmodule " ++ (spec.moduleName ++ " do")

def docOpening : Text := "  @moduledoc \"\"\""

/-- All that the template puts before the last line. -/
def moduleLines (spec : Spec) : List Text :=
  openingLine spec :: docOpening :: ((docLines spec).map (inset 2) ++ docEnd :: sectionLines spec)

theorem nameLine_ne_nil (spec : Spec) : nameLine spec ≠ [] := List.append_ne_nil_of_right_ne_nil _ (by decide)

theorem pathLine_ne_nil (spec : Spec) : pathLine spec ≠ [] := List.append_ne_nil_of_left_ne_nil (by decide) _

theorem usageLine_ne_nil (spec : Spec) : usageLine spec ≠ [] := List.append_ne_nil_of_left_ne_nil (by decide) _

theorem map_inset_docLines (spec : Spec) :
    (docLines spec).map (inset 2) = [spaces 2 ++ nameLine spec, [], spaces 2 ++ pathLine spec, [],
      spaces 2 ++ examplesHeading, [], spaces 2 ++ usageLine spec] := by
  have hheading : inset 2 examplesHeading = spaces 2 ++ examplesHeading := by decide
  simp only [docLines, List.map_cons, List.map_nil, inset_nil, hheading, inset_of_ne_nil (nameLine_ne_nil spec),
    inset_of_ne_nil (pathLine_ne_nil spec), inset_of_ne_nil (usageLine_ne_nil spec)]

/-- The pieces that the items of the template are rendered to. -/
def modulePieces (spec : Spec) : List Text :=
  let code := indentLines 2 true
  [("defmodule " : Text), spec.moduleName, " do\n  @moduledoc \"\"\"\n  ", spec.name,
    " component with DaisyUI styling.\n\n  Generated from: ", spec.sourcePath,
    "\n\n  ## Examples\n\n      ", usage spec,
    "\n  \"\"\"\n\n  use Phoenix.Component\n\n  # Component\n\n", code (attrs spec), "\n\n",
    code (function spec), "\n\n",
    if helpers spec = [] then [] else code (helpers spec) ++ "\n\n",
    if exampleText spec = [] then [] else "  # Examples\n\n" ++ (code (exampleText spec) ++ "\n"),
    "end"]

theorem renderAll_eq_flatten (spec : Spec) :
    renderAll (moduleScope spec) standardTemplate = .ok (modulePieces spec).flatten := by
  have hhelpers : renderAll (moduleScope spec) [.expr (.indent (.name "class_helpers") 2 true), .text "\n\n"] =
      .ok (indentLines 2 true (helpers spec) ++ "\n\n") := rfl
  have hexamples : renderAll (moduleScope spec)
      [.text "  # Examples\n\n", .expr (.indent (.name "examples") 2 true), .text "\n"] =
      .ok ("  # Examples\n\n" ++ (indentLines 2 true (exampleText spec) ++ "\n")) := rfl
  refine renderAll_of_forall₂ ?_
  exact .cons rfl <| .cons rfl <| .cons rfl <| .cons rfl <| .cons rfl <| .cons rfl <| .cons rfl <| .cons rfl <|
    .cons rfl <| .cons rfl <| .cons rfl <| .cons rfl <| .cons rfl <| .cons (render_cond rfl hhelpers) <|
    .cons (render_cond rfl hexamples) <| .cons rfl .nil

theorem flatten_modulePieces (spec : Spec) :
    (modulePieces spec).flatten = ended (moduleLines spec) ++ "end" := by
  have hhead : (" do\n  @moduledoc \"\"\"\n  " : Text) = " do" ++ '\n' :: (docOpening ++ '\n' :: spaces 2) := by
    decide
  have hname : (" component with DaisyUI styling.\n\n  Generated from: " : Text) =
      " component with DaisyUI styling." ++ '\n' :: '\n' :: (spaces 2 ++ "Generated from: ") := by decide
  have hpath : ("\n\n  ## Examples\n\n      " : Text) =
      '\n' :: '\n' :: (spaces 2 ++ (examplesHeading ++ '\n' :: '\n' :: (spaces 2 ++ "    "))) := by decide
  have husage : ("\n  \"\"\"\n\n  use Phoenix.Component\n\n  # Component\n\n" : Text) =
      '\n' :: (docEnd ++ '\n' :: '\n' :: ("  use Phoenix.Component" ++ '\n' :: '\n' ::
        ("  # Component" ++ ['\n', '\n']))) := by decide
  have hshown : ("  # Examples\n\n" : Text) = "  # Examples" ++ ['\n', '\n'] := by decide
  have hgap : ("\n\n" : Text) = ['\n', '\n'] := by decide
  have hend : ("\n" : Text) = ['\n'] := by decide
  rw [modulePieces, hhead, hname, hpath, husage, hshown, hgap, hend]
  rw [moduleLines, map_inset_docLines, sectionLines]
  -- `unfold`, since the equations of a text that begins with a literal are slow to state
  unfold openingLine nameLine pathLine usageLine
  by_cases hclasses : helpers spec = [] <;> by_cases hexamples : exampleText spec = []
  all_goals
    simp only [hclasses, hexamples, if_true, if_false, ended, List.flatMap_cons, List.flatMap_nil,
      List.flatten_cons, List.flatten_nil, List.append_assoc, List.cons_append, List.nil_append, List.append_nil]

/-! ### The rendered module -/

/-- The text of a module. -/
def moduleText (spec : Spec) : Text := squeezeFrom 0 (ended (moduleLines spec)) ++ "end\n"

section Module
variable {spec : Spec}

theorem squeezeFrom_module (spec : Spec) :
    squeezeFrom 0 (ended (moduleLines spec) ++ "end") ++ ['\n'] = moduleText spec := by
  have hend : '\n' ∉ ("end" : Text) := by decide
  have hlast : ("end" : Text) ++ ['\n'] = "end\n" := by decide
  rw [squeezeFrom_append, squeezeFrom_eq_self hend, List.append_assoc, hlast, moduleText]

/-- A text that begins with the keyword of a module and ends with the other one has nothing to trim. -/
theorem formatCode_eq (s : Text) :
    formatCode ("defmodule " ++ s ++ "end") = squeezeFrom 0 ("defmodule " ++ s ++ "end") ++ ['\n'] := by
  have hend : '\n' ∉ ("end" : Text) := by decide
  have hhead : (squeezeFrom 0 ("defmodule " ++ s ++ "end")).head? = some 'd' := rfl
  have hlast : (squeezeFrom 0 ("defmodule " ++ s ++ "end")).getLast? = some 'd' := by
    rw [squeezeFrom_append, squeezeFrom_eq_self hend, List.getLast?_append]
    rfl
  have hletter : isBlank 'd' = false := rfl
  rw [formatCode, trim, trimWhere_eq_self_of_ends]
  · intro c hc
    rw [hhead] at hc
    exact Option.some.inj hc ▸ hletter
  · intro c hc
    rw [hlast] at hc
    exact Option.some.inj hc ▸ hletter

theorem render_standardTemplate (spec : Spec) : render standardTemplate spec = .ok (moduleText spec) := by
  obtain ⟨s, hs⟩ : ∃ s, ended (moduleLines spec) ++ "end" = "defmodule " ++ s ++ "end" := by
    rw [moduleLines, ended_cons]
    unfold openingLine
    exact ⟨_, congrArg (· ++ ("end" : Text)) (List.append_assoc _ _ _)⟩
  rw [render, renderAll_eq_flatten, flatten_modulePieces, Except.map, hs, formatCode_eq, ← hs, squeezeFrom_module]

/-- The lines that the template puts together are in the module, unless they are empty. -/
theorem mem_splitOn_moduleText {part l : Text} (hpart : part ∈ moduleLines spec)
    (hl : l ∈ splitOn '\n' part) (hne : l ≠ []) : l ∈ splitOn '\n' (moduleText spec) := by
  have hwhole : l ∈ splitOn '\n' (ended (moduleLines spec) ++ "end") := by
    rw [splitOn_ended_append]
    exact List.mem_append_left _ (List.mem_flatMap.2 ⟨part, hpart, hl⟩)
  have hkept : l ∈ (splitOn '\n' (squeezeFrom 0 (ended (moduleLines spec) ++ "end"))).filter (· ≠ []) := by
    rw [filter_splitOn_squeezeFrom]
    exact List.mem_filter.2 ⟨hwhole, decide_eq_true hne⟩
  rw [← squeezeFrom_module, splitOn_append]
  exact List.mem_append_left _ (List.mem_filter.1 hkept).1

/-- A line of a section is in the module with two spaces before it. -/
theorem mem_splitOn_of_section {code l : Text} (hcode : indentLines 2 true code ∈ moduleLines spec)
    (hl : l ∈ splitOn '\n' code) (hbreak : ∀ c ∈ l, isLineBreak c = false) (hne : l ≠ []) :
    spaces 2 ++ l ∈ splitOn '\n' (moduleText spec) :=
  mem_splitOn_moduleText hcode (mem_splitOn_indentLines hl hbreak hne 2)
    (List.append_ne_nil_of_right_ne_nil _ hne)

theorem mem_moduleLines_of_mem_sectionLines {l : Text} (h : l ∈ sectionLines spec) : l ∈ moduleLines spec :=
  .tail _ <| .tail _ <| List.mem_append_right _ <| .tail _ h

theorem function_mem_moduleLines (spec : Spec) : indentLines 2 true (function spec) ∈ moduleLines spec :=
  mem_moduleLines_of_mem_sectionLines <| List.mem_append_left _ <|
    .tail _ <| .tail _ <| .tail _ <| .tail _ <| .tail _ <| .tail _ <| .tail _ <| .head _

theorem helpers_mem_moduleLines (h : helpers spec ≠ []) :
    indentLines 2 true (helpers spec) ∈ moduleLines spec := by
  refine mem_moduleLines_of_mem_sectionLines (List.mem_append_right _ (List.mem_append_left _ ?_))
  rw [if_neg h]
  exact List.mem_cons_self

/-! ### The documentation -/

theorem openingLine_ne_nil (spec : Spec) : openingLine spec ≠ [] :=
  List.append_ne_nil_of_left_ne_nil (by decide) _

/-- Of the lines up to the end of the documentation no two in a row are empty. -/
theorem isChain_docLines (spec : Spec) :
    (openingLine spec :: docOpening :: ((docLines spec).map (inset 2) ++ [docEnd])).IsChain
      fun l m => l ≠ [] ∨ m ≠ [] := by
  have hset {l : Text} (h : l ≠ []) : spaces 2 ++ l ≠ [] := List.append_ne_nil_of_right_ne_nil _ h
  have hname := hset (nameLine_ne_nil spec)
  have hpath := hset (pathLine_ne_nil spec)
  have husage := hset (usageLine_ne_nil spec)
  have hheading : spaces 2 ++ examplesHeading ≠ [] := by decide
  rw [map_inset_docLines]
  exact .cons_cons (.inl (openingLine_ne_nil spec)) <| .cons_cons (.inl (by decide)) <| .cons_cons (.inl hname) <|
    .cons_cons (.inr hpath) <| .cons_cons (.inl hpath) <| .cons_cons (.inr hheading) <|
    .cons_cons (.inl hheading) <| .cons_cons (.inr husage) <| .cons_cons (.inl husage) <| .singleton _

/-- The documentation of a module without line feeds in its names begins at the third line. -/
theorem exists_moduleText_eq (hmodule : '\n' ∉ spec.moduleName) (hdoc : ∀ l ∈ docLines spec, '\n' ∉ l) :
    ∃ rest, moduleText spec = ended [openingLine spec, docOpening] ++ rest ∧
      ∃ more, splitOn '\n' rest = (docLines spec).map (inset 2) ++ docEnd :: more := by
  have hopening : '\n' ∉ openingLine spec := by
    have hfixed : '\n' ∉ ("defmodule " : Text) ∧ '\n' ∉ (" do" : Text) := by decide
    unfold openingLine
    simp only [List.mem_append, hfixed, hmodule, or_self, not_false_eq_true]
  have hinset : ∀ l ∈ (docLines spec).map (inset 2), '\n' ∉ l := by
    intro l hl
    obtain ⟨m, hm, rfl⟩ := List.mem_map.1 hl
    exact lineFeed_not_mem_inset (hdoc m hm)
  have hend : '\n' ∉ docOpening ∧ '\n' ∉ docEnd := by decide
  have hbody : ∀ l ∈ (docLines spec).map (inset 2) ++ [docEnd], '\n' ∉ l := by
    intro l hl
    obtain hl | hl := List.mem_append.1 hl
    · exact hinset l hl
    · rw [List.mem_singleton.1 hl]
      exact hend.2
  obtain ⟨n, hn⟩ := squeezeFrom_ended (List.forall_mem_cons.2 ⟨hopening, List.forall_mem_cons.2 ⟨hend.1, hbody⟩⟩)
    (isChain_docLines spec) (ended (sectionLines spec))
  rw [if_neg (openingLine_ne_nil spec)] at hn
  have hsplit : moduleLines spec = openingLine spec ::
      (docOpening :: ((docLines spec).map (inset 2) ++ [docEnd]) ++ sectionLines spec) := by
    simp [moduleLines]
  refine ⟨ended ((docLines spec).map (inset 2) ++ [docEnd]) ++
    (squeezeFrom n (ended (sectionLines spec)) ++ "end\n"), ?_, splitOn '\n'
      (squeezeFrom n (ended (sectionLines spec)) ++ "end\n"), ?_⟩
  · rw [moduleText, hsplit, ended_cons, squeezeFrom_line (openingLine_ne_nil spec) hopening, ended_append, hn,
      ended_cons, ended_cons, ended_cons]
    simp [ended]
  · rw [splitOn_ended_append, flatMap_splitOn hbody, List.append_assoc, List.singleton_append]

end Module

end Componentry.Elixir
