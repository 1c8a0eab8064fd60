import Componentry.Proofs.Component.FileName
import Componentry.Proofs.Elixir.ModuleText
import Componentry.Proofs.Elixir.Wiring

/-!
What the literals of a module denote: the class names in the class list and in the helpers, and the
documentation. They are written without escapes, so that they are read back just if nothing in them
needs one.
-/
namespace Componentry.Elixir
open Componentry.Component Componentry.Document Componentry.Markup Componentry.Text

/-! ### Class names -/

theorem isLineBreak_of_mem_baseClass {base b : Text} {page : Page}
    (hb : (Spec.ofPage base page).baseClass = some b) : ∀ c ∈ b, isLineBreak c = false :=
  fun _ hc => isLineBreak_of_not_blank (isBlank_of_mem_baseClass hb hc)

/-- A line of the code in which a text stands between quotes as it is, after a given beginning. -/
def HasLiteral (code before t after : Text) : Prop := before ++ '"' :: (t ++ '"' :: after) ∈ splitOn '\n' code

section Literal
variable {spec : Spec} {b v : Text} {d : Dimension}

/-- The words of the vocabularies need no escapes. -/
theorem plain_of_mem_vocabulary :
    ∀ d ∈ Dimension.all, ∀ v ∈ d.vocabulary, '"' ∉ v ∧ DenotesItself v := by decide

theorem quote_not_mem_variantClass (hv : v ∈ d.vocabulary) : '"' ∉ variantClass b v ↔ '"' ∉ b := by
  have hplain := (plain_of_mem_vocabulary d (mem_all_of_mem_vocabulary hv) v hv).1
  simp [variantClass, hplain]

theorem denotesItself_variantClass (hv : v ∈ d.vocabulary) :
    DenotesItself (variantClass b v) ↔ DenotesItself b := by
  have hplain := (plain_of_mem_vocabulary d (mem_all_of_mem_vocabulary hv) v hv).2
  rw [variantClass, denotesItself_append_cons (by decide), and_iff_left hplain]

/-- What stands before the base class in the opening tag of the component's element. -/
def baseClassPlace (spec : Spec) : Text := "    <" ++ (tagOfClass spec.baseClass ++ " class=\x7b[")

/-- What stands before the class in the clause for a value. -/
def variantPlace (d : Dimension) (v : Text) : Text := "  defp " ++ (helperName d ++ ("(:" ++ (v ++ "), do: ")))

theorem exists_openingTag_eq (hb : spec.baseClass = some b) (hne : b ≠ []) (close : Text) :
    ∃ after, spaces 2 ++ openingTag spec close = baseClassPlace spec ++ '"' :: (b ++ '"' :: after) := by
  have hopening : ("    <" : Text) = spaces 2 ++ "  <" := by decide
  have hclass : (" class=\x7b[" : Text) = ' ' :: (classOpening ++ ['[']) := by decide
  obtain ⟨after, hafter⟩ : ∃ after, classAttr spec = baseItem b ++ after := by
    rw [classAttr_eq hb hne, List.cons_append, joinWith_cons _ (by simp)]
    exact ⟨_, rfl⟩
  refine ⟨after ++ ' ' :: ("\x7b@rest\x7d" ++ close), ?_⟩
  unfold openingTag baseClassPlace
  rw [hafter, baseItem, hopening, hclass]
  simp only [List.append_assoc, List.cons_append, List.nil_append]

theorem helperClause_eq (hb : spec.baseClass = some b) (d : Dimension) (v : Text) :
    spaces 2 ++ helperClause spec d v = variantPlace d v ++ '"' :: (variantClass b v ++ ['"']) := by
  have hword : ("  defp " : Text) = spaces 2 ++ "defp " := by decide
  have hdo : ("), do: \"" : Text) = "), do: " ++ ['"'] := by decide
  have hhyphen : ("-" : Text) = ['-'] := by decide
  have hquote : ("\"" : Text) = ['"'] := by decide
  unfold helperClause variantPlace
  rw [baseText, hb, Option.getD_some, hword, hdo, hhyphen, hquote, variantClass]
  simp only [List.append_assoc, List.cons_append, List.nil_append]

/-- The base class is in the class list of the module. -/
theorem exists_hasLiteral_baseClass (hb : spec.baseClass = some b) (hbreak : ∀ c ∈ b, isLineBreak c = false)
    (hne : b ≠ []) : ∃ after, HasLiteral (moduleText spec) (baseClassPlace spec) b after := by
  obtain ⟨front, close, hclose, hfunction⟩ := function_eq spec
  obtain ⟨after, hafter⟩ := exists_openingTag_eq hb hne close
  have hclean : ∀ c ∈ openingTag spec close, isLineBreak c = false := by
    intro c hc
    obtain ⟨b', hb', hin⟩ | h := mem_or_of_mem_openingTag (any_isLineBreak_close close hclose) hc
    · exact hbreak c (Option.some.inj (hb.symm.trans hb') ▸ hin)
    · exact h
  have hline : openingTag spec close ∈ splitOn '\n' (function spec) := by
    rw [hfunction]
    exact mem_splitOn_unlines (by simp) (lineFeed_not_mem hclean)
  have htag : openingTag spec close ≠ [] := List.append_ne_nil_of_right_ne_nil _ (by simp)
  refine ⟨after, ?_⟩
  rw [HasLiteral, ← hafter]
  exact mem_splitOn_of_section (function_mem_moduleLines spec) hline hclean htag

/-- The class of each declared value is in the helper of its dimension. -/
theorem hasLiteral_variantClass (hb : spec.baseClass = some b) (hbreak : ∀ c ∈ b, isLineBreak c = false)
    (hd : d ∈ spec.dimensions) (hv : some v ∈ declaredValues spec d) (hword : v ∈ d.vocabulary) :
    HasLiteral (moduleText spec) (variantPlace d v) (variantClass b v) [] := by
  have hne : spec.dimensions ≠ [] := List.ne_nil_of_mem hd
  have hclean : ∀ c ∈ helperClause spec d v, isLineBreak c = false := by
    intro c hc
    obtain hin | h := mem_or_of_mem_helperClause hb hword hc
    · exact hbreak c hin
    · exact h
  have hclause : helperClause spec d v ≠ [] := List.append_ne_nil_of_right_ne_nil _ (by decide)
  have hhelper : helperClause spec d v ∈ splitOn '\n' (helper spec d) := by
    have hvalue : v ∈ (declaredValues spec d).filterMap id := by simpa using hv
    exact mem_splitOn_unlines (List.mem_cons_of_mem _ (List.mem_map_of_mem hvalue)) (lineFeed_not_mem hclean)
  have hline : helperClause spec d v ∈ splitOn '\n' (helpers spec) := by
    rw [helpers_eq_joinWith hne]
    exact mem_splitOn_joinWith_gap (List.mem_cons_of_mem _ (List.mem_map_of_mem hd)) hhelper
  have hhelpers : helpers spec ≠ [] := by
    intro hnil
    rw [hnil, splitOn, List.mem_singleton] at hline
    exact hclause hline
  rw [HasLiteral, ← helperClause_eq hb]
  exact mem_splitOn_of_section (helpers_mem_moduleLines hhelpers) hline hclean hclause

end Literal

/-! ### The documentation -/

section Doc
variable {spec : Spec}

/-- The line that shows how the component is called has the name of its function, once or twice, and
nothing else that could need an escape. -/
theorem usageLine_cases (spec : Spec) :
    (∃ close ∈ (["type=\"text\" placeholder=\"Type here\" />", "/>"] : List Text),
      usageLine spec = "    <" ++ '.' :: (fileName spec.name ++ ' ' :: close)) ∨
    usageLine spec =
      "    <" ++ '.' :: (fileName spec.name ++ '>' :: ("Content</" ++ '.' :: (fileName spec.name ++ ['>']))) := by
  have hopen : ("    " : Text) ++ "<." = "    <" ++ ['.'] := by decide
  have hinput : (" type=\"text\" placeholder=\"Type here\" />" : Text) =
      ' ' :: "type=\"text\" placeholder=\"Type here\" />" := by decide
  have hvoid : (" />" : Text) = ' ' :: "/>" := by decide
  have hcontent : (">Content</." : Text) = '>' :: ("Content</" ++ ['.']) := by decide
  have hclose : (">" : Text) = ['>'] := by decide
  have happend (s : Text) : ("    " : Text) ++ ("<." ++ s) = "    <" ++ '.' :: s := by
    rw [← List.append_assoc, hopen, List.append_assoc, List.singleton_append]
  unfold usageLine usage
  rw [hinput, hvoid, hcontent, hclose]
  by_cases hcase : isVoidTag (tagOfClass spec.baseClass) = true
  · by_cases htype : spec.baseClass = some "input"
    · refine .inl ⟨_, List.mem_cons_self, ?_⟩
      simp only [if_pos hcase, if_pos htype, List.append_assoc, happend]
    · refine .inl ⟨_, List.mem_cons_of_mem _ List.mem_cons_self, ?_⟩
      simp only [if_pos hcase, if_neg htype, List.append_assoc, happend]
  · refine .inr ?_
    simp only [if_neg hcase, List.append_assoc, List.cons_append, List.nil_append, happend]

theorem lineFeed_not_mem_usageLine (hname : '\n' ∉ spec.name) : '\n' ∉ usageLine spec := by
  have hfile : '\n' ∉ fileName spec.name := mark_not_mem_fileName (by decide) hname
  have hopen : '\n' ∉ ("    <" : Text) := by decide
  have hcontent : '\n' ∉ ("Content</" : Text) := by decide
  have hcloses : ∀ close ∈ (["type=\"text\" placeholder=\"Type here\" />", "/>"] : List Text), '\n' ∉ close := by
    decide
  obtain ⟨close, hclose, husage⟩ | husage := usageLine_cases spec
  · simp only [husage, List.mem_append, List.mem_cons, hopen, hfile, hcloses close hclose, Char.reduceEq, or_self,
      not_false_eq_true]
  · simp only [husage, List.mem_append, List.mem_cons, hopen, hfile, hcontent, List.not_mem_nil, Char.reduceEq,
      or_self, not_false_eq_true]

theorem lineFeed_not_mem_docLines (hname : '\n' ∉ spec.name) (hpath : '\n' ∉ spec.sourcePath) :
    ∀ l ∈ docLines spec, '\n' ∉ l := by
  have hfixed : '\n' ∉ (" component with DaisyUI styling." : Text) ∧ '\n' ∉ ("Generated from: " : Text) ∧
      '\n' ∉ examplesHeading := by decide
  have hfirst : '\n' ∉ nameLine spec := by
    unfold nameLine
    simp only [List.mem_append, hname, hfixed, or_self, not_false_eq_true]
  have hsource : '\n' ∉ pathLine spec := by
    unfold pathLine
    simp only [List.mem_append, hpath, hfixed, or_self, not_false_eq_true]
  simp only [docLines, List.forall_mem_cons, hfirst, hsource, hfixed, lineFeed_not_mem_usageLine hname,
    List.not_mem_nil, not_false_eq_true, false_imp_iff, implies_true, and_self]

theorem denotesItself_usageLine : DenotesItself (usageLine spec) ↔ DenotesItself (fileName spec.name) := by
  have hopen : DenotesItself "    <" := by decide
  have hcontent : DenotesItself "Content</" := by decide
  have hcloses : ∀ close ∈ (["type=\"text\" placeholder=\"Type here\" />", "/>"] : List Text),
      DenotesItself close := by decide
  obtain ⟨close, hclose, husage⟩ | husage := usageLine_cases spec
  · rw [husage, denotesItself_append_cons (by decide), denotesItself_append_cons (by decide), and_iff_right hopen,
      and_iff_left (hcloses close hclose)]
  · rw [husage, denotesItself_append_cons (by decide), denotesItself_append_cons (by decide),
      denotesItself_append_cons (by decide), denotesItself_append_cons (by decide), and_iff_right hopen,
      and_iff_right hcontent, and_iff_left denotesItself_nil, and_self]

theorem denotesItself_nameLine : DenotesItself (nameLine spec) ↔ DenotesItself spec.name := by
  have hrest : (" component with DaisyUI styling." : Text) = ' ' :: "component with DaisyUI styling." := by decide
  have hplain : DenotesItself "component with DaisyUI styling." := by decide
  unfold nameLine
  rw [hrest, denotesItself_append_cons (by decide), and_iff_left hplain]

theorem denotesItself_pathLine : DenotesItself (pathLine spec) ↔ DenotesItself spec.sourcePath := by
  have hfirst : ("Generated from: " : Text) = "Generated from:" ++ [' '] := by decide
  have hplain : DenotesItself "Generated from:" := by decide
  unfold pathLine
  rw [hfirst, List.append_assoc, List.singleton_append, denotesItself_append_cons (by decide),
    and_iff_right hplain]

/-- Only the line with the name can end the documentation. -/
theorem endsHeredoc_nameLine (spec : Spec) : endsHeredoc (nameLine spec) = endsHeredoc spec.name := by
  have hrest : (" component with DaisyUI styling." : Text) = ' ' :: "component with DaisyUI styling." := by decide
  have hends : endsHeredoc (' ' :: "component with DaisyUI styling.") = false := by decide
  unfold nameLine
  rw [hrest, endsHeredoc_append_cons (by decide) hends]

theorem endsHeredoc_pathLine (spec : Spec) : endsHeredoc (pathLine spec) = false := by
  have hfirst : ("Generated from: " : Text) = 'G' :: "enerated from: " := by decide
  unfold pathLine
  rw [hfirst]
  rfl

theorem endsHeredoc_usageLine (spec : Spec) : endsHeredoc (usageLine spec) = false := by
  have hopen : ("    <" : Text) = "    " ++ ['<'] := by decide
  have hmargin : endsHeredoc "    " = false := by decide
  obtain ⟨rest, hrest⟩ : ∃ rest, usageLine spec = "    <" ++ rest := by
    obtain ⟨close, -, h⟩ | h := usageLine_cases spec
    · exact ⟨_, h⟩
    · exact ⟨_, h⟩
  rw [hrest, hopen, List.append_assoc, List.singleton_append, endsHeredoc_append_cons (by decide) rfl, hmargin]

theorem docLines_iff :
    (∀ l ∈ docLines spec, endsHeredoc l = false ∧ DenotesItself l) ↔
      endsHeredoc spec.name = false ∧ DenotesItself spec.name ∧ DenotesItself spec.sourcePath ∧
        DenotesItself (fileName spec.name) := by
  have hempty : endsHeredoc [] = false ∧ DenotesItself [] := by decide
  have hheading : endsHeredoc examplesHeading = false ∧ DenotesItself examplesHeading := by decide
  simp only [docLines, List.forall_mem_cons, List.not_mem_nil, false_imp_iff, implies_true, and_true, hempty,
    hheading, endsHeredoc_nameLine, endsHeredoc_pathLine, endsHeredoc_usageLine, denotesItself_nameLine,
    denotesItself_pathLine, denotesItself_usageLine, true_and, and_assoc]

/-- The documentation of a module whose names have no line feeds. -/
theorem readHeredoc_module (hname : '\n' ∉ spec.name) (hmodule : '\n' ∉ spec.moduleName)
    (hpath : '\n' ∉ spec.sourcePath) :
    ∃ rest, moduleText spec = ended [openingLine spec, docOpening] ++ rest ∧
      (readHeredoc rest = some (ended (docLines spec)) ↔
        endsHeredoc spec.name = false ∧ DenotesItself spec.name ∧ DenotesItself spec.sourcePath ∧
          DenotesItself (fileName spec.name)) := by
  have hend : endsHeredoc docEnd = true := by decide
  obtain ⟨rest, htext, more, hlines⟩ := exists_moduleText_eq hmodule (lineFeed_not_mem_docLines hname hpath)
  exact ⟨rest, htext, by rw [readHeredoc_iff hend hlines, docLines_iff]⟩

end Doc

/-- In the module of a page the base class and the classes of the helpers stand between quotes. Such a
literal denotes its class just if the base class has no quote, no backslash and no beginning of an
interpolation. The documentation denotes its lines, the name and the path among them, just if neither
has a backslash or the beginning of an interpolation and the name does not begin with three quotes. -/
theorem literals_denote_iff (page : Page) :
    let spec := Spec.ofPage defaultNamespace page
    ∃ code, render standardTemplate spec = .ok code ∧
      (∀ b, spec.baseClass = some b →
        (b ≠ [] → ∃ after, HasLiteral code (baseClassPlace spec) b after ∧
          (readString (b ++ '"' :: after) = some (b, after) ↔ '"' ∉ b ∧ DenotesItself b)) ∧
        ∀ d ∈ spec.dimensions, ∀ v, some v ∈ declaredValues spec d →
          ∃ after, HasLiteral code (variantPlace d v) (variantClass b v) after ∧
            (readString (variantClass b v ++ '"' :: after) = some (variantClass b v, after) ↔
              '"' ∉ b ∧ DenotesItself b)) ∧
      ('\n' ∉ page.path → ∃ rest, code = ended [openingLine spec, docOpening] ++ rest ∧
        (readHeredoc rest = some (ended (docLines spec)) ↔
          endsHeredoc spec.name = false ∧ DenotesItself spec.name ∧ DenotesItself page.path ∧
            DenotesItself (fileName spec.name))) := by
  intro spec
  refine ⟨moduleText spec, render_standardTemplate spec, fun b hb => ⟨fun hne => ?_, fun d hd v hv => ?_⟩,
    fun hpath => ?_⟩
  · obtain ⟨after, hliteral⟩ := exists_hasLiteral_baseClass hb (isLineBreak_of_mem_baseClass hb) hne
    exact ⟨after, hliteral, readString_append_iff b after⟩
  · have hword := mem_vocabulary_of_mem_declaredValues hb hv
    refine ⟨[], hasLiteral_variantClass hb (isLineBreak_of_mem_baseClass hb) hd hv hword, ?_⟩
    rw [readString_append_iff, quote_not_mem_variantClass hword, denotesItself_variantClass hword]
  · have hname : '\n' ∉ spec.name := mark_not_mem_nameOfPath (by decide) (not_mem_directoryName hpath)
    have hmodule : '\n' ∉ spec.moduleName := by
      have hbase : '\n' ∉ defaultNamespace := by decide
      have hdot : '\n' ≠ '.' := by decide
      intro hin
      obtain hin | hin := List.mem_append.1 hin
      · exact hbase hin
      · obtain hin | hin := List.mem_cons.1 hin
        · exact hdot hin
        · exact hname hin
    exact readHeredoc_module hname hmodule hpath

/-- A page whose class has a quote in it, in a directory that is named like an interpolation. -/
def quotePage : Page :=
  ⟨"docs/#\x7b1 + 1\x7d/quote/+page.md",
    [⟨"Quote", [.element "p" [("class", "a\"b a\"b-lg")] [.text "x"]]⟩]⟩

/-- Both literals end at the quote, and the documentation has an interpolation. -/
theorem literals_misread :
    let spec := Spec.ofPage defaultNamespace quotePage
    let after : Text := ", size_class(@size), @class]\x7d \x7b@rest\x7d>"
    ∃ code rest, render standardTemplate spec = .ok code ∧
      (HasLiteral code (baseClassPlace spec) "a\"b" after ∧
        readString ("a\"b" ++ '"' :: after) = some (['a'], 'b' :: '"' :: after)) ∧
      (HasLiteral code (variantPlace .size "lg") "a\"b-lg" [] ∧
        readString ("a\"b-lg" ++ ['"']) = some (['a'], "b-lg" ++ ['"'])) ∧
      code = ended [openingLine spec, docOpening] ++ rest ∧ readHeredoc rest = none := by
  intro spec after
  refine ⟨moduleText spec, (moduleText spec).drop (ended [openingLine spec, docOpening]).length,
    render_standardTemplate spec, ?_⟩
  unfold HasLiteral
  decide +kernel

end Componentry.Elixir
