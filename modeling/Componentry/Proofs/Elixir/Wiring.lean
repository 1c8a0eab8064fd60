import Componentry.Proofs.Elixir.FunctionName

/-!
The calls in the class list of a component read back, and their agreement with the declared attributes
and the helpers.
-/
namespace Componentry.Elixir
open Componentry.Component Componentry.Document Componentry.Markup Componentry.Text

/-! ### Reading the calls -/

def templateOpening : Text := "  ~H\"\"\""

/-- The lines from the last one that opens a template. -/
def templateLines (code : Text) : List Text :=
  ((splitOn '\n' code).reverse.takeWhile (· ≠ templateOpening)).reverse

def classOpening : Text := "class=\x7b"

def restOpening : Text := "\x7b@rest"

/-- The items of the class list in the opening tag on a line, with the commas and brackets about them. -/
def classItems (line : Text) : List Text :=
  ((splitOn ' ' line).dropWhile fun s => !startsWith classOpening s).takeWhile
    fun s => !startsWith restOpening s

/-- A call of a function on an attribute. -/
structure Call where
  function : Text
  attr : Text
  deriving DecidableEq

/-- An item that is a call, followed by a comma or the end of the list. -/
def Call.ofItem? (item : Text) : Option Call := do
  let (function, s) ← cut? '(' item
  let s ← after? "@" s
  let (attr, s) ← cut? ')' s
  if s = "," ∨ s = "]\x7d" then some ⟨function, attr⟩ else none

/-- The calls in the class lists of a template. -/
def calls (code : Text) : List Call :=
  (templateLines code).flatMap fun line => (classItems line).filterMap Call.ofItem?

/-- The call that a dimension asks for. -/
def callOf (d : Dimension) : Call := ⟨helperName d, attrName d⟩

def callText (d : Dimension) : Text := helperName d ++ "(@" ++ attrName d ++ ")"

theorem ofItem?_callText :
    ∀ d ∈ Dimension.all, Call.ofItem? (callText d ++ [',']) = some (callOf d) := by decide

theorem space_not_mem_callText : ∀ d ∈ Dimension.all, ' ' ∉ callText d := by decide

/-- An item that ends in a literal is no call: a call ends in a parenthesis. -/
theorem ofItem?_literal (s : Text) : Call.ofItem? (s ++ ['"', ',']) = none := by
  cases hcall : Call.ofItem? (s ++ ['"', ',']) with
  | none => rfl
  | some call =>
    simp only [Call.ofItem?, bind, Option.bind_eq_some_iff, Prod.exists] at hcall
    obtain ⟨function, rest, hcut, rest', hafter, attr, tail, hcut', htail⟩ := hcall
    have hwhole := eq_append_of_cut? hcut
    rw [eq_append_of_after? hafter, eq_append_of_cut? hcut'] at hwhole
    have hends := congrArg (fun t => t.reverse.take 2) hwhole
    by_cases hlast : tail = "," ∨ tail = "]\x7d"
    · obtain rfl | rfl := hlast
      · simp at hends
      · simp at hends
    · rw [if_neg hlast] at htail
      cases htail

/-! ### The opening tag -/

section Line
variable {spec : Spec} {b : Text}

def tags : List Text := ["button", "input", "textarea", "select", "div"]

theorem tagOfClass_mem (baseClass : Option Text) : tagOfClass baseClass ∈ tags := by
  rw [tagOfClass]
  cases hlook : classTags.lookup (baseClass.getD []) with
  | none => decide
  | some tag =>
    obtain ⟨before, after, htable, -⟩ := List.lookup_eq_some_iff.1 hlook
    have hall : ∀ e ∈ classTags, e.2 ∈ tags := by decide
    exact hall (baseClass.getD [], tag) (by simp [htable])

theorem tag_items : ∀ tag ∈ tags, tag.any isLineBreak = false ∧
    ∀ s ∈ splitOn ' ' ("  <" ++ tag), startsWith classOpening s = false := by decide

/-- What stands before, in and after the class list of an opening tag. -/
theorem classItems_eq {tag attr rest : Text} (htag : tag ∈ tags)
    (hclass : ∃ first more, splitOn ' ' attr = first :: more ∧ startsWith classOpening first = true)
    (hattr : ∀ s ∈ splitOn ' ' attr, startsWith restOpening s = false)
    (hrest : ∃ first more, splitOn ' ' rest = first :: more ∧ startsWith restOpening first = true) :
    classItems ("  <" ++ tag ++ ' ' :: (attr ++ ' ' :: rest)) = splitOn ' ' attr := by
  obtain ⟨first, more, hsplit, hfirst⟩ := hclass
  obtain ⟨first', more', hsplit', hfirst'⟩ := hrest
  rw [classItems, splitOn_append, splitOn_append, List.dropWhile_append_of_pos]
  · rw [hsplit, hsplit', List.cons_append, List.dropWhile_cons_of_neg (by simp [hfirst]), ← List.cons_append,
      List.takeWhile_append_of_pos, List.takeWhile_cons_of_neg (by simp [hfirst']), List.append_nil]
    intro s hs
    simp [hattr s (hsplit ▸ hs)]
  · intro s hs
    simp [(tag_items tag htag).2 s hs]

/-- The class attribute of the component's element. -/
def classAttr (spec : Spec) : Text := classOpening ++ classExpr spec ++ "\x7d"

theorem exists_baseClass_of_hasBase (h : hasBase spec = true) : ∃ b, spec.baseClass = some b ∧ b ≠ [] := by
  cases hb : spec.baseClass with
  | none => simp [hasBase, hb] at h
  | some b => exact ⟨b, rfl, by simpa [hasBase, hb] using h⟩

/-- The first item of a class list, with what comes before it. -/
def baseItem (b : Text) : Text := classOpening ++ ['['] ++ (['"'] ++ b ++ ['"'])

/-- The last item, with what comes after it. -/
def callerItem : Text := "@class]\x7d"

theorem classAttr_eq (hb : spec.baseClass = some b) (hne : b ≠ []) :
    classAttr spec = joinWith ", " ((baseItem b :: spec.dimensions.map callText) ++ [callerItem]) := by
  have hbase : hasBase spec = true := by simp [hasBase, hb, hne]
  have hlist : classList spec = ['['] ++
      joinWith ", " (((['"'] ++ b ++ ['"']) :: spec.dimensions.map callText) ++ [("@class" : Text)]) ++
        [']'] := by
    rw [classList, if_pos hbase, hb]
    rfl
  have hlast : callerItem = ("@class" : Text) ++ [']'] ++ ("\x7d" : Text) := by decide
  rw [classAttr, classExpr, if_pos hbase, hlist, hlast, joinWith_concat (by simp),
    joinWith_concat (by simp), baseItem,
    ← append_joinWith (classOpening ++ ['[']) (['"'] ++ b ++ ['"']) (spec.dimensions.map callText)]
  simp only [List.append_assoc]

theorem splitOn_classAttr (hb : spec.baseClass = some b) (hne : b ≠ []) (hblank : ' ' ∉ b) :
    splitOn ' ' (classAttr spec) =
      (baseItem b ++ [',']) :: (spec.dimensions.map fun d => callText d ++ [',']) ++ [callerItem] := by
  have hopening : ' ' ∉ classOpening := by decide
  have hitem : ' ' ∉ baseItem b := by simp [baseItem, hopening, hblank]
  rw [classAttr_eq hb hne, splitOn_joinWith_comma _ (by decide), List.map_cons, List.map_map]
  · rfl
  · intro s hs
    obtain rfl | hs := List.mem_cons.1 hs
    · exact hitem
    · obtain ⟨d, hd, rfl⟩ := List.mem_map.1 hs
      exact space_not_mem_callText d (List.mem_filter.1 hd).1

theorem filterMap_classAttr (hb : spec.baseClass = some b) (hne : b ≠ []) (hblank : ' ' ∉ b) :
    (splitOn ' ' (classAttr spec)).filterMap Call.ofItem? = spec.dimensions.map callOf := by
  have hbase : Call.ofItem? (baseItem b ++ [',']) = none := by
    have hends : baseItem b ++ [','] = (classOpening ++ ['['] ++ (['"'] ++ b)) ++ ['"', ','] := by
      simp [baseItem]
    rw [hends]
    exact ofItem?_literal _
  have hcaller : Call.ofItem? callerItem = none := by decide
  rw [splitOn_classAttr hb hne hblank, List.filterMap_append, List.filterMap_cons_none hbase,
    List.filterMap_map, List.filterMap_cons_none hcaller, List.filterMap_nil, List.append_nil,
    ← List.filterMap_eq_map]
  exact List.filterMap_congr fun d hd => ofItem?_callText d (List.mem_filter.1 hd).1

theorem classAttr_plain (h : hasBase spec = false) : classAttr spec = "class=\x7b@class\x7d" := by
  rw [classAttr, classExpr, h, if_neg Bool.false_ne_true]
  decide

/-! ### The lines of the template -/

theorem templateLines_unlines {front back : List Text}
    (h : ∀ line ∈ back, '\n' ∉ line ∧ line ≠ templateOpening) :
    templateLines (unlines (front ++ templateOpening :: back)) = back := by
  have hlines : (templateOpening :: back).flatMap (splitOn '\n') = templateOpening :: back := by
    refine flatMap_splitOn fun line hline => ?_
    obtain rfl | hline := List.mem_cons.1 hline
    · decide
    · exact (h line hline).1
  rw [templateLines, unlines, splitOn_joinWith_flatMap (by simp), List.flatMap_append, hlines,
    List.reverse_append, List.reverse_cons, List.append_assoc, List.takeWhile_append_of_pos]
  · rw [List.singleton_append, List.takeWhile_cons_of_neg (by simp), List.append_nil, List.reverse_reverse]
  · intro line hline
    simpa using (h line (List.mem_reverse.1 hline)).2

/-- The opening tag of the component's element. -/
def openingTag (spec : Spec) (close : Text) : Text :=
  "  <" ++ tagOfClass spec.baseClass ++ ' ' :: (classAttr spec ++ ' ' :: ("\x7b@rest\x7d" ++ close))

/-- What is in the template after that. -/
def templateEnd (tag : Text) : List Text :=
  if isVoidTag tag then ["  \"\"\"", "end"]
  else ["    <%= render_slot(@inner_block) %>", "  </" ++ tag ++ ">", "  \"\"\"", "end"]

theorem openingTag_eq (spec : Spec) (close : Text) :
    ("  <" ++ tagOfClass spec.baseClass ++ " class=" ++ braced (classExpr spec) ++ " " ++
      braced "@rest" ++ close : Text) = openingTag spec close := by
  have hopening : ' ' :: classOpening = (" class=" : Text) ++ ['\x7b'] := by decide
  have hclass (s : Text) : ' ' :: (classOpening ++ s) = " class=" ++ '\x7b' :: s := by
    rw [← List.cons_append, hopening, List.append_assoc, List.singleton_append]
  have hspace : (" " : Text) = [' '] := by decide
  have hrest : braced "@rest" = "\x7b@rest\x7d" := by decide
  have hclose : ("\x7d" : Text) = ['\x7d'] := by decide
  unfold openingTag
  rw [classAttr, hrest, hspace, hclose, braced]
  simp only [List.append_assoc, List.cons_append, List.nil_append, hclass]

theorem function_eq (spec : Spec) :
    ∃ front close, close ∈ ([" />", ">"] : List Text) ∧ function spec =
      unlines (front ++ templateOpening ::
        openingTag spec close :: templateEnd (tagOfClass spec.baseClass)) := by
  let doc : List Text := ["@doc \"\"\"", "Renders a " ++ spec.name ++ " component.", "\"\"\""]
  let slot : List Text := ["slot :inner_block, required: true", []]
  let opening : Text := "def " ++ fileName spec.name ++ "(assigns) do"
  unfold function templateEnd
  by_cases hvoid : isVoidTag (tagOfClass spec.baseClass) = true
  · refine ⟨doc ++ [opening], " />", by simp, ?_⟩
    simp only [if_pos hvoid, openingTag_eq]
    rfl
  · refine ⟨doc ++ slot ++ [opening], ">", by simp, ?_⟩
    simp only [if_neg hvoid, openingTag_eq]
    rfl

/-- The items between blanks in a class attribute: the first one opens it, and none ends the list of
attributes. -/
theorem items_classAttr (hb : ∀ b, spec.baseClass = some b → ' ' ∉ b) :
    (∃ first more, splitOn ' ' (classAttr spec) = first :: more ∧ startsWith classOpening first = true) ∧
      (∀ s ∈ splitOn ' ' (classAttr spec), startsWith restOpening s = false) ∧
      (splitOn ' ' (classAttr spec)).filterMap Call.ofItem? =
        if hasBase spec then spec.dimensions.map callOf else [] := by
  by_cases hbase : hasBase spec = true
  · obtain ⟨b, hsome, hne⟩ := exists_baseClass_of_hasBase hbase
    have hitems := splitOn_classAttr hsome hne (hb b hsome)
    have hfirst : baseItem b ++ [','] = classOpening ++ (['['] ++ (['"'] ++ b ++ ['"']) ++ [',']) := by
      simp only [baseItem, List.append_assoc]
    have hcalls : ∀ d ∈ Dimension.all, startsWith restOpening (callText d ++ [',']) = false := by decide
    refine ⟨⟨_, _, hitems, ?_⟩, ?_, ?_⟩
    · rw [hfirst, startsWith, after?_append]
      rfl
    · rw [hitems]
      intro s hs
      obtain hs | hs := List.mem_append.1 hs
      · obtain rfl | hs := List.mem_cons.1 hs
        · rw [hfirst]
          rfl
        · obtain ⟨d, hd, rfl⟩ := List.mem_map.1 hs
          exact hcalls d (List.mem_filter.1 hd).1
      · rw [List.mem_singleton.1 hs]
        decide
    · rw [filterMap_classAttr hsome hne (hb b hsome), if_pos hbase]
  · rw [Bool.not_eq_true] at hbase
    rw [classAttr_plain hbase, if_neg (by simp [hbase])]
    exact ⟨⟨_, _, rfl, by decide⟩, by decide, by decide⟩

/-- The class attribute and the tag around it cut lines only where the base class does. -/
theorem mem_or_of_mem_classAttr {c : Char} (hc : c ∈ classAttr spec) :
    (∃ b, spec.baseClass = some b ∧ c ∈ b) ∨ isLineBreak c = false := by
  by_cases hbase : hasBase spec = true
  · obtain ⟨b, hsome, hne⟩ := exists_baseClass_of_hasBase hbase
    have hopening : (classOpening ++ ['['] ++ ['"']).any isLineBreak = false := by decide
    have hcomma : (", " : Text).any isLineBreak = false := by decide
    have hcaller : callerItem.any isLineBreak = false := by decide
    have hcalls : ∀ d ∈ Dimension.all, (callText d).any isLineBreak = false := by decide
    have hitem : baseItem b = classOpening ++ ['['] ++ ['"'] ++ b ++ ['"'] := by simp [baseItem]
    rw [classAttr_eq hsome hne] at hc
    obtain hc | ⟨s, hs, hc⟩ := mem_of_mem_joinWith hc
    · exact .inr (isLineBreak_of_mem hcomma hc)
    obtain hs | hs := List.mem_append.1 hs
    · obtain rfl | hs := List.mem_cons.1 hs
      · rw [hitem, List.mem_append, List.mem_append] at hc
        obtain (hc | hc) | hc := hc
        · exact .inr (isLineBreak_of_mem hopening hc)
        · exact .inl ⟨b, hsome, hc⟩
        · rw [List.mem_singleton.1 hc]
          exact .inr rfl
      · obtain ⟨d, hd, rfl⟩ := List.mem_map.1 hs
        exact .inr (isLineBreak_of_mem (hcalls d (List.mem_filter.1 hd).1) hc)
    · rw [List.mem_singleton.1 hs] at hc
      exact .inr (isLineBreak_of_mem hcaller hc)
  · have hplain : ("class=\x7b@class\x7d" : Text).any isLineBreak = false := by decide
    rw [Bool.not_eq_true] at hbase
    rw [classAttr_plain hbase] at hc
    exact .inr (isLineBreak_of_mem hplain hc)

theorem mem_or_of_mem_openingTag {close : Text} (hclose : close.any isLineBreak = false) {c : Char}
    (hc : c ∈ openingTag spec close) : (∃ b, spec.baseClass = some b ∧ c ∈ b) ∨ isLineBreak c = false := by
  have htag := (tag_items _ (tagOfClass_mem spec.baseClass)).1
  have hopen : ("  <" : Text).any isLineBreak = false := by decide
  have hrest : ("\x7b@rest\x7d" : Text).any isLineBreak = false := by decide
  unfold openingTag at hc
  rw [List.mem_append, List.mem_append, List.mem_cons, List.mem_append, List.mem_cons, List.mem_append] at hc
  obtain (hc | hc) | rfl | hc | rfl | hc | hc := hc
  · exact .inr (isLineBreak_of_mem hopen hc)
  · exact .inr (isLineBreak_of_mem htag hc)
  · exact .inr rfl
  · exact mem_or_of_mem_classAttr hc
  · exact .inr rfl
  · exact .inr (isLineBreak_of_mem hrest hc)
  · exact .inr (isLineBreak_of_mem hclose hc)

theorem any_isLineBreak_close :
    ∀ close ∈ ([" />", ">"] : List Text), close.any isLineBreak = false := by decide

theorem openingTag_plain (hb : ∀ b, spec.baseClass = some b → '\n' ∉ b) {close : Text}
    (hclose : close.any isLineBreak = false) :
    '\n' ∉ openingTag spec close ∧ openingTag spec close ≠ templateOpening := by
  constructor
  · intro hin
    obtain ⟨b, hsome, hin⟩ | hbreak := mem_or_of_mem_openingTag hclose hin
    · exact hb b hsome hin
    · exact absurd hbreak (by decide)
  · have hless : '<' ∈ openingTag spec close :=
      List.mem_append_left _ (List.mem_append_left _ (by decide))
    have hnone : '<' ∉ templateOpening := by decide
    intro he
    exact hnone (he ▸ hless)

/-- The calls in a component's template are those of its dimensions, if it has a base class. -/
theorem calls_function (hb : ∀ b, spec.baseClass = some b → ' ' ∉ b ∧ '\n' ∉ b) :
    calls (function spec) = if hasBase spec then spec.dimensions.map callOf else [] := by
  obtain ⟨front, close, hclose, hfunction⟩ := function_eq spec
  obtain ⟨hopens, hinside, hcalls⟩ := items_classAttr fun b h => (hb b h).1
  have htag := tagOfClass_mem spec.baseClass
  have hends : ∀ tag ∈ tags, ∀ line ∈ templateEnd tag,
      ('\n' ∉ line ∧ line ≠ templateOpening) ∧ (classItems line).filterMap Call.ofItem? = [] := by
    decide
  have hrest : ∃ first more, splitOn ' ' ("\x7b@rest\x7d" ++ close) = first :: more ∧
      startsWith restOpening first = true := by
    obtain rfl | rfl : close = " />" ∨ close = ">" := by simpa using hclose
    · exact ⟨_, _, rfl, by decide⟩
    · exact ⟨_, _, rfl, by decide⟩
  rw [hfunction, calls, templateLines_unlines, List.flatMap_cons, openingTag, classItems_eq htag hopens hinside hrest,
    hcalls]
  · have hnone : (templateEnd (tagOfClass spec.baseClass)).flatMap
        (fun line => (classItems line).filterMap Call.ofItem?) = [] :=
      List.flatMap_eq_nil_iff.2 fun line hmem => (hends _ htag line hmem).2
    rw [hnone, List.append_nil]
  · intro line hmem
    obtain rfl | hmem := List.mem_cons.1 hmem
    · exact openingTag_plain (fun b h => (hb b h).2) (any_isLineBreak_close close hclose)
    · exact (hends _ htag line hmem).1

end Line

/-! ### A page's component -/

/-- The attribute of a dimension is declared. -/
def Declares (spec : Spec) (d : Dimension) : Prop := ∃ decl ∈ declarations (attrs spec), decl.attr = attrName d

/-- The helper of a dimension is defined. -/
def Defines (spec : Spec) (d : Dimension) : Prop := ∃ c ∈ clauses (helpers spec), c.function = helperName d

/-- The class list calls the helper of a dimension on its attribute. -/
def Wires (spec : Spec) (d : Dimension) : Prop := callOf d ∈ calls (function spec)

section Page
variable {base b : Text} {page : Page} {d : Dimension}

theorem declares_iff (hd : d ∈ Dimension.all) :
    Declares (Spec.ofPage base page) d ↔ d ∈ (Spec.ofPage base page).dimensions := by
  have hwords : ∀ e ∈ (Spec.ofPage base page).dimensions, OfVocabulary (Spec.ofPage base page) e := by
    intro e he
    obtain ⟨b, hb⟩ := exists_baseClass_of_mem_dimensions he
    exact ofVocabulary_ofPage hb he
  rw [Declares, declarations_attrs hwords]
  constructor
  · intro h
    obtain ⟨decl, hdecl, hattr⟩ := h
    obtain ⟨e, he, rfl⟩ := List.mem_map.1 hdecl
    exact attrName_inj e (List.mem_filter.1 he).1 d hd hattr ▸ he
  · exact fun h => ⟨_, List.mem_map_of_mem h, rfl⟩

theorem defines_iff (hd : d ∈ Dimension.all) :
    Defines (Spec.ofPage base page) d ↔ d ∈ (Spec.ofPage base page).dimensions := by
  cases hb : (Spec.ofPage base page).baseClass with
  | none =>
    have hnone : (Spec.ofPage base page).dimensions = [] := by
      refine List.eq_nil_iff_forall_not_mem.2 fun e he => ?_
      obtain ⟨b, hsome⟩ := exists_baseClass_of_mem_dimensions he
      rw [hb] at hsome
      cases hsome
    rw [Defines, helpers, if_pos hnone, hnone]
    simp [clauses, splitOn, Clause.ofLine?, after?]
  | some b =>
    rw [Defines, clauses_helpers hb]
    constructor
    · intro h
      obtain ⟨c, hc, hfunction⟩ := h
      obtain ⟨e, he, hc⟩ := List.mem_flatMap.1 hc
      obtain ⟨v, -, rfl⟩ := List.mem_map.1 hc
      exact helperName_inj (List.mem_filter.1 he).1 hd hfunction ▸ he
    · intro h
      refine ⟨⟨helperName d, none, none⟩, List.mem_flatMap.2 ⟨d, h, ?_⟩, rfl⟩
      rw [helperClauses_eq]
      exact List.mem_cons_self

theorem calls_ofPage (base : Text) (page : Page) :
    calls (function (Spec.ofPage base page)) =
      if hasBase (Spec.ofPage base page) then (Spec.ofPage base page).dimensions.map callOf else [] := by
  refine calls_function fun b hb => ⟨fun hin => ?_, lineFeed_not_mem_baseClass hb⟩
  exact absurd (isBlank_of_mem_baseClass hb hin) (by decide)

theorem mem_calls_iff {call : Call} :
    call ∈ calls (function (Spec.ofPage base page)) ↔
      ∃ d ∈ (Spec.ofPage base page).dimensions, call = callOf d ∧ (Spec.ofPage base page).baseClass ≠ some [] := by
  rw [calls_ofPage]
  constructor
  · intro h
    split at h
    · next hbase =>
      obtain ⟨d, hd, rfl⟩ := List.mem_map.1 h
      obtain ⟨b, hb, hne⟩ := exists_baseClass_of_hasBase hbase
      exact ⟨d, hd, rfl, by simpa [hb] using hne⟩
    · exact absurd h List.not_mem_nil
  · intro h
    obtain ⟨d, hd, rfl, hne⟩ := h
    obtain ⟨b, hb⟩ := exists_baseClass_of_mem_dimensions hd
    have hbase : hasBase (Spec.ofPage base page) = true := by simpa [hasBase, hb] using hne
    rw [if_pos hbase]
    exact List.mem_map_of_mem hd

theorem wires_iff (hd : d ∈ Dimension.all) :
    Wires (Spec.ofPage base page) d ↔
      d ∈ (Spec.ofPage base page).dimensions ∧ (Spec.ofPage base page).baseClass ≠ some [] := by
  rw [Wires, mem_calls_iff]
  constructor
  · intro h
    obtain ⟨e, he, hcall, hne⟩ := h
    exact ⟨attrName_inj e (List.mem_filter.1 he).1 d hd (congrArg Call.attr hcall).symm ▸ he, hne⟩
  · exact fun h => ⟨d, h.1, rfl, h.2⟩

end Page

/-- A dimension's attribute is declared just if its helper is defined. The class list calls that helper
on that attribute just if they are there and the base class is not empty. It calls nothing else. -/
theorem wired_iff_declared (base : Text) (page : Page) :
    let spec := Spec.ofPage base page
    (∀ d ∈ Dimension.all, (Declares spec d ↔ Defines spec d) ∧
      (Wires spec d ↔ Declares spec d ∧ spec.baseClass ≠ some [])) ∧
    ∀ call ∈ calls (function spec), ∃ d ∈ Dimension.all, call = callOf d ∧ Declares spec d ∧ Defines spec d := by
  intro spec
  refine ⟨fun d hd => ?_, fun call hcall => ?_⟩
  · rw [declares_iff hd, defines_iff hd, wires_iff hd]
    exact ⟨Iff.rfl, Iff.rfl⟩
  · obtain ⟨d, hd, rfl, -⟩ := mem_calls_iff.1 hcall
    have hall := (List.mem_filter.1 hd).1
    exact ⟨d, hall, rfl, (declares_iff hall).2 hd, (defines_iff hall).2 hd⟩

/-- A page with a class of no stem. -/
def hyphenPage : Page := ⟨"docs/sizes/+page.md", [⟨"Small", [.element "p" [("class", "-sm")] []]⟩]⟩

/-- The attribute and the helper of the size are there, but nothing calls it. -/
theorem size_not_wired :
    let spec := Spec.ofPage defaultNamespace hyphenPage
    Declares spec .size ∧ Defines spec .size ∧ ¬Wires spec .size := by
  unfold Declares Defines Wires
  decide

end Componentry.Elixir
