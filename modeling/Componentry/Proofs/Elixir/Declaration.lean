import Componentry.Proofs.Elixir.Clause

/-!
The attribute declarations of a module read back, and their agreement with the helpers: every value
that a declaration accepts has its clause, and no clause is left over.
-/
namespace Componentry.Elixir
open Componentry.Component Componentry.Document Componentry.Text

/-! ### Reading a declaration -/

/-- An attribute that takes an atom. -/
structure Declaration where
  attr : Text
  default : Option Text
  values : List (Option Text)
  deriving DecidableEq

/-- Atoms between commas, each after any blanks. -/
def atoms? (s : Text) : Option (List (Option Text)) :=
  (splitOn ',' s).mapM fun item => atom? (item.dropWhile isBlank)

/-- One line that declares an attribute with the values it may take. -/
def Declaration.ofLine? (line : Text) : Option Declaration := do
  let s ← after? "attr :" line
  let (attr, s) ← cut? ',' s
  let s ← after? " :atom, default: " s
  let (default, s) ← cut? ',' s
  let s ← after? " values: [" s
  let (values, _) ← cut? ']' s
  return ⟨attr, ← atom? default, ← atoms? values⟩

/-- The declarations among the lines of a text. -/
def declarations (code : Text) : List Declaration := (splitOn '\n' code).filterMap Declaration.ofLine?

theorem ofLine?_declaration {attr default values : Text} (ha : ',' ∉ attr) (hd : ',' ∉ default)
    (hv : ']' ∉ values) (rest : Text) :
    Declaration.ofLine? ("attr :" ++ (attr ++ ',' :: (" :atom, default: " ++ (default ++
      ',' :: (" values: [" ++ (values ++ ']' :: rest)))))) =
      (atom? default).bind fun d => (atoms? values).map fun vs => ⟨attr, d, vs⟩ := by
  simp only [Declaration.ofLine?, after?_append, cut?_append ha, cut?_append hd, cut?_append hv, bind,
    Option.bind]
  cases atom? default <;> cases atoms? values <;> rfl

theorem atoms?_space (s : Text) : atoms? (' ' :: s) = atoms? s := by
  rw [atoms?, splitOn, if_neg (by decide), atoms?]
  cases hs : splitOn ',' s with
  | nil => exact absurd hs (splitOn_ne_nil ',' s)
  | cons piece rest => rw [List.mapM_cons, List.mapM_cons, List.dropWhile_cons_of_pos (by decide)]

theorem dropWhile_atomLiteral (v : Option Text) : (atomLiteral v).dropWhile isBlank = atomLiteral v := by
  cases v with
  | none => decide
  | some v => exact List.dropWhile_cons_of_neg (by decide)

/-- Atoms are read back from the list in which they are written. -/
theorem atoms?_joinWith {vs : List (Option Text)} (hne : vs ≠ []) (hvs : ∀ v ∈ vs, ',' ∉ atomLiteral v) :
    atoms? (joinWith ", " (vs.map atomLiteral)) = some vs := by
  induction vs with
  | nil => exact absurd rfl hne
  | cons v vs ih =>
    have hv := hvs v (by simp)
    by_cases hnil : vs = []
    · subst hnil
      simp [joinWith, atoms?, splitOn_eq_singleton hv, dropWhile_atomLiteral, atom?_atomLiteral]
    · have hrest := ih hnil fun w hw => hvs w (List.mem_cons_of_mem v hw)
      have hcomma (t : Text) : (", " ++ t : Text) = ',' :: ' ' :: t := rfl
      rw [List.map_cons, joinWith_cons _ (by simpa using hnil), hcomma, atoms?, splitOn_append_cons hv,
        List.mapM_cons, dropWhile_atomLiteral, atom?_atomLiteral]
      rw [← atoms?_space, atoms?] at hrest
      rw [hrest]
      rfl

/-! ### The lines of a declaration -/

section Line
variable {spec : Spec} {d : Dimension} {v : Text}

theorem comma_not_mem_attrName : ∀ d ∈ Dimension.all, ',' ∉ attrName d := by decide

theorem any_isLineBreak_attr : ∀ d ∈ Dimension.all,
    (attrName d).any isLineBreak = false ∧ (stringLiteral (attrDoc d)).any isLineBreak = false := by decide

theorem not_letter_of_isLineBreak {c : Char} (h : isLineBreak c = true) : isLower c = false ∧ c ≠ ':' := by
  constructor
  · cases hlower : isLower c with
    | false => rfl
    | true =>
      simp only [isLower, Bool.and_eq_true, decide_eq_true_eq, Char.le_def, UInt32.le_iff_toNat_le] at hlower
      simp only [isLineBreak, Bool.or_eq_true, Bool.and_eq_true, decide_eq_true_eq] at h
      have hnum : c.val.toNat = c.toNat ∧ 'a'.val.toNat = 97 ∧ 'z'.val.toNat = 122 := ⟨rfl, rfl, rfl⟩
      omega
  · rintro rfl
    cases h

theorem attrName_inj : ∀ d ∈ Dimension.all, ∀ e ∈ Dimension.all, attrName d = attrName e → d = e := by
  decide

/-- Neither `nil` nor the atom of a word holds a character but small letters and the colon. -/
theorem not_mem_atomLiteral {c : Char} (hc : isLower c = false ∧ c ≠ ':') {v : Option Text}
    (hv : ∀ w, v = some w → w ∈ d.vocabulary) : c ∉ atomLiteral v := by
  cases v with
  | none =>
    have hnil : ("nil" : Text).all isLower = true := by decide
    exact fun hin => absurd (List.all_eq_true.1 hnil c hin) (by simp [hc.1])
  | some w =>
    have hw : c ∉ w := not_mem_of_mem_vocabulary hc.1 (hv w rfl)
    simp [atomLiteral, hc.2, hw]

/-- All values of a declaration are words of its dimension. -/
def OfVocabulary (spec : Spec) (d : Dimension) : Prop :=
  ∀ v ∈ declaredDefault spec d :: declaredValues spec d, ∀ w, v = some w → w ∈ d.vocabulary

theorem not_mem_values (h : OfVocabulary spec d) {c : Char} (hc : isLower c = false ∧ c ≠ ':')
    (hsep : c ∉ (", " : Text)) : c ∉ joinWith ", " ((declaredValues spec d).map atomLiteral) := by
  refine not_mem_joinWith hsep fun s hs => ?_
  obtain ⟨v, hv, rfl⟩ := List.mem_map.1 hs
  exact not_mem_atomLiteral hc (h v (List.mem_cons_of_mem _ hv))

theorem attrLine_eq (spec : Spec) (d : Dimension) :
    attrLine spec d = "attr :" ++ (attrName d ++ ',' :: (" :atom, default: " ++
      (atomLiteral (declaredDefault spec d) ++ ',' :: (" values: [" ++
        (joinWith ", " ((declaredValues spec d).map atomLiteral) ++
          ']' :: (", doc: " ++ stringLiteral (attrDoc d))))))) := by
  unfold attrLine
  simp only [List.append_assoc]
  rfl

theorem ofLine?_attrLine (hd : d ∈ Dimension.all) (h : OfVocabulary spec d) :
    Declaration.ofLine? (attrLine spec d) =
      some ⟨attrName d, declaredDefault spec d, declaredValues spec d⟩ := by
  have hatoms : atoms? (joinWith ", " ((declaredValues spec d).map atomLiteral)) =
      some (declaredValues spec d) :=
    atoms?_joinWith (by simp [declaredValues]) fun v hv =>
      not_mem_atomLiteral (by decide) (h v (List.mem_cons_of_mem _ hv))
  rw [attrLine_eq, ofLine?_declaration (comma_not_mem_attrName d hd)
    (not_mem_atomLiteral (by decide) (h _ List.mem_cons_self)) (not_mem_values h (by decide) (by decide)),
    atom?_atomLiteral, hatoms]
  rfl

/-- The line of a declared attribute has no end of a line in it. -/
theorem isLineBreak_of_mem_attrLine (hd : d ∈ Dimension.all) (h : OfVocabulary spec d) :
    ∀ c ∈ attrLine spec d, isLineBreak c = false := by
  intro c hc
  cases hbreak : isLineBreak c with
  | false => rfl
  | true =>
    have hletter := not_letter_of_isLineBreak hbreak
    have hfree {s : Text} (hs : s.any isLineBreak = false) : c ∉ s := fun hin => by
      rw [isLineBreak_of_mem hs hin] at hbreak
      cases hbreak
    have hname := hfree (any_isLineBreak_attr d hd).1
    have hdoc := hfree (any_isLineBreak_attr d hd).2
    have hdefault : c ∉ atomLiteral (declaredDefault spec d) := not_mem_atomLiteral hletter (h _ List.mem_cons_self)
    have hvalues : c ∉ joinWith ", " ((declaredValues spec d).map atomLiteral) :=
      not_mem_values h hletter (hfree (by decide))
    have hfixed : c ∉ ("attr :" : Text) ∧ c ∉ (", :atom, default: " : Text) ∧ c ∉ (", values: [" : Text) ∧
        c ∉ ("], doc: " : Text) := ⟨hfree (by decide), hfree (by decide), hfree (by decide), hfree (by decide)⟩
    unfold attrLine at hc
    simp only [List.mem_append, hname, hdefault, hvalues, hdoc, hfixed, or_self] at hc

/-- The line of the other attributes declares no atom. -/
theorem restLine_plain (baseClass : Option Text) :
    (restLine baseClass).any isLineBreak = false ∧ Declaration.ofLine? (restLine baseClass) = none := by
  have hlists : ∀ e ∈ globalAttrs,
      ("attr :rest, :global, include: ~w(" ++ joinWith " " e.2 ++ ")" : Text).any isLineBreak = false ∧
        Declaration.ofLine? ("attr :rest, :global, include: ~w(" ++ joinWith " " e.2 ++ ")") = none := by
    decide
  unfold restLine
  cases hlook : globalAttrs.lookup (baseClass.getD []) with
  | none => decide
  | some names =>
    obtain ⟨before, after, htable, -⟩ := List.lookup_eq_some_iff.1 hlook
    exact hlists (baseClass.getD [], names) (by simp [htable])

theorem classLine_plain : classLine.any isLineBreak = false ∧ Declaration.ofLine? classLine = none := by decide

/-- No line of the declarations has another end of a line in it. -/
theorem isLineBreak_of_mem_attrLines (h : ∀ d ∈ spec.dimensions, OfVocabulary spec d) :
    ∀ l ∈ spec.dimensions.map (attrLine spec) ++ [classLine, restLine spec.baseClass],
      ∀ c ∈ l, isLineBreak c = false := by
  intro l hl
  obtain hl | hl := List.mem_append.1 hl
  · obtain ⟨d, hd, rfl⟩ := List.mem_map.1 hl
    exact isLineBreak_of_mem_attrLine (List.mem_filter.1 hd).1 (h d hd)
  · obtain rfl | rfl : l = classLine ∨ l = restLine spec.baseClass := by simpa using hl
    · exact fun c hc => isLineBreak_of_mem classLine_plain.1 hc
    · exact fun c hc => isLineBreak_of_mem (restLine_plain spec.baseClass).1 hc

/-- The declarations that are printed are those of the dimensions. -/
theorem declarations_attrs (h : ∀ d ∈ spec.dimensions, OfVocabulary spec d) :
    declarations (attrs spec) =
      spec.dimensions.map fun d => ⟨attrName d, declaredDefault spec d, declaredValues spec d⟩ := by
  have hall {d : Dimension} (hd : d ∈ spec.dimensions) : d ∈ Dimension.all := (List.mem_filter.1 hd).1
  have hrest := restLine_plain spec.baseClass
  have hlines : splitOn '\n' (attrs spec) =
      spec.dimensions.map (attrLine spec) ++ [classLine, restLine spec.baseClass] := by
    rw [attrs, unlines]
    exact splitOn_joinWith (by simp) fun l hl => lineFeed_not_mem (isLineBreak_of_mem_attrLines h l hl)
  have hread : ∀ d ∈ spec.dimensions, Declaration.ofLine? (attrLine spec d) =
      some ⟨attrName d, declaredDefault spec d, declaredValues spec d⟩ :=
    fun d hd => ofLine?_attrLine (hall hd) (h d hd)
  rw [declarations, hlines, List.filterMap_append, List.filterMap_map]
  have hnone : [classLine, restLine spec.baseClass].filterMap Declaration.ofLine? = [] := by
    simp only [List.filterMap_cons, classLine_plain.2, hrest.2, List.filterMap_nil]
  rw [hnone, List.append_nil, ← List.filterMap_eq_map]
  exact List.filterMap_congr hread

end Line

/-! ### The declarations of a page's component -/

section Page
variable {base b : Text} {page : Page} {d : Dimension}

/-- The declared default of a documented dimension is one of the values declared with it. -/
theorem declaredDefault_mem (hb : (Spec.ofPage base page).baseClass = some b)
    (hd : d ∈ (Spec.ofPage base page).dimensions) :
    declaredDefault (Spec.ofPage base page) d ∈ declaredValues (Spec.ofPage base page) d := by
  obtain ⟨count, hlookup⟩ := lookup_defaults_ofPage base page d
  obtain ⟨values, hvalues⟩ := Option.isSome_iff_exists.1 (List.mem_filter.1 hd).2
  rw [hvalues, Option.map_some] at hlookup
  by_cases hsize : d = .size
  · subst hsize
    have hlist : (Spec.ofPage base page).variants.values .size = values := by
      rw [Variants.values, hvalues, Option.getD_some]
    have hne : values ≠ [] := by
      intro hnil
      have hnone := (get?_ofPage_eq_none_iff hb).2 (hlist.trans hnil)
      exact absurd (hnone.symm.trans hvalues) (by simp)
    obtain ⟨v, hv, hdefault⟩ := exists_default_size hvalues hne count
    rw [← hlist] at hv
    have hword := (((listsMet_ofPage hb .size).mem_iff v).1 hv).1
    have hdeclared : declaredDefault (Spec.ofPage base page) .size = some v := by
      obtain ⟨c, s, rfl⟩ := List.exists_cons_of_ne_nil (ne_nil_of_mem_vocabulary hword)
      simp [declaredDefault, hlookup, hdefault]
    rw [hdeclared]
    exact some_mem_declaredValues.2 (.inl hv)
  · have hdeclared : declaredDefault (Spec.ofPage base page) d = none := by
      simp only [declaredDefault, hlookup, default_eq_none _ hsize, if_neg hsize]
      rfl
    have hhead : headValue d = none := by
      cases d with
      | size => exact absurd rfl hsize
      | _ => rfl
    rw [hdeclared, declaredValues, hhead]
    exact List.mem_cons_self

theorem ofVocabulary_ofPage (hb : (Spec.ofPage base page).baseClass = some b)
    (hd : d ∈ (Spec.ofPage base page).dimensions) : OfVocabulary (Spec.ofPage base page) d := by
  intro v hv w hw
  subst hw
  obtain hv | hv := List.mem_cons.1 hv
  · exact mem_vocabulary_of_mem_declaredValues hb (hv ▸ declaredDefault_mem hb hd)
  · exact mem_vocabulary_of_mem_declaredValues hb hv

theorem filter_eq_of_nodup {α : Type} [DecidableEq α] {xs : List α} (h : xs.Nodup) (x : α) :
    xs.filter (· = x) = if x ∈ xs then [x] else [] := by
  rw [List.filter_eq, h.count]
  split <;> rfl

/-- The dimension's attribute is declared once. -/
theorem filter_declarations (hb : (Spec.ofPage base page).baseClass = some b)
    (hd : d ∈ (Spec.ofPage base page).dimensions) :
    (declarations (attrs (Spec.ofPage base page))).filter (·.attr = attrName d) =
      [⟨attrName d, declaredDefault (Spec.ofPage base page) d, declaredValues (Spec.ofPage base page) d⟩] := by
  have hall {e : Dimension} (he : e ∈ (Spec.ofPage base page).dimensions) : e ∈ Dimension.all :=
    (List.mem_filter.1 he).1
  have hnodup : (Spec.ofPage base page).dimensions.Nodup :=
    List.Nodup.filter _ (by decide : Dimension.all.Nodup)
  have hname : ∀ e ∈ (Spec.ofPage base page).dimensions,
      decide (attrName e = attrName d) = decide (e = d) := fun e he =>
    decide_eq_decide.2 ⟨attrName_inj e (hall he) d (hall hd), fun h => h ▸ rfl⟩
  rw [declarations_attrs fun e he => ofVocabulary_ofPage hb he, List.filter_map]
  simp only [Function.comp_def]
  rw [List.filter_congr hname, filter_eq_of_nodup hnodup, if_pos hd]
  rfl

/-- One clause without a value and one for each declared value, and no other. -/
theorem filter_helperClauses {spec : Spec} (h : (declaredValues spec d).Nodup) (v : Option Text) :
    (helperClauses b spec d).filter (·.argument = v) =
      if v = none ∨ v ∈ declaredValues spec d then [⟨helperName d, v, v.map (variantClass b)⟩] else [] := by
  have hnodup : (none :: (declaredValues spec d).filter Option.isSome).Nodup :=
    List.nodup_cons.2 ⟨by simp, h.filter _⟩
  have hmem : v ∈ none :: (declaredValues spec d).filter Option.isSome ↔
      v = none ∨ v ∈ declaredValues spec d := by
    cases v <;> simp
  rw [helperClauses, List.filter_map]
  simp only [Function.comp_def]
  rw [filter_eq_of_nodup hnodup, ← if_congr hmem rfl rfl]
  split <;> rfl

end Page

/-- A documented dimension has one declaration, whose default is one of its values, and a helper
whose lines are one clause without a value and one clause for each value declared: it returns the
base class, a hyphen and the value. -/
theorem helper_answers_declaration (base : Text) (page : Page) (d : Dimension)
    (hd : d ∈ (Spec.ofPage base page).dimensions) :
    let spec := Spec.ofPage base page
    ∃ (b : Text) (decl : Declaration) (cs : List Clause), spec.baseClass = some b ∧
      (declarations (attrs spec)).filter (·.attr = attrName d) = [decl] ∧
      decl.default ∈ decl.values ∧ decl.values.Nodup ∧
      (∀ v ∈ spec.variants.values d, some v ∈ decl.values) ∧
      (splitOn '\n' (helper spec d)).map Clause.ofLine? = cs.map some ∧
      ∀ v, cs.filter (·.argument = v) =
        if v = none ∨ v ∈ decl.values then [⟨helperName d, v, v.map (variantClass b)⟩] else [] := by
  intro spec
  obtain ⟨b, hb⟩ := exists_baseClass_of_mem_dimensions hd
  have hnodup : (declaredValues spec d).Nodup := nodup_declaredValues (listsMet_ofPage hb d).nodup
  refine ⟨b, ⟨attrName d, declaredDefault spec d, declaredValues spec d⟩, helperClauses b spec d, hb,
    filter_declarations hb hd, declaredDefault_mem hb hd, hnodup, fun v hv => ?_, ?_, ?_⟩
  · exact some_mem_declaredValues.2 (.inl hv)
  · exact map_ofLine?_helper_ofPage hb (List.mem_filter.1 hd).1
  · exact filter_helperClauses hnodup

/-- The middle size is declared all the same, and has its clause. -/
theorem helper_answers_declaration_sizes :
    let spec := Spec.ofPage defaultNamespace buttonPage
    Dimension.size ∈ spec.dimensions ∧
      declarations (attrs spec) = [⟨"size", some "lg", [some "md", some "lg", some "xs"]⟩] ∧
      ∃ cs : List Clause, (splitOn '\n' (helper spec .size)).map Clause.ofLine? = cs.map some ∧
        cs.filter (·.argument = some ("md" : Text)) = [⟨"size_class", some "md", some "btn-md"⟩] := by
  intro spec
  have hsize : Dimension.size ∈ spec.dimensions := by decide
  have hdecl : declarations (attrs spec) = [⟨"size", some "lg", [some "md", some "lg", some "xs"]⟩] := by
    decide
  have hbase : spec.baseClass = some ("btn" : Text) := by decide
  obtain ⟨b, decl, cs, hb, hone, -, -, -, hlines, hclauses⟩ :=
    helper_answers_declaration defaultNamespace buttonPage .size hsize
  obtain rfl : b = ("btn" : Text) := Option.some.inj (hb.symm.trans hbase)
  rw [hdecl] at hone
  obtain rfl : _ = decl := (List.cons.inj hone).1
  refine ⟨hsize, hdecl, cs, hlines, ?_⟩
  rw [hclauses (some "md"), if_pos (by decide)]
  decide

end Componentry.Elixir
