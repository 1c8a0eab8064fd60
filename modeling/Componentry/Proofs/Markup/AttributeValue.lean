import Componentry.Proofs.Markup.Building
import Componentry.Proofs.Markup.RoundTrip
import Componentry.Proofs.Markup.ValueReference
import Mathlib.Data.List.Forall2

/-!
Attribute values in a printed tag read back exactly if none of them holds a character reference: quotes are
written as references and ampersands are not.
-/
namespace Componentry.Markup
open Componentry.Text Componentry.Component

/-! ### Written values -/

section Written
variable {p r t v : Text} {c : Char}

theorem writtenValue_quote (v : Text) : writtenValue ('"' :: v) = quoteEntity ++ writtenValue v := by
  simp only [writtenValue, replace_singleton, List.flatMap_cons, writeFor, if_pos]

theorem writtenValue_cons (hc : c ≠ '"') (v : Text) : writtenValue (c :: v) = c :: writtenValue v := by
  simp only [writtenValue, replace_singleton, List.flatMap_cons, writeFor, if_neg hc.symm, List.singleton_append]

theorem writtenValue_append (hp : '"' ∉ p) (v : Text) : writtenValue (p ++ v) = p ++ writtenValue v := by
  induction p with
  | nil => rfl
  | cons c p ih =>
    have hc : c ≠ '"' := fun he => hp (by simp [he])
    rw [List.cons_append, writtenValue_cons hc, ih fun hin => hp (List.mem_cons_of_mem c hin), List.cons_append]

/-- What is written before the first ampersand stands in the value. -/
theorem exists_of_writtenValue (h : writtenValue v = p ++ t) (hp : '&' ∉ p) :
    ∃ r, v = p ++ r ∧ t = writtenValue r := by
  induction p generalizing v with
  | nil => exact ⟨v, rfl, h.symm⟩
  | cons d p ih =>
    cases v with
    | nil => cases h
    | cons c v =>
      by_cases hc : c = '"'
      · rw [hc, writtenValue_quote] at h
        have hd : '&' = d := (List.cons.inj h).1
        exact absurd List.mem_cons_self (hd ▸ hp)
      · rw [writtenValue_cons hc] at h
        obtain ⟨rfl, hrest⟩ := List.cons.inj h
        obtain ⟨r, rfl, ht⟩ := ih hrest fun hin => hp (List.mem_cons_of_mem c hin)
        exact ⟨r, rfl, ht⟩

theorem prefix_writtenValue_iff (hamp : '&' ∉ p) (hquote : '"' ∉ p) : p <+: writtenValue v ↔ p <+: v := by
  constructor
  · rintro ⟨t, ht⟩
    obtain ⟨r, rfl, -⟩ := exists_of_writtenValue ht.symm hamp
    exact List.prefix_append p r
  · rintro ⟨r, rfl⟩
    rw [writtenValue_append hquote]
    exact List.prefix_append p _

theorem writtenValue_eq_nil_iff {v : Text} : writtenValue v = [] ↔ v = [] := by
  cases v with
  | nil => exact ⟨fun _ => rfl, fun _ => rfl⟩
  | cons c v =>
    by_cases hc : c = '"'
    · rw [hc, writtenValue_quote]
      have hentity : quoteEntity ≠ [] := by decide
      exact iff_of_false (List.append_ne_nil_of_left_ne_nil hentity _) (List.cons_ne_nil _ v)
    · rw [writtenValue_cons hc]
      simp

/-- The quotes taken back. -/
theorem replace_writtenValue (h : ¬ quoteEntity <:+: v) : replace quoteEntity ['"'] (writtenValue v) = v := by
  induction v with
  | nil => rfl
  | cons c v ih =>
    rw [List.infix_cons_iff, not_or] at h
    by_cases hc : c = '"'
    · rw [hc, writtenValue_quote, replace_append (by decide), ih h.2]
      rfl
    · have hstarts : startsWith quoteEntity (c :: writtenValue v) = false := by
        rw [← Bool.not_eq_true, startsWith_iff]
        intro hpre
        obtain ⟨hamp, hrest⟩ := List.cons_prefix_cons.1 hpre
        rw [prefix_writtenValue_iff (by decide) (by decide)] at hrest
        exact h.1 (List.cons_prefix_cons.2 ⟨hamp, hrest⟩)
      rw [writtenValue_cons hc, replace_cons hstarts, ih h.2]

end Written

/-! ### References in values -/

/-- An ampersand in the value begins a reference. -/
def HoldsReference (v : Text) : Prop := ∃ r, '&' :: r <:+ v ∧ BeginsReference r

section References
variable {p r v : Text}

theorem OpensReference.not_mem (h : OpensReference p) {c : Char} (hc : c = '&' ∨ c = '"') : c ∉ p := by
  obtain ⟨hword, hhex, hdigit, hmarks⟩ : isWordChar c = false ∧ isHexDigit c = false ∧ isDigit c = false ∧
      c ∉ ['#', 'x', 'X', ';'] := by obtain rfl | rfl := hc <;> decide
  simp only [List.mem_cons, List.not_mem_nil, or_false, not_or] at hmarks
  obtain ⟨hhash, hsmall, hlarge, hsemicolon⟩ := hmarks
  have hname {name v : Text} (hv : named? name = some v) : c ∉ name := fun hin =>
    absurd ((named?_spec hv).1 c hin) (by rw [hword]; decide)
  cases h with
  | @decimal d hd =>
    have hne : c ≠ d := by
      rintro rfl
      rw [hdigit] at hd
      cases hd
    simp [hhash, hne]
  | @hexadecimal x d hx hd =>
    have hne : c ≠ d := by
      rintro rfl
      rw [hhex] at hd
      cases hd
    have hletter : c ≠ x := by obtain rfl | rfl := hx <;> assumption
    simp [hhash, hletter, hne]
  | terminated hsome =>
    obtain ⟨v, hv⟩ := Option.isSome_iff_exists.1 hsome
    simp [hname hv, hsemicolon]
  | unterminated hbare =>
    obtain ⟨v, hv⟩ := named?_of_isUnterminated hbare
    exact hname hv

theorem beginsReference_writtenValue : BeginsReference (writtenValue r) ↔ BeginsReference r :=
  exists_congr fun _ => and_congr_right fun hp =>
    prefix_writtenValue_iff (hp.not_mem (.inl rfl)) (hp.not_mem (.inr rfl))

theorem not_holdsReference_nil : ¬ HoldsReference [] := by
  rintro ⟨r, h, -⟩
  exact absurd (List.suffix_nil.1 h) (by simp)

theorem holdsReference_append (hp : '&' ∉ p) : HoldsReference (p ++ v) ↔ HoldsReference v :=
  exists_congr fun _ => and_congr_left fun _ => cons_suffix_append_iff hp

theorem holdsReference_amp : HoldsReference ('&' :: v) ↔ BeginsReference v ∨ HoldsReference v := by
  constructor
  · rintro ⟨r, h, hr⟩
    obtain heq | hrest := List.suffix_cons_iff.1 h
    · exact .inl ((List.cons.inj heq).2 ▸ hr)
    · exact .inr ⟨r, hrest, hr⟩
  · rintro (h | ⟨r, hr, h⟩)
    · exact ⟨v, List.suffix_refl _, h⟩
    · exact ⟨r, List.suffix_cons_iff.2 (.inr hr), h⟩

/-- What becomes of a value that is written and read. -/
inductive ReadBack (v : Text) : Prop where
  | tooLong {digits : Nat} : resolveValue (writtenValue v) = .error digits → HoldsReference v → ReadBack v
  | same : resolveValue (writtenValue v) = .ok v → ¬ HoldsReference v → ReadBack v
  | shorter {u : Text} : resolveValue (writtenValue v) = .ok u → u.length < v.length → HoldsReference v →
      ReadBack v

theorem ReadBack.append (hread : resolveValue (writtenValue (p ++ v)) = (resolveValue (writtenValue v)).map (p ++ ·))
    (hholds : HoldsReference (p ++ v) ↔ HoldsReference v) (h : ReadBack v) : ReadBack (p ++ v) := by
  cases h with
  | tooLong hv hr =>
    rw [hv] at hread
    exact .tooLong hread (hholds.2 hr)
  | same hv hr =>
    rw [hv] at hread
    exact .same hread (mt hholds.1 hr)
  | shorter hv hlt hr =>
    rw [hv] at hread
    exact .shorter hread (by simpa using hlt) (hholds.2 hr)

/-- No value is read as more than was written. -/
theorem ReadBack.length_le (h : ReadBack v) :
    (∃ digits, resolveValue (writtenValue v) = .error digits) ∨
      ∃ u, resolveValue (writtenValue v) = .ok u ∧ u.length ≤ v.length := by
  cases h with
  | tooLong hv _ => exact .inl ⟨_, hv⟩
  | same hv _ => exact .inr ⟨v, hv, Nat.le_refl _⟩
  | shorter hv hlt _ => exact .inr ⟨_, hv, Nat.le_of_lt hlt⟩

theorem resolveFrom_reference {s t w : Text} (hs : s = p ++ t)
    (h : valueReference? s = .ok (some (w, p.length))) :
    resolveFrom 0 ('&' :: s) = (resolveFrom 0 t).map (w ++ ·) := by
  rw [resolveFrom, if_pos rfl, h]
  show (resolveFrom p.length s).bind _ = _
  rw [hs, resolveFrom_skip]
  cases resolveFrom 0 t <;> rfl

theorem resolveFrom_amp {s : Text} (h : valueReference? s = .ok none) :
    resolveFrom 0 ('&' :: s) = (resolveFrom 0 s).map ('&' :: ·) := by
  rw [resolveFrom, if_pos rfl, h]
  show (resolveFrom 0 s).bind _ = _
  cases resolveFrom 0 s <;> rfl

theorem resolveValue_cons {c : Char} (hc : c ≠ '&') (v : Text) :
    resolveValue (writtenValue (c :: v)) = (resolveValue (writtenValue v)).map (c :: ·) := by
  by_cases hquote : c = '"'
  · rw [hquote, writtenValue_quote]
    exact resolveFrom_quoteEntity _
  · rw [writtenValue_cons hquote]
    exact resolveFrom_cons hc _

theorem readBack (v : Text) : ReadBack v := by
  -- by length, since what follows an ampersand is taken several characters at once
  induction hn : v.length using Nat.strong_induction_on generalizing v with
  | _ n ih =>
    cases v with
    | nil => exact .same rfl not_holdsReference_nil
    | cons c v =>
      rw [List.length_cons] at hn
      by_cases hc : c = '&'
      · subst hc
        have hwritten : writtenValue ('&' :: v) = '&' :: writtenValue v := writtenValue_cons (by decide) v
        have hholds := @holdsReference_amp v
        rw [← beginsReference_writtenValue] at hholds
        cases referenceAt (writtenValue v) with
        | @tooLong digits hread hbegins =>
          have hfail : resolveValue (writtenValue ('&' :: v)) = .error digits := by
            rw [hwritten, resolveValue, resolveFrom, if_pos rfl, hread]
            rfl
          exact .tooLong hfail (hholds.2 (.inl hbegins))
        | nothing hread hnot =>
          have hv := ih v.length (by omega) v rfl
          refine @ReadBack.append ['&'] v ?_ (hholds.trans (or_iff_right hnot)) hv
          rw [List.singleton_append, hwritten, resolveValue, resolveFrom_amp hread]
          rfl
        | asItStands hs hamp hread hnot =>
          obtain ⟨r, rfl, rfl⟩ := exists_of_writtenValue hs hamp
          rw [List.length_append] at hn
          refine @ReadBack.append ('&' :: _) r ?_ ?_ (ih r.length (by omega) r rfl)
          · rw [List.cons_append, hwritten, resolveValue, resolveFrom_reference hs hread]
            rfl
          · exact (hholds.trans (or_iff_right hnot)).trans (holdsReference_append hamp)
        | shorter hs hamp hread hshort hbegins =>
          obtain ⟨r, rfl, rfl⟩ := exists_of_writtenValue hs hamp
          rw [List.length_append] at hn
          have hresolve := resolveFrom_reference hs hread
          rw [← hwritten] at hresolve
          have hheld := hholds.2 (.inl hbegins)
          obtain ⟨digits, hr⟩ | ⟨u, hr, hle⟩ := (ih r.length (by omega) r rfl).length_le
          · rw [resolveValue] at hr
            rw [hr] at hresolve
            exact .tooLong hresolve hheld
          · rw [resolveValue] at hr
            rw [hr] at hresolve
            refine .shorter hresolve ?_ hheld
            simp only [List.length_append, List.length_cons]
            omega
      · have hv := ih v.length (by omega) v rfl
        have hone : '&' ∉ [c] := by simpa using Ne.symm hc
        exact hv.append (resolveValue_cons hc v) (holdsReference_append hone)

theorem resolveValue_writtenValue_iff {v : Text} :
    resolveValue (writtenValue v) = .ok v ↔ ¬ HoldsReference v := by
  cases readBack v with
  | tooLong hv hr => simp [hv, hr]
  | same hv hr => simp [hv, hr]
  | shorter hv hlt hr =>
    have hne {u : Text} (hu : u.length < v.length) : u ≠ v := fun he => Nat.lt_irrefl _ (he ▸ hu)
    simp [hv, hr, hne hlt]

end References

/-! ### Printed tags -/

section Tags
variable {attrs attrs' : Attrs} {pairs : List (Text × Text)}

theorem tokens_of_read {t : Text} {tok : Token} (h : markup none t = .read [tok] none []) :
    tokens ('<' :: t) = .ok [tok] := by
  have hstep : step false none ('<' :: t) = .go [tok] none [] := by simp only [step, markupStep, h]
  simp [tokens, pass_of_go hstep, pass_nil, bind, Except.bind, pure, Except.pure, Except.map]

theorem tokens_of_rejected {t : Text} {why : Rejection} (h : markup none t = .rejected why) :
    tokens ('<' :: t) = .error why := by
  have hstep : step false none ('<' :: t) = .reject why := by simp only [step, markupStep, h]
  simp [tokens, pass_eq, hstep, bind, Except.bind]

theorem ofTokens_selfClosed (name : Text) :
    ofTokens [.selfClosed name pairs] = [.element name ((Attrs.ofPairs pairs).map cleanAttr) []] := by
  rw [ofTokens, List.foldl_cons, List.foldl_nil, Builder.add, Builder.close_push]
  rfl

theorem parse_printed {name : Text} (hname : isPlainName name) (hkeys : ∀ a ∈ attrs, isPlainKey a.1) :
    parse ('<' :: name ++ attrsToHeex attrs ++ " />") =
      match resolveAttrs (attrs.map writtenAttr) with
      | .ok pairs => .ok [.element name ((Attrs.ofPairs pairs).map cleanAttr) []]
      | .error digits => .error (.longNumber digits) := by
  have htext : ('<' :: name ++ attrsToHeex attrs ++ " />" : Text) =
      '<' :: (name ++ tagRest attrs .selfClosed []) := by simp [tagRest, tagTail]
  have hmarkup := (Builder.markup_name hname (tagRest attrs .selfClosed [])).trans (startTag_printed hname hkeys)
  rw [htext, parse]
  cases hread : resolveAttrs (attrs.map writtenAttr) with
  | ok pairs =>
    rw [hread] at hmarkup
    rw [tokens_of_read hmarkup]
    exact congrArg Except.ok (ofTokens_selfClosed name)
  | error digits =>
    rw [hread] at hmarkup
    rw [tokens_of_rejected hmarkup]
    rfl

/-! ### Attributes -/

/-- Keys are read as they are written. -/
theorem resolveAttrs_writtenAttr_iff (hkeys : ∀ a ∈ attrs, isPlainKey a.1) :
    resolveAttrs (attrs.map writtenAttr) = .ok pairs ↔
      List.Forall₂ (fun a b => b.1 = a.1 ∧ resolveValue (writtenValue a.2) = .ok b.2) attrs pairs := by
  induction attrs generalizing pairs with
  | nil =>
    rw [List.forall₂_nil_left_iff]
    exact ⟨fun h => (Except.ok.inj h).symm, fun h => by rw [h]; rfl⟩
  | cons a attrs ih =>
    obtain ⟨hkey, hrest⟩ := List.forall_mem_cons.1 hkeys
    have hread : resolveAttrs ((a :: attrs).map writtenAttr) =
        (resolveValue (writtenValue a.2)).bind fun v =>
          (resolveAttrs (attrs.map writtenAttr)).map ((a.1, v) :: ·) := by
      rw [resolveAttrs, List.map_cons, List.mapM_cons, ← resolveAttrs]
      simp only [writtenAttr, lower_key hkey]
      cases resolveValue (writtenValue a.2) with
      | error digits => rfl
      | ok v => cases resolveAttrs (attrs.map writtenAttr) <;> rfl
    rw [hread, List.forall₂_cons_left_iff]
    constructor
    · intro h
      cases hv : resolveValue (writtenValue a.2) with
      | error digits =>
        rw [hv] at h
        cases h
      | ok v =>
        cases hqs : resolveAttrs (attrs.map writtenAttr) with
        | error digits =>
          rw [hv, hqs] at h
          cases h
        | ok qs =>
          rw [hv, hqs] at h
          exact ⟨(a.1, v), qs, ⟨rfl, rfl⟩, (ih hrest).1 hqs, (Except.ok.inj h).symm⟩
    · rintro ⟨b, qs, ⟨hb, hv⟩, hqs, rfl⟩
      rw [hv, (ih hrest).2 hqs, ← hb]
      rfl

theorem length_cleanAttr_le (a : Text × Text) : (cleanAttr a).2.length ≤ a.2.length := by
  rw [cleanAttr]
  dsimp only
  split
  · exact length_replace_le _ _
  · exact Nat.le_refl _

/-- A value that is read as another is read as a shorter one, which cleaning does not make up for. -/
theorem not_holdsReference {a : Text × Text}
    (h : resolveValue (writtenValue (cleanAttr a).2) = .ok a.2) : ¬ HoldsReference (cleanAttr a).2 := by
  have hle := length_cleanAttr_le a
  cases readBack (cleanAttr a).2 with
  | tooLong hv _ => rw [hv] at h; cases h
  | same _ hr => exact hr
  | shorter hv hlt _ =>
    rw [hv] at h
    rw [Except.ok.inj h] at hlt
    omega

/-- The attributes come back as they were exactly if no value holds a reference. -/
theorem read_written_iff (hkeys : ∀ a ∈ attrs, isPlainKey a.1) (hnodup : (attrs.map (·.1)).Nodup)
    (hclass : ∀ a ∈ attrs, a.1 = ("class" : Text) → ¬ runtimeMarker <:+: a.2) :
    (∃ pairs, resolveAttrs (attrs.map writtenAttr) = .ok pairs ∧ (Attrs.ofPairs pairs).map cleanAttr = attrs) ↔
      ∀ a ∈ attrs, ¬ HoldsReference a.2 := by
  simp only [resolveAttrs_writtenAttr_iff hkeys]
  constructor
  · rintro ⟨pairs, hread, hclean⟩
    have hfst : attrs.map (·.1) = pairs.map (·.1) := by
      rw [← List.forall₂_eq_eq_eq, List.forall₂_map_left_iff, List.forall₂_map_right_iff]
      exact hread.imp fun a b h => h.1.symm
    rw [ofPairs_of_nodup (hfst ▸ hnodup)] at hclean
    rw [← hclean] at hread ⊢
    rw [List.forall₂_map_left_iff, List.forall₂_same] at hread
    exact List.forall_mem_map.2 fun a ha => not_holdsReference (hread a ha).2
  · intro hno
    refine ⟨attrs, List.forall₂_same.2 fun a ha => ⟨rfl, resolveValue_writtenValue_iff.2 (hno a ha)⟩, ?_⟩
    rw [ofPairs_of_nodup hnodup]
    refine (List.map_congr_left fun a ha => cleanAttr_eq_self fun hc => ?_).trans (List.map_id attrs)
    rw [← Bool.not_eq_true, contains_iff]
    exact hclass a ha hc

theorem attrsToHeex_eq_flatMap_written (attrs : Attrs) :
    attrsToHeex attrs = (attrs.map writtenAttr).flatMap fun a =>
      ' ' :: (if a.2 = [] then a.1 else a.1 ++ "=\"" ++ a.2 ++ ['"']) := by
  rw [attrsToHeex_eq_flatMap, List.flatMap_map]
  simp only [writtenAttr, writtenValue_eq_nil_iff]
  rfl

/-- Attributes that are printed alike have the same keys and the same written values. -/
theorem attrsToHeex_eq_iff (hkeys : ∀ a ∈ attrs, isPlainKey a.1) (hkeys' : ∀ a ∈ attrs', isPlainKey a.1) :
    attrsToHeex attrs = attrsToHeex attrs' ↔ attrs.map writtenAttr = attrs'.map writtenAttr := by
  constructor
  · intro h
    have hrest : tagRest attrs .opened [] = tagRest attrs' .opened [] := by rw [tagRest, h, tagRest]
    have hread := @attributes_tagRest .opened [] attrs hkeys ' ' fun _ => by decide
    have hread' := @attributes_tagRest .opened [] attrs' hkeys' ' ' fun _ => by decide
    rw [hrest, hread'] at hread
    exact (Prod.mk.inj hread).1.symm
  · intro h
    rw [attrsToHeex_eq_flatMap_written, attrsToHeex_eq_flatMap_written, h]

/-- Attributes whose values hold no written quote come back from what is printed. -/
theorem eq_of_map_writtenAttr (h : attrs.map writtenAttr = attrs'.map writtenAttr)
    (hquote : ∀ a ∈ attrs, ¬ quoteEntity <:+: a.2) (hquote' : ∀ a ∈ attrs', ¬ quoteEntity <:+: a.2) :
    attrs = attrs' := by
  have hback : ∀ {as : Attrs}, (∀ a ∈ as, ¬ quoteEntity <:+: a.2) →
      (as.map writtenAttr).map (fun a => (a.1, replace quoteEntity ['"'] a.2)) = as := by
    intro as has
    rw [List.map_map]
    refine (List.map_congr_left fun a ha => ?_).trans (List.map_id as)
    exact Prod.ext rfl (replace_writtenValue (has a ha))
  rw [← hback hquote, h, hback hquote']

/-- A printed tag reads back as it was exactly if no value of its attributes holds a character reference,
and attributes are printed alike exactly if they differ at most in quotes written as references. -/
theorem attributes_read_back_iff (hkeys : ∀ a ∈ attrs, isPlainKey a.1) (hnodup : (attrs.map (·.1)).Nodup)
    (hclass : ∀ a ∈ attrs, a.1 = ("class" : Text) → ¬ runtimeMarker <:+: a.2) :
    (parse ("<div" ++ attrsToHeex attrs ++ " />") = .ok [.element "div" attrs []] ↔
      ∀ a ∈ attrs, ¬ HoldsReference a.2) ∧
    ∀ attrs' : Attrs, (∀ a ∈ attrs', isPlainKey a.1) →
      (attrsToHeex attrs = attrsToHeex attrs' ↔ attrs.map writtenAttr = attrs'.map writtenAttr) ∧
      ((∀ a ∈ attrs ++ attrs', ¬ quoteEntity <:+: a.2) → attrsToHeex attrs = attrsToHeex attrs' →
        attrs = attrs') := by
  constructor
  · have hparse := @parse_printed attrs "div" (by decide) hkeys
    have htext : ("<div" ++ attrsToHeex attrs ++ " />" : Text) =
        '<' :: ("div" : Text) ++ attrsToHeex attrs ++ " />" := rfl
    rw [htext, hparse, ← read_written_iff hkeys hnodup hclass]
    cases resolveAttrs (attrs.map writtenAttr) with
    | error digits => simp
    | ok pairs => simp
  · intro attrs' hkeys'
    have hprinted := attrsToHeex_eq_iff hkeys hkeys'
    refine ⟨hprinted, fun hquote h => ?_⟩
    rw [List.forall_mem_append] at hquote
    exact eq_of_map_writtenAttr (hprinted.1 h) hquote.1 hquote.2

end Tags

/-- Ampersands that begin no reference, all that can stand in a value beside them, and an empty value. -/
def inscribed : Attrs := [
    ("title", "a & b &x; <c> \"d\"\n'e' = &"), ("class", "p $ q"), ("data-1", "&#; &#x; &unknown;"),
    ("disabled", [])]

theorem attributes_read_back_iff_inscribed :
    (∀ a ∈ inscribed, isPlainKey a.1) ∧ (inscribed.map (·.1)).Nodup ∧
    (∀ a ∈ inscribed, a.1 = ("class" : Text) → ¬ runtimeMarker <:+: a.2) ∧
    parse ("<div" ++ attrsToHeex inscribed ++ " />") = .ok [.element "div" inscribed []] ∧
    ∀ a ∈ inscribed, ¬ HoldsReference a.2 :=
  have hkeys : ∀ a ∈ inscribed, isPlainKey a.1 := by decide
  have hnodup : (inscribed.map (·.1)).Nodup := by decide
  have hclass : ∀ a ∈ inscribed, a.1 = ("class" : Text) → ¬ runtimeMarker <:+: a.2 := by decide
  have hparse : parse ("<div" ++ attrsToHeex inscribed ++ " />") = .ok [.element "div" inscribed []] := by
    with_unfolding_all rfl
  ⟨hkeys, hnodup, hclass, hparse, (attributes_read_back_iff hkeys hnodup hclass).1.1 hparse⟩

/-- A reference that stands in a value is printed as it stands and read as what it refers to; a quote is
printed like a reference to it. -/
theorem reference_lost :
    parse ("<div" ++ attrsToHeex [("title", "&amp;")] ++ " />") = .ok [.element "div" [("title", "&")] []] ∧
    parse ("<div" ++ attrsToHeex [("title", "&amp;")] ++ " />") ≠
      .ok [.element "div" [("title", "&amp;")] []] ∧
    attrsToHeex [("title", "\"")] = attrsToHeex [("title", "&quot;")] := by
  have hread : parse ("<div" ++ attrsToHeex [("title", "&amp;")] ++ " />") =
      .ok [.element "div" [("title", "&")] []] := by with_unfolding_all rfl
  refine ⟨hread, ?_, by with_unfolding_all rfl⟩
  rw [hread]
  simp

end Componentry.Markup
