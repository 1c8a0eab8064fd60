import Componentry.Proofs.Markup.Escape
import Componentry.Proofs.Markup.Plain
import Componentry.Proofs.Text.Case
import Componentry.Proofs.Text.Span
import Componentry.Proofs.Text.Trim

/-!
Printed tags read back: name, keys and values of a start tag, and the name of an end tag.
-/
namespace Componentry.Markup
open Componentry.Text Componentry.Component

/-! ### Characters of names and keys -/

section KeyChar
variable {c : Char} (h : isKeyChar c = true)
include h

theorem ne_of_isKeyChar {d : Char} (hd : isKeyChar d = false) : c ≠ d := by
  rintro rfl; simp [h] at hd

theorem isBlank_of_isKeyChar : isBlank c = false := by
  have := isKeyChar_iff.1 h
  simp only [isBlank, Bool.or_eq_false_iff, Bool.and_eq_false_iff, decide_eq_false_iff_not]
  omega

theorem isNameChar_of_isKeyChar : isNameChar c = true := by
  have hne {d : Char} (hd : isKeyChar d = false) : c ≠ d := ne_of_isKeyChar h hd
  simp only [isNameChar, Bool.not_eq_true', Bool.or_eq_false_iff, decide_eq_false_iff_not]
  exact ⟨⟨⟨⟨⟨⟨⟨hne rfl, hne rfl⟩, hne rfl⟩, hne rfl⟩, hne rfl⟩, hne rfl⟩, hne rfl⟩, hne rfl⟩

theorem isAttrChar_of_isKeyChar : isAttrChar c = true := by
  have hne {d : Char} (hd : isKeyChar d = false) : c ≠ d := ne_of_isKeyChar h hd
  simp only [isAttrChar, Bool.not_eq_true', Bool.or_eq_false_iff, decide_eq_false_iff_not]
  exact ⟨⟨⟨isBlank_of_isKeyChar h, hne rfl⟩, hne rfl⟩, hne rfl⟩

theorem isAttrStart_of_isKeyChar : isAttrStart c = true := by
  have hne {d : Char} (hd : isKeyChar d = false) : c ≠ d := ne_of_isKeyChar h hd
  simp only [isAttrStart, Bool.not_eq_true', Bool.or_eq_false_iff, decide_eq_false_iff_not]
  exact ⟨⟨isBlank_of_isKeyChar h, hne rfl⟩, hne rfl⟩

theorem toLower_of_isKeyChar : c.toNat < 128 ∧ c.toLower = c := by
  have hr := isKeyChar_iff.1 h
  refine ⟨by omega, ?_⟩
  have hup : ¬ (c.val ≥ 'A'.val ∧ c.val ≤ 'Z'.val) := by
    have hc : c.val.toNat = c.toNat := rfl
    have hA : 'A'.val.toNat = 65 ∧ 'Z'.val.toNat = 90 := by decide
    simp only [ge_iff_le, UInt32.le_iff_toNat_le]
    omega
  delta Char.toLower
  split
  · next hu => exact absurd ⟨hu.1, hu.2⟩ hup
  · rfl

end KeyChar

theorem isLetter_of_isLower {c : Char} (h : isLower c = true) : isLetter c = true := by
  simp only [isLower, isLetter, Bool.or_eq_true] at h ⊢
  exact .inl h

theorem isKeyChar_of_isLower {c : Char} (h : isLower c = true) : isKeyChar c = true := by
  simp [isKeyChar, h]

theorem lower_key {key : Text} (h : isPlainKey key) : lower key = key :=
  lower_eq_self fun c hc => toLower_of_isKeyChar (all_isKeyChar h c hc)

/-! ### Attributes -/

/-- The value of an attribute as it stands in the tag. -/
def writtenValue (v : Text) : Text := replace ['"'] quoteEntity v

def writtenAttr (a : Text × Text) : Text × Text := (a.1, writtenValue a.2)

theorem attrsToHeex_eq_flatMap (attrs : Attrs) :
    attrsToHeex attrs = attrs.flatMap fun a => ' ' :: attrToHeex a := by
  rw [attrsToHeex]
  induction attrs with
  | nil => rfl
  | cons a attrs ih =>
    cases attrs with
    | nil => simp [joinWith]
    | cons b attrs =>
      simp only [reduceCtorEq, if_false, List.map_cons, joinWith, List.flatMap_cons] at ih ⊢
      rw [← ih]
      simp

theorem attrValue?_quoted {w t : Text} (h : '"' ∉ w) :
    attrValue? ('=' :: '"' :: (w ++ '"' :: t)) = some (w, '"', t) := by
  have heq : isBlank '=' = false := by decide
  have hq : isBlank '"' = false := by decide
  simp [attrValue?, skipBlanks, heq, hq, isQuote, cut?_append h]

/-- After a bare key. -/
theorem attrValue?_eq_none {t : Text} (h : (skipBlanks t).head? ≠ some '=') : attrValue? t = none := by
  have he : (skipBlanks t).takeWhile (· = '=') = [] := by
    cases hs : skipBlanks t with
    | nil => rfl
    | cons c s =>
      rw [hs] at h
      exact List.takeWhile_cons_of_neg (by simpa using h)
  simp [attrValue?, he]

/-- What follows a printed attribute: a blank, or the end of a start tag. -/
def EndsAttr (t : Text) : Prop := t.head? = some ' ' ∨ t.head? = some '>'

theorem EndsAttr.head {t : Text} (h : EndsAttr t) : ∀ c, t.head? = some c → isAttrChar c = false := by
  intro c hc
  obtain h | h := h
  · rw [h] at hc; cases hc; decide
  · rw [h] at hc; cases hc; decide

theorem attributes_attrToHeex {a : Text × Text} (ha : isPlainKey a.1) {before : Char}
    (hb : opensAttribute before) {t : Text} (ht : EndsAttr t) (he : (skipBlanks t).head? ≠ some '=') :
    ∃ next, (skipGaps t ≠ t → next = ' ') ∧
      attributes before (attrToHeex a ++ t) =
        (writtenAttr a :: (attributes next (skipGaps t)).1, (attributes next (skipGaps t)).2) := by
  obtain ⟨key, v⟩ := a
  obtain ⟨c, s, hkey, hc⟩ := isPlainKey_head ha
  have hkeys := all_isKeyChar ha
  simp only at hkey ha hkeys ⊢
  subst hkey
  have hstart : isAttrStart c = true := isAttrStart_of_isKeyChar (isKeyChar_of_isLower hc)
  have hs : ∀ d ∈ s, isAttrChar d = true := fun d hd =>
    isAttrChar_of_isKeyChar (hkeys d (List.mem_cons_of_mem c hd))
  by_cases hv : v = []
  · subst hv
    refine ⟨if skipGaps t = t then (c :: s).getLast?.getD c else ' ', fun hne => if_neg hne, ?_⟩
    have hname : (s ++ t).takeWhile isAttrChar = s := takeWhile_append_stop hs ht.head
    have hafter : (s ++ t).dropWhile isAttrChar = t := dropWhile_append_stop hs ht.head
    have hnone := attrValue?_eq_none he
    simp only [attrToHeex, if_pos, List.cons_append]
    rw [attributes]
    simp only [hb, hstart, Bool.and_self, if_true, hname, hafter]
    split
    · next hsome => rw [hafter, hnone] at hsome; cases hsome
    · rfl
  · refine ⟨if skipGaps t = t then '"' else ' ', fun hne => if_neg hne, ?_⟩
    have hquote : '"' ∉ writtenValue v := not_mem_replace_singleton (by decide)
    have htext : attrToHeex (c :: s, v) ++ t = c :: (s ++ '=' :: '"' :: (writtenValue v ++ '"' :: t)) := by
      have hgiven : attrToHeex (c :: s, v) = (c :: s) ++ "=\"" ++ writtenValue v ++ ['"'] := if_neg hv
      have hequals : ("=\"" : Text) = ['=', '"'] := by decide
      rw [hgiven, hequals]
      simp
    have hname := takeWhile_append_stop (s := '=' :: '"' :: (writtenValue v ++ '"' :: t)) hs
      (by rintro d ⟨⟩; decide)
    have hafter := dropWhile_append_stop (s := '=' :: '"' :: (writtenValue v ++ '"' :: t)) hs
      (by rintro d ⟨⟩; decide)
    have hvalue := attrValue?_quoted (t := t) hquote
    rw [htext, attributes]
    simp only [hb, hstart, Bool.and_self, if_true, hname, hafter]
    split
    · next value last r hsome =>
      rw [hafter, hvalue] at hsome
      cases hsome
      rfl
    · next hnone => rw [hafter, hvalue] at hnone; cases hnone

/-- The end of a printed start tag. -/
def tagEnd : TagEnd → Text
  | .selfClosed => "/>"
  | _ => ">"

/-- A blank stands before a slash. -/
def tagTail : TagEnd → Text
  | .selfClosed => " />"
  | _ => ">"

section StartTag
variable {e : TagEnd} {rest : Text}

theorem skipGaps_of_not_gap {c : Char} {s : Text} (hb : isBlank c = false) (hs : c ≠ '/') :
    skipGaps (c :: s) = c :: s := by
  simp [skipGaps, hb, hs]

theorem skipGaps_space (s : Text) : skipGaps (' ' :: s) = skipGaps s := by
  have hb : isBlank ' ' = true := by decide
  simp [skipGaps, hb]

theorem skipGaps_tagTail : skipGaps (tagTail e ++ rest) = tagEnd e ++ rest := by
  have hgt (s : Text) : skipGaps ('>' :: s) = '>' :: s := skipGaps_of_not_gap (by decide) (by decide)
  cases e with
  | selfClosed =>
    have hslash : skipGaps ('/' :: '>' :: rest) = '/' :: '>' :: rest := by
      have hb : isBlank '/' = false := by decide
      simp [skipGaps, hb]
    exact (skipGaps_space _).trans hslash
  | opened => exact hgt rest
  | malformed => exact hgt rest
  | incomplete => exact hgt rest

theorem attributes_tagEnd (before : Char) : attributes before (tagEnd e ++ rest) = ([], tagEnd e ++ rest) := by
  have hgt (s : Text) : attributes before ('>' :: s) = ([], '>' :: s) := by
    have hs : isAttrStart '>' = false := by decide
    rw [attributes]; simp [hs]
  cases e with
  | selfClosed =>
    have hs : isAttrStart '/' = false := by decide
    show attributes before ('/' :: '>' :: rest) = ([], '/' :: '>' :: rest)
    rw [attributes]; simp [hs]
  | opened => exact hgt rest
  | malformed => exact hgt rest
  | incomplete => exact hgt rest

/-- What stands after the name of a printed start tag. -/
def tagRest (attrs : Attrs) (e : TagEnd) (rest : Text) : Text := attrsToHeex attrs ++ (tagTail e ++ rest)

theorem tagRest_cons (a : Text × Text) (attrs : Attrs) :
    tagRest (a :: attrs) e rest = ' ' :: (attrToHeex a ++ tagRest attrs e rest) := by
  simp [tagRest, attrsToHeex_eq_flatMap]

theorem attrToHeex_head {a : Text × Text} (ha : isPlainKey a.1) :
    ∃ c s, attrToHeex a = c :: s ∧ isKeyChar c = true := by
  obtain ⟨c, s, hkey, hc⟩ := isPlainKey_head ha
  rw [attrToHeex]
  rw [hkey]
  split
  · exact ⟨c, s, rfl, isKeyChar_of_isLower hc⟩
  · exact ⟨c, _, rfl, isKeyChar_of_isLower hc⟩

theorem endsAttr_tagRest (attrs : Attrs) : EndsAttr (tagRest attrs e rest) := by
  cases attrs with
  | nil => cases e <;> simp [tagRest, attrsToHeex, tagTail, EndsAttr]
  | cons a attrs => exact .inl (by rw [tagRest_cons]; rfl)

theorem skipBlanks_tagRest (attrs : Attrs) (h : ∀ a ∈ attrs, isPlainKey a.1) :
    (skipBlanks (tagRest attrs e rest)).head? ≠ some '=' := by
  have hspace (s : Text) : skipBlanks (' ' :: s) = skipBlanks s :=
    List.dropWhile_cons_of_pos (by decide)
  cases attrs with
  | nil =>
    have hgt (s : Text) : skipBlanks ('>' :: s) = '>' :: s := List.dropWhile_cons_of_neg (by decide)
    have hslash (s : Text) : skipBlanks ('/' :: s) = '/' :: s := List.dropWhile_cons_of_neg (by decide)
    cases e <;> simp [tagRest, attrsToHeex, tagTail, hgt, hslash, hspace]
  | cons a attrs =>
    obtain ⟨c, s, hc, hkey⟩ := attrToHeex_head (h a (by simp))
    rw [tagRest_cons, hspace, hc, List.cons_append, skipBlanks,
      List.dropWhile_cons_of_neg (by simp [isBlank_of_isKeyChar hkey])]
    simpa using ne_of_isKeyChar hkey rfl

theorem skipGaps_tagRest_cons {a : Text × Text} (attrs : Attrs) (ha : isPlainKey a.1) :
    skipGaps (tagRest (a :: attrs) e rest) = attrToHeex a ++ tagRest attrs e rest := by
  obtain ⟨c, s, hc, hkey⟩ := attrToHeex_head ha
  rw [tagRest_cons, skipGaps_space, hc, List.cons_append,
    skipGaps_of_not_gap (isBlank_of_isKeyChar hkey) (ne_of_isKeyChar hkey rfl)]

/-- The attributes of a printed tag, from its first key on. -/
theorem attributes_tagRest (attrs : Attrs) (h : ∀ a ∈ attrs, isPlainKey a.1) {before : Char}
    (hb : attrs ≠ [] → opensAttribute before) :
    attributes before (skipGaps (tagRest attrs e rest)) = (attrs.map writtenAttr, tagEnd e ++ rest) := by
  induction attrs generalizing before with
  | nil =>
    show attributes before (skipGaps (tagTail e ++ rest)) = _
    rw [skipGaps_tagTail, attributes_tagEnd]
    rfl
  | cons a attrs ih =>
    have hattrs : ∀ b ∈ attrs, isPlainKey b.1 := fun b hm => h b (List.mem_cons_of_mem a hm)
    obtain ⟨next, hnext, heq⟩ := attributes_attrToHeex (h a (by simp)) (hb (by simp))
      (@endsAttr_tagRest e rest attrs) (skipBlanks_tagRest attrs hattrs)
    have hopens : attrs ≠ [] → opensAttribute next = true := by
      intro hne
      obtain ⟨b, bs, rfl⟩ := List.exists_cons_of_ne_nil hne
      rw [hnext ?_]
      · decide
      · rw [skipGaps_tagRest_cons bs (hattrs b (by simp)), tagRest_cons]
        exact fun hself => absurd (congrArg List.length hself) (by simp)
    rw [skipGaps_tagRest_cons attrs (h a (by simp)), heq, ih hattrs hopens]
    rfl

theorem ofText_printed {name : Text} {attrs : Attrs} (hname : isPlainName name)
    (hattrs : ∀ a ∈ attrs, isPlainKey a.1) (he : e = .opened ∨ e = .selfClosed) :
    TagText.ofText (name ++ tagRest attrs e rest) = ⟨name, attrs.map writtenAttr, e, rest⟩ := by
  have hkeys := all_isKeyChar (isPlainKey_of_isPlainName hname)
  have hstop : ∀ c, (tagRest attrs e rest).head? = some c → isNameChar c = false := by
    intro c hc
    obtain h | h := @endsAttr_tagRest e rest attrs
    · rw [h] at hc; cases hc; decide
    · rw [h] at hc; cases hc; decide
  have htake : (name ++ tagRest attrs e rest).takeWhile isNameChar = name :=
    takeWhile_append_stop (fun c hc => isNameChar_of_isKeyChar (hkeys c hc)) hstop
  have hdrop : (name ++ tagRest attrs e rest).dropWhile isNameChar = tagRest attrs e rest :=
    dropWhile_append_stop (fun c hc => isNameChar_of_isKeyChar (hkeys c hc)) hstop
  have hopens : attrs ≠ [] → opensAttribute
      (if skipGaps (tagRest attrs e rest) = tagRest attrs e rest then name.getLast?.getD ' ' else ' ') := by
    intro hne
    obtain ⟨a, as, rfl⟩ := List.exists_cons_of_ne_nil hne
    rw [if_neg]
    · decide
    · rw [skipGaps_tagRest_cons as (hattrs a (by simp)), tagRest_cons]
      exact fun hself => absurd (congrArg List.length hself) (by simp)
  have hend : TagEnd.ofRest (tagEnd e ++ rest) = (e, rest) := by rcases he with rfl | rfl <;> rfl
  simp only [TagText.ofText, htake, hdrop, attributes_tagRest attrs hattrs hopens, hend]

/-- Written values read back. -/
theorem resolveAttrs_written {attrs : Attrs} (h : ∀ a ∈ attrs, isPlainAttr a) :
    resolveAttrs (attrs.map writtenAttr) = .ok attrs := by
  rw [resolveAttrs]
  induction attrs with
  | nil => rfl
  | cons a attrs ih =>
    have hkey := isPlainKey_of_isPlainAttr (h a (by simp))
    have hvalue : resolveValue (writtenValue a.2) = .ok a.2 :=
      resolveValue_quoteEntity (not_mem_of_isPlainAttr (h a (by simp)))
    rw [List.map_cons, List.mapM_cons, ih fun b hb => h b (List.mem_cons_of_mem a hb)]
    simp only [writtenAttr, lower_key hkey, hvalue]
    rfl

theorem startTag_opened {name : Text} {attrs : Attrs} (hname : isPlainName name)
    (hraw : isRawName name = false) (hattrs : ∀ a ∈ attrs, isPlainAttr a) :
    startTag (name ++ tagRest attrs .opened rest) = .read [.opening name attrs] none rest := by
  have hkeys : ∀ a ∈ attrs, isPlainKey a.1 := fun a ha => isPlainKey_of_isPlainAttr (hattrs a ha)
  simp only [startTag, ofText_printed hname hkeys (.inl rfl), resolveAttrs_written hattrs,
    lower_key (isPlainKey_of_isPlainName hname), hraw]
  rfl

/-- A printed tag that closes itself, whatever becomes of its values. -/
theorem startTag_printed {name : Text} {attrs : Attrs} (hname : isPlainName name)
    (hkeys : ∀ a ∈ attrs, isPlainKey a.1) :
    startTag (name ++ tagRest attrs .selfClosed rest) =
      match resolveAttrs (attrs.map writtenAttr) with
      | .ok pairs => .read [.selfClosed name pairs] none rest
      | .error digits => .rejected (.longNumber digits) := by
  simp only [startTag, ofText_printed hname hkeys (.inr rfl), lower_key (isPlainKey_of_isPlainName hname)]
  cases resolveAttrs (attrs.map writtenAttr) <;> rfl

theorem startTag_selfClosed {name : Text} {attrs : Attrs} (hname : isPlainName name)
    (hattrs : ∀ a ∈ attrs, isPlainAttr a) :
    startTag (name ++ tagRest attrs .selfClosed rest) = .read [.selfClosed name attrs] none rest := by
  rw [startTag_printed hname fun a ha => isPlainKey_of_isPlainAttr (hattrs a ha), resolveAttrs_written hattrs]

end StartTag

/-! ### End tags and comments -/

theorem endTag_printed {name : Text} (hname : isPlainName name) (rest : Text) :
    endTag none (name ++ '>' :: rest) = .read [.closing name] none rest := by
  have hkeys := all_isKeyChar (isPlainKey_of_isPlainName hname)
  have hlow := lower_key (isPlainKey_of_isPlainName hname)
  have hgt : '>' ∉ name := fun hm => absurd (hkeys _ hm) (by decide)
  have htrim : trimWhere isBlank name = name :=
    trimWhere_eq_self fun c hc => isBlank_of_isKeyChar (hkeys c hc)
  obtain ⟨c, s, rfl, hc⟩ := isPlainName_head hname
  have hs : s.all isCloseChar = true := by
    rw [List.all_eq_true]
    intro d hd
    have hd' := hkeys d (List.mem_cons_of_mem c hd)
    simp only [isKeyChar, Bool.or_eq_true] at hd'
    obtain (hd' | hd') | hd' := hd'
    · simp [isCloseChar, isLetter_of_isLower hd']
    · simp [isCloseChar, hd']
    · simp [isCloseChar, of_decide_eq_true hd']
  have hclose : closeName? (c :: s) = some (c :: s) := by
    simp [closeName?, htrim, isLetter_of_isLower hc, hs, hlow]
  rw [endTag, cut?_append hgt]
  simp only [hclose]

/-- A comment ends at its first double hyphen. -/
theorem search_commentEnd? {u : Text} (h : contains "--" u = false) (hlast : u.getLast? ≠ some '-')
    (rest : Text) : search commentEnd? (u ++ ("-->" ++ rest)) = some (u, rest) := by
  have hgt : skipBlanks ('>' :: rest) = '>' :: rest := List.dropWhile_cons_of_neg (by decide)
  induction u with
  | nil =>
    show search commentEnd? ('-' :: '-' :: '>' :: rest) = _
    simp [search, commentEnd?, hgt]
  | cons c u ih =>
    simp only [contains, Bool.or_eq_false_iff] at h
    have hu : u.getLast? ≠ some '-' := by
      cases u with
      | nil => simp
      | cons d u => simpa using hlast
    have hno : commentEnd? (c :: (u ++ ("-->" ++ rest))) = none := by
      cases u with
      | nil =>
        have hc : c ≠ '-' := by simpa using hlast
        unfold commentEnd?
        split
        · next he => exact absurd (List.cons.inj he).1 hc
        · rfl
      | cons d u =>
        unfold commentEnd?
        split
        · next he =>
          have h1 := List.cons.inj he
          have h2 := List.cons.inj h1.2
          simp [startsWith, after?, h1.1, h2.1] at h
        · rfl
    rw [List.cons_append, search, hno, ih h.2 hu]
    rfl

theorem contains_append_space {s : Text} (h : contains "--" s = false) :
    contains "--" (s ++ [' ']) = false := by
  induction s with
  | nil => decide
  | cons c s ih =>
    simp only [contains, Bool.or_eq_false_iff] at h
    simp only [List.cons_append, contains, Bool.or_eq_false_iff]
    refine ⟨?_, ih h.2⟩
    cases s with
    | nil => by_cases hc : '-' = c <;> simp [startsWith, after?, hc]
    | cons d s => simpa [startsWith, after?] using h.1

theorem declaration_comment {body : Text} (h : contains "--" body = false) (rest : Text) :
    declaration ("-- " ++ (body ++ (" -->" ++ rest)) : Text) =
      .read [.comment (' ' :: (body ++ [' ']))] none rest := by
  have hbody : contains "--" (' ' :: (body ++ [' '])) = false := by
    rw [contains, contains_append_space h]
    rfl
  have hlast : (' ' :: (body ++ [' '])).getLast? ≠ some '-' := by
    rw [← List.cons_append, List.getLast?_concat]
    decide
  have hsearch := search_commentEnd? hbody hlast rest
  have htext : (' ' :: (body ++ [' '])) ++ ("-->" ++ rest : Text) =
      ' ' :: (body ++ (" -->" ++ rest : Text)) := by
    simp
  rw [htext] at hsearch
  show declaration ('-' :: '-' :: ' ' :: (body ++ (" -->" ++ rest : Text))) = _
  simp only [declaration, hsearch]

end Componentry.Markup
