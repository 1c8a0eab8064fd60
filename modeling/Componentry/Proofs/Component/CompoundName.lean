import Componentry.Proofs.Component.NameChar
import Componentry.Proofs.Generation.Turns

/-!
Components named by several words. The name has a capital where a word begins, and the file name is the
words again, so that different words make different names, modules and files.
-/
namespace Componentry.Component
open Componentry.Document Componentry.Generation Componentry.Text

/-- A small letter or a digit. -/
def isSmall (c : Char) : Bool := isLower c || isDigit c

/-- A small letter, then small letters and digits, at least one of them. -/
inductive IsWord : Text → Prop where
  | intro {c : Char} {s : Text} : isLower c = true → s ≠ [] → (∀ d ∈ s, isSmall d = true) → IsWord (c :: s)

/-- Words with a hyphen or an underscore between them. -/
inductive IsCompound : List Text → Text → Prop where
  | word {w : Text} : IsWord w → IsCompound [w] w
  | joint {w s : Text} {ws : List Text} {sep : Char} :
    IsWord w → sep = '-' ∨ sep = '_' → IsCompound ws s → IsCompound (w :: ws) (w ++ sep :: s)

section Words
variable {c d : Char} {s u w : Text} {ws : List Text}

theorem isNameChar_of_isSmall (h : isSmall c = true) : isNameChar c = true := by
  rw [isNameChar, ← isSmall, h, Bool.true_or]

theorem isSmall_of_mem (h : IsWord w) : ∀ d ∈ w, isSmall d = true := by
  cases h with
  | intro hc _ hs => exact List.forall_mem_cons.2 ⟨by rw [isSmall, hc, Bool.true_or], hs⟩

theorem joint_not_mem (h : IsWord w) (hc : c = '-' ∨ c = '_') : c ∉ w := by
  intro hin
  have hsmall := isSmall_of_mem h c hin
  obtain rfl | rfl := hc
  · exact absurd hsmall (by decide)
  · exact absurd hsmall (by decide)

theorem IsCompound.isWord (h : IsCompound ws s) : ∀ w ∈ ws, IsWord w := by
  induction h with
  | word hw => exact List.forall_mem_singleton.2 hw
  | joint hw _ _ ih => exact List.forall_mem_cons.2 ⟨hw, ih⟩

theorem IsCompound.ne_nil (h : IsCompound ws s) : ws ≠ [] := by
  cases h <;> simp

/-! ### From the directory to the name -/

theorem replace_hyphen_eq_self (h : IsWord w) : replace ['-'] ['_'] w = w := by
  refine replace_eq_self (Bool.eq_false_iff.2 fun hin => ?_)
  exact joint_not_mem h (.inl rfl) ((contains_iff.1 hin).subset (List.mem_singleton.2 rfl))

/-- Hyphens count as underscores, and the pieces between these are the words. -/
theorem IsCompound.splitOn_replace (h : IsCompound ws s) : splitOn '_' (replace ['-'] ['_'] s) = ws := by
  induction h with
  | word hw => rw [replace_hyphen_eq_self hw, splitOn_eq_singleton (joint_not_mem hw (.inr rfl))]
  | @joint w s ws sep hw hsep _ ih =>
    have hjoint : writeFor '-' ['_'] sep = ['_'] := by
      obtain rfl | rfl := hsep
      · decide
      · decide
    have hcut : replace ['-'] ['_'] (w ++ sep :: s) = w ++ '_' :: replace ['-'] ['_'] s := by
      rw [replace_singleton, List.flatMap_append, List.flatMap_cons, hjoint, ← replace_singleton,
        ← replace_singleton, replace_hyphen_eq_self hw, List.singleton_append]
    rw [hcut, splitOn_append_cons (joint_not_mem hw (.inr rfl)), ih]

theorem IsCompound.camelize (h : IsCompound ws s) :
    camelize (replace ['-'] ['_'] s) = ws.flatMap upperFirst := by
  have hne : ∀ w ∈ ws, w ≠ [] := by
    intro w hw
    cases h.isWord w hw
    simp
  rw [Component.camelize, h.splitOn_replace, List.filter_eq_self.2 fun w hw => decide_eq_true (hne w hw)]

/-! ### From the name to the file name -/

theorem not_isUpper_of_isSmall (h : isSmall c = true) : isUpper c = false :=
  of_forall_ascii (p := fun c => isSmall c = true → isUpper c = false) (by decide)
    (ascii_of_isNameChar (isNameChar_of_isSmall h)) h

/-- Before a small letter or a digit no word ends. -/
theorem wordEnds_of_isSmall (h : isSmall d = true) (c : Char) (s : Text) : wordEnds c d s = false := by
  simp [wordEnds, not_isUpper_of_isSmall h]

theorem wordEnds_of_isUpper (hc : isSmall c = true) (hd : isUpper d = true) (s : Text) : wordEnds c d s = true := by
  rw [isSmall] at hc
  rw [wordEnds, hc, hd]
  rfl

theorem underscored_cons_of_isSmall (h : isSmall d = true) (c : Char) (s : Text) :
    underscored (c :: d :: s) = c :: underscored (d :: s) := by
  rw [underscored, wordEnds_of_isSmall h, if_neg Bool.false_ne_true]

theorem underscored_eq_self (h : ∀ d ∈ u, isSmall d = true) (c : Char) : underscored (c :: u) = c :: u := by
  induction u generalizing c with
  | nil => rfl
  | cons d u ih =>
    rw [underscored_cons_of_isSmall (h d List.mem_cons_self), ih fun e he => h e (List.mem_cons_of_mem d he)]

/-- A capital after a word begins the next one. -/
theorem underscored_append (hu : u ≠ []) (h : ∀ d ∈ u, isSmall d = true) (hd : isUpper d = true) (c : Char)
    (s : Text) : underscored (c :: u ++ d :: s) = c :: u ++ '_' :: underscored (d :: s) := by
  induction u generalizing c with
  | nil => exact absurd rfl hu
  | cons e u ih =>
    have he := h e List.mem_cons_self
    rw [List.cons_append, List.cons_append, underscored_cons_of_isSmall he]
    by_cases hu : u = []
    · subst hu
      rw [List.nil_append, underscored, if_pos (wordEnds_of_isUpper he hd s)]
      rfl
    · have hrest := ih hu (fun e he => h e (List.mem_cons_of_mem _ he)) e
      rw [List.cons_append] at hrest
      rw [hrest]
      rfl

/-- A word with its first letter as a capital. -/
theorem upperFirst_cons (hc : isLower c = true) (s : Text) : upperFirst (c :: s) = c.toUpper :: s := by
  have hascii : c.toNat < 128 := by
    have := isLower_iff.1 hc
    omega
  rw [upperFirst, upperChar, if_pos hascii, List.singleton_append]

/-- The capitals part the words again. -/
theorem underscored_capitals (h : ∀ w ∈ ws, IsWord w) :
    underscored (ws.flatMap upperFirst) = joinWith ['_'] (ws.map upperFirst) := by
  induction ws with
  | nil => rfl
  | cons w ws ih =>
    obtain ⟨hw, hws⟩ := List.forall_mem_cons.1 h
    have hrest := ih hws
    cases hw with
    | @intro c s hc hs hsmall =>
    cases ws with
    | nil =>
      rw [List.flatMap_singleton, List.map_singleton, joinWith, upperFirst_cons hc, underscored_eq_self hsmall]
    | cons v ws =>
      obtain ⟨hv, -⟩ := List.forall_mem_cons.1 hws
      cases hv with
      | @intro d t hd _ _ =>
      have hflat : ((d :: t) :: ws).flatMap upperFirst = d.toUpper :: (t ++ ws.flatMap upperFirst) := by
        rw [List.flatMap_cons, upperFirst_cons hd, List.cons_append]
      calc underscored (upperFirst (c :: s) ++ ((d :: t) :: ws).flatMap upperFirst)
          = underscored (c.toUpper :: s ++ d.toUpper :: (t ++ ws.flatMap upperFirst)) := by
            rw [hflat, upperFirst_cons hc]
        _ = c.toUpper :: s ++ '_' :: underscored (d.toUpper :: (t ++ ws.flatMap upperFirst)) :=
            underscored_append hs hsmall (isUpper_toUpper hd) c.toUpper _
        _ = upperFirst (c :: s) ++ (['_'] ++ joinWith ['_'] (((d :: t) :: ws).map upperFirst)) := by
            rw [← hflat, hrest, upperFirst_cons hc]
            rfl
        _ = joinWith ['_'] (((c :: s) :: (d :: t) :: ws).map upperFirst) := (joinWith_cons _ (by simp)).symm

theorem ascii_upperFirst (h : IsWord w) : ∀ d ∈ upperFirst w, d.toNat < 128 := by
  cases h with
  | @intro c s hc _ hsmall =>
    rw [upperFirst_cons hc]
    exact List.forall_mem_cons.2 ⟨ascii_toUpper hc, fun d hd => ascii_of_isNameChar (isNameChar_of_isSmall (hsmall d hd))⟩

theorem map_toLower_upperFirst (h : IsWord w) : (upperFirst w).map Char.toLower = w := by
  cases h with
  | @intro c s hc _ hsmall =>
    have hs : s.map Char.toLower = s.map id :=
      List.map_congr_left fun d hd => toLower_of_isNameChar (isNameChar_of_isSmall (hsmall d hd))
    rw [upperFirst_cons hc, List.map_cons, toLower_toUpper hc, hs, List.map_id]

/-- In lower case the words are as they were. -/
theorem lower_capitals (h : ∀ w ∈ ws, IsWord w) : lower (joinWith ['_'] (ws.map upperFirst)) = joinWith ['_'] ws := by
  have hascii : ∀ c ∈ joinWith ['_'] (ws.map upperFirst), c.toNat < 128 := by
    intro c hc
    obtain hc | ⟨s, hs, hc⟩ := mem_of_mem_joinWith hc
    · rw [List.mem_singleton.1 hc]
      decide
    · obtain ⟨w, hw, rfl⟩ := List.mem_map.1 hs
      exact ascii_upperFirst (h w hw) c hc
  have hwords : (ws.map upperFirst).map (fun s => s.map Char.toLower) = ws.map id := by
    rw [List.map_map]
    exact List.map_congr_left fun w hw => map_toLower_upperFirst (h w hw)
  rw [lower_of_ascii hascii, map_joinWith, hwords, List.map_id]
  rfl

theorem IsCompound.fileName (h : IsCompound ws s) :
    fileName (Component.camelize (replace ['-'] ['_'] s)) = joinWith ['_'] ws := by
  rw [h.camelize, Component.fileName, underscored_capitals h.isWord, lower_capitals h.isWord]

/-- The words are what stands between the underscores. -/
theorem splitOn_words (hne : ws ≠ []) (h : ∀ w ∈ ws, IsWord w) : splitOn '_' (joinWith ['_'] ws) = ws :=
  splitOn_joinWith hne fun w hw => joint_not_mem (h w hw) (.inr rfl)

end Words

/-- The file name of a component is the words of its directory with underscores between them. Hence pages
in directories of different words never have the same component name, module name or file. -/
theorem fileName_of_compound {page : Page} {ws : List Text} (h : IsCompound ws (directoryName page.path)) :
    fileName (nameOfPath page.path) = joinWith ['_'] ws ∧
      ∀ (other : Page) (vs : List Text), IsCompound vs (directoryName other.path) → vs ≠ ws →
        nameOfPath other.path ≠ nameOfPath page.path ∧
        (∀ base, (Spec.ofPage base other).moduleName ≠ (Spec.ofPage base page).moduleName) ∧
        ∀ plan : Plan, (modulePath plan (Spec.ofPage plan.base other)).toText ≠
          (modulePath plan (Spec.ofPage plan.base page)).toText := by
  refine ⟨h.fileName, fun other vs hvs hne => ?_⟩
  have hfiles : fileName (nameOfPath other.path) ≠ fileName (nameOfPath page.path) := by
    rw [nameOfPath, nameOfPath, hvs.fileName, h.fileName]
    intro he
    have hsplit := congrArg (splitOn '_') he
    rw [splitOn_words hvs.ne_nil hvs.isWord, splitOn_words h.ne_nil h.isWord] at hsplit
    exact hne hsplit
  have hnames : nameOfPath other.path ≠ nameOfPath page.path := fun he => hfiles (congrArg _ he)
  refine ⟨hnames, fun base he => ?_, fun plan he => ?_⟩
  · exact hnames (List.cons.inj (List.append_cancel_left he)).2
  · have hfile (spec : Spec) : moduleFile spec ≠ [] := List.append_ne_nil_of_right_ne_nil _ (by decide)
    rw [modulePath_ofPage, modulePath_ofPage] at he
    have hsame : moduleFile (Spec.ofPage plan.base other) = moduleFile (Spec.ofPage plan.base page) :=
      Path.toText_child_inj (hfile _) (hfile _) he
    exact hfiles (List.append_cancel_right hsame)

def fileInput : Page := ⟨"docs/file-input/+page.md", []⟩

def headingInput : Page := ⟨"docs/h1_input/+page.md", []⟩

theorem isWord_of_head {c d : Char} {s : Text} (hc : isLower c = true) (hs : (d :: s).all isSmall = true) :
    IsWord (c :: d :: s) := .intro hc (by simp) (List.all_eq_true.1 hs)

theorem isCompound_fileInput : IsCompound ["file", "input"] (directoryName fileInput.path) := by
  have hname : directoryName fileInput.path = "file" ++ '-' :: ("input" : Text) := by decide
  rw [hname]
  exact .joint (isWord_of_head (by decide) (by decide)) (.inl rfl) (.word (isWord_of_head (by decide) (by decide)))

theorem isCompound_headingInput : IsCompound ["h1", "input"] (directoryName headingInput.path) := by
  have hname : directoryName headingInput.path = "h1" ++ '_' :: ("input" : Text) := by decide
  rw [hname]
  exact .joint (isWord_of_head (by decide) (by decide)) (.inr rfl) (.word (isWord_of_head (by decide) (by decide)))

theorem fileName_of_compound_fileInput :
    IsCompound ["file", "input"] (directoryName fileInput.path) ∧
      IsCompound ["h1", "input"] (directoryName headingInput.path) ∧
      fileName (nameOfPath fileInput.path) = ("file_input" : Text) ∧
      nameOfPath headingInput.path ≠ nameOfPath fileInput.path :=
  have h := fileName_of_compound isCompound_fileInput
  ⟨isCompound_fileInput, isCompound_headingInput, h.1,
    (h.2 headingInput _ isCompound_headingInput (by decide)).1⟩

end Componentry.Component
