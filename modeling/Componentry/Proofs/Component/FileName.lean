import Componentry.Component.Spec
import Componentry.Proofs.Files.PathText
import Componentry.Proofs.Text.Case
import Componentry.Proofs.Text.Replace

/-!
The file name of a component is a single name: whatever path a page has, it brings no slash into it.
-/
namespace Componentry.Component
open Componentry.Text Componentry.Document

/-- The directory of a page is one of the names in its path. -/
theorem directoryName_eq_nil_or_mem (path : Text) :
    directoryName path = [] ∨ directoryName path ∈ splitOn '/' path := by
  rw [directoryName, Path.parent, Path.name]
  dsimp only
  cases hlast : (Path.ofText path).parts.dropLast.getLast? with
  | none => exact .inl rfl
  | some s =>
    have hmem : s ∈ (Path.ofText path).parts :=
      (List.dropLast_sublist _).subset (List.mem_of_getLast? hlast)
    exact .inr (List.mem_filter.1 hmem).1

theorem slash_not_mem_directoryName (path : Text) : '/' ∉ directoryName path := by
  obtain hnil | hmem := directoryName_eq_nil_or_mem path
  · rw [hnil]
    exact List.not_mem_nil
  · exact not_mem_of_mem_splitOn hmem

theorem not_mem_directoryName {c : Char} {path : Text} (h : c ∉ path) : c ∉ directoryName path := by
  obtain hnil | hmem := directoryName_eq_nil_or_mem path
  · rw [hnil]
    exact List.not_mem_nil
  · exact fun hc => h (mem_of_mem_splitOn hmem hc)

section Mark
variable {m : Char} {s : Text}

/-- The underscore is no mark. -/
theorem ne_underscore_of_isMark (hm : isMark m = true) : m ≠ '_' := by
  rintro rfl
  exact absurd hm (by decide)

theorem mark_not_mem_replace (hm : isMark m = true) (h : m ∉ s) : m ∉ replace ['-'] ['_'] s := by
  rw [replace_singleton]
  intro hin
  obtain ⟨c, hc, hmark⟩ := List.mem_flatMap.1 hin
  rw [writeFor] at hmark
  split at hmark
  · exact ne_underscore_of_isMark hm (List.mem_singleton.1 hmark)
  · exact h (List.mem_singleton.1 hmark ▸ hc)

theorem mark_not_mem_upperFirst (hm : isMark m = true) (h : m ∉ s) : m ∉ upperFirst s := by
  cases s with
  | nil => exact List.not_mem_nil
  | cons c s =>
    have hc : c ≠ m := fun he => h (by simp [he])
    intro hin
    obtain hin | hin := List.mem_append.1 hin
    · exact mark_not_mem_upperChar hm hc hin
    · exact h (List.mem_cons_of_mem c hin)

theorem mark_not_mem_camelize (hm : isMark m = true) (h : m ∉ s) : m ∉ camelize s := by
  intro hin
  obtain ⟨word, hword, hmark⟩ := List.mem_flatMap.1 hin
  have hno : m ∉ word := fun hw => h (mem_of_mem_splitOn (List.mem_filter.1 hword).1 hw)
  exact mark_not_mem_upperFirst hm hno hmark

theorem mark_not_mem_underscored (hm : isMark m = true) (h : m ∉ s) : m ∉ underscored s := by
  have hunder := ne_underscore_of_isMark hm
  fun_induction underscored s with
  | case1 c d s hends ih =>
    have hrest := ih fun hin => h (List.mem_cons_of_mem c hin)
    have hc : m ≠ c := fun he => h (he ▸ List.mem_cons_self)
    simp [hc, hunder, hrest]
  | case2 c d s hends ih =>
    have hrest := ih fun hin => h (List.mem_cons_of_mem c hin)
    have hc : m ≠ c := fun he => h (he ▸ List.mem_cons_self)
    simp [hc, hrest]
  | case3 s => exact h

/-- No mark gets into the name of a component but from its directory. -/
theorem mark_not_mem_nameOfPath {path : Text} (hm : isMark m = true) (h : m ∉ directoryName path) :
    m ∉ nameOfPath path := mark_not_mem_camelize hm (mark_not_mem_replace hm h)

theorem mark_not_mem_fileName (hm : isMark m = true) (h : m ∉ s) : m ∉ fileName s :=
  mark_not_mem_lower hm (mark_not_mem_underscored hm h)

end Mark

theorem slash_not_mem_fileName (base : Text) (page : Page) :
    '/' ∉ (Spec.ofPage base page).fileName :=
  mark_not_mem_fileName (by decide)
    (mark_not_mem_nameOfPath (by decide) (slash_not_mem_directoryName page.path))

end Componentry.Component
