import Mathlib.Data.List.Basic
import Mathlib.Data.List.Induction
import Componentry.Proofs.Files.Lacking
import Componentry.Proofs.Files.Order

/-!
The documentation files of a tree from which one entry was taken away: those of the tree that still lead
to a file.
-/
namespace Componentry.Files
open Componentry.Text

namespace Disk
variable {d d' : Disk} {dir : Path} {there q : Place} {names : List Text}

/-! ### Ways down a tree -/

theorem IsTree.above (h : d.IsTree) {place : Place} {e : Entry}
    (hget : d.get? (place ++ names) = some e) (hnames : names ≠ []) :
    d.get? place = some .directory := by
  induction names using List.reverseRecOn generalizing e with
  | nil => exact absurd rfl hnames
  | append_singleton names name ih =>
    rw [← List.append_assoc] at hget
    have hparent := h.parent hget
    rw [List.dropLast_concat] at hparent
    by_cases hnil : names = []
    · subst hnil
      rwa [List.append_nil] at hparent
    · exact ih hparent hnil

theorem IsTree.descendNames_down (h : d.IsTree) {jump : Place → List Text → Except Failure Place}
    {place : Place} (hget : d.get? (place ++ names) = some .directory) :
    d.descendNames jump place names = .ok (place ++ names) := by
  induction names generalizing place with
  | nil => rw [List.append_nil]; rfl
  | cons name rest ih =>
    have hsplit : place ++ name :: rest = (place ++ [name]) ++ rest := by simp
    rw [hsplit] at hget ⊢
    have hnext : d.get? (place ++ [name]) = some .directory := by
      by_cases hrest : rest = []
      · subst hrest
        rwa [List.append_nil] at hget
      · exact h.above hget hrest
    rw [descendNames_directory (h.name hnext) hnext]
    exact ih hget

theorem descendNames_append {jump : Place → List Text → Except Failure Place} {here end' : Place}
    {more : List Text}
    (hjump : ∀ here names, jump here names = .ok there → jump here (names ++ more) = .ok end')
    (hmore : d.descendNames jump there more = .ok end')
    (hway : d.descendNames jump here names = .ok there) :
    d.descendNames jump here (names ++ more) = .ok end' := by
  induction here, names using d.names_induction with
  | nil here =>
    cases hway
    exact hmore
  | dots here rest ih =>
    rw [descendNames_dots] at hway
    rw [List.cons_append, descendNames_dots]
    exact ih hway
  | long here name rest hname hlong =>
    rw [descendNames_long hname hlong] at hway
    cases hway
  | missing here name rest hname hget =>
    rw [descendNames_missing hname hget] at hway
    cases hway
  | file here name rest content hname hget =>
    rw [descendNames_file hname hget] at hway
    cases hway
  | directory here name rest hname hget ih =>
    rw [descendNames_directory hname hget] at hway
    rw [List.cons_append, descendNames_directory hname hget]
    exact ih hway
  | link here name rest target hname hget =>
    rw [descendNames_link hname hget] at hway
    rw [List.cons_append, descendNames_link hname hget, ← List.append_assoc]
    exact hjump _ _ hway

theorem IsTree.descend_down (h : d.IsTree) {links : Nat} {here : Place} {more : List Text}
    (hget : d.get? (there ++ more) = some .directory)
    (hway : d.descend links here names = .ok there) :
    d.descend links here (names ++ more) = .ok (there ++ more) := by
  induction links generalizing here names with
  | zero =>
    exact descendNames_append (fun _ _ hstop => by cases hstop) (h.descendNames_down hget) hway
  | succ links ih => exact descendNames_append (fun _ _ hway => ih hway) (h.descendNames_down hget) hway

/-- The path to names below a directory. -/
def pathTo (dir : Path) (names : List Text) : Path := { dir with parts := dir.parts ++ names }

theorem pathTo_concat (dir : Path) (names : List Text) (name : Text) :
    pathTo dir (names ++ [name]) = (pathTo dir names).child name := by
  simp [pathTo, Path.child]

/-- An entry below a directory is found at its path. -/
theorem IsTree.locate_pathTo (h : d.IsTree) (hdir : d.descendTo dir = .ok there) {name : Text}
    {e : Entry} (hget : d.get? (there ++ (names ++ [name])) = some e) :
    d.locate false (pathTo dir (names ++ [name])) = .ok (.found (there ++ (names ++ [name])) e) := by
  have habove : d.get? (there ++ names) = some .directory := by
    rw [← List.append_assoc] at hget
    have hparent := h.parent hget
    rwa [List.dropLast_concat] at hparent
  have hway : d.descendTo (pathTo dir names) = .ok (there ++ names) := h.descend_down habove hdir
  rw [← List.append_assoc] at hget ⊢
  obtain ⟨hdots, hshort⟩ := h.name hget
  rw [pathTo_concat, locate_child hdots, hway]
  simp only [Except.bind, lookAt, if_neg (Nat.not_lt.2 hshort), hget]

/-! ### Entries below a directory -/

theorem mem_below {place : Place} (h : names ∈ d.below place) :
    names ≠ [] ∧ ∃ e, d.get? (place ++ names) = some e := by
  obtain ⟨x, hx, hsome⟩ := List.mem_filterMap.1 h
  split at hsome
  · next hbelow =>
    simp only [Bool.and_eq_true, decide_eq_true_eq] at hbelow
    obtain ⟨rest, hrest⟩ := List.isPrefixOf_iff_prefix.1 hbelow.1
    have hnames : rest = names := by
      rw [← hrest, List.drop_left] at hsome
      exact Option.some.inj hsome
    subst hnames
    have hne : rest ≠ [] := by
      intro he
      subst he
      rw [List.append_nil] at hrest
      rw [hrest] at hbelow
      omega
    refine ⟨hne, ?_⟩
    rw [hrest, get?, if_neg (by rw [← hrest]; exact List.append_ne_nil_of_right_ne_nil _ hne)]
    cases hlook : d.entries.lookup x.1 with
    | some e => exact ⟨e, rfl⟩
    | none =>
      rw [List.lookup_eq_none_iff] at hlook
      have hself := hlook x hx
      simp at hself
  · cases hsome

theorem below_erase (d : Disk) (q place : Place) :
    (d.erase q).below place = (d.below place).filter fun names => place ++ names ≠ q := by
  unfold below erase
  rw [List.filterMap_filter, List.filter_filterMap]
  apply List.filterMap_congr
  intro x _
  by_cases hbelow : (place.isPrefixOf x.1 && x.1.length > place.length) = true
  · have hplace : place ++ x.1.drop place.length = x.1 := by
      have hprefix := List.isPrefixOf_iff_prefix.1 (Bool.and_eq_true_iff.1 hbelow).1
      obtain ⟨rest, hrest⟩ := hprefix
      rw [← hrest, List.drop_left]
    rw [if_pos hbelow]
    by_cases hq : x.1 = q
    · have hdrop : place ++ List.drop place.length q = q := by rwa [hq] at hplace
      simp [hdrop, hq, Option.filter]
    · simp [hplace, hq, Option.filter]
  · rw [if_neg hbelow]
    split <;> rfl

/-! ### Documentation files -/

/-- The names of documentation files below a place, in order, whatever they lead to. -/
def listed (d : Disk) (place : Place) : List (List Text) :=
  inOrder ((d.below place).filter fun names => endsWith documentationEnd (names.getLast?.getD []))

theorem listed_erase (d : Disk) (q place : Place) :
    (d.erase q).listed place = (d.listed place).filter fun names => place ++ names ≠ q := by
  unfold listed
  rw [below_erase, ← inOrder_filter, List.filter_filter, List.filter_filter]
  congr 1
  apply List.filter_congr
  intro names _
  exact Bool.and_comm _ _

theorem documentation?_eq_some {files : List Path} :
    d.documentation? dir = some files ↔
      ∃ there, d.locate true dir = .ok (.found there .directory) ∧
        files = ((d.listed there).map (pathTo dir)).filter d.isFile := by
  rw [documentation?]
  constructor
  · intro h
    split at h
    · next place hlocate => exact ⟨place, hlocate, (Option.some.inj h).symm⟩
    · cases h
  · intro hfound
    obtain ⟨there, hlocate, rfl⟩ := hfound
    rw [hlocate]
    rfl

/-- A documentation file is a name in a directory, and a path to it. -/
theorem exists_of_mem_documentation {files : List Path} (h : d.documentation? dir = some files)
    {file : Path} (hfile : file ∈ files) :
    d.isFile file = true ∧ ∃ (p : Path) (name : Text), file = p.child name ∧
      endsWith documentationEnd name = true := by
  obtain ⟨there, -, rfl⟩ := documentation?_eq_some.1 h
  obtain ⟨hmem, hisFile⟩ := List.mem_filter.1 hfile
  obtain ⟨names, hnames, rfl⟩ := List.mem_map.1 hmem
  have hlisted := (inOrder_perm _).mem_iff.1 hnames
  obtain ⟨hbelow, hend⟩ := List.mem_filter.1 hlisted
  obtain ⟨init, name, rfl⟩ := (List.eq_nil_or_concat names).resolve_left (mem_below hbelow).1
  rw [List.concat_eq_append] at hend hisFile ⊢
  refine ⟨hisFile, pathTo dir init, name, pathTo_concat dir init name, ?_⟩
  simpa using hend

/-- What is left of the documentation files of a tree when one of them, or a link to one, is taken away. -/
theorem IsTree.documentation?_erase (h : d.IsTree) {p : Path} {name : Text} (hname : name ≠ (".." : Text))
    {e : Entry} (hlast : d.locate false (p.child name) = .ok (.found q e))
    (hfile : d.isFile (p.child name) = true) {files : List Path}
    (hfiles : d.documentation? dir = some files) :
    (d.erase q).documentation? dir = some (files.filter (d.erase q).isFile) := by
  have hq := get?_of_locate_found hlast
  have hnot := get?_ne_directory hname hlast hfile
  have hroot : q ≠ [] := by
    intro he
    subst he
    exact hnot rfl
  have hlacks := lacksAt_erase hq hroot
  obtain ⟨there, hlocate, rfl⟩ := documentation?_eq_some.1 hfiles
  have hlocate' : (d.erase q).locate true dir = .ok (.found there .directory) := by
    obtain hfound | hsame := h.locate_of_lacksAt hlacks hname hlast hfile hlocate (by simp)
    · exact hfound
    · obtain ⟨place, content, hplace⟩ := exists_of_isFile hfile
      rw [hlocate, hplace] at hsame
      cases hsame
  refine documentation?_eq_some.2 ⟨there, hlocate', Eq.symm ?_⟩
  have hdir : d.descendTo dir = .ok there := descend_of_walk hlocate
  have hgone : ∀ names ∈ d.listed there, there ++ names = q →
      (d.erase q).isFile (pathTo dir names) = false := by
    intro names hnames hq'
    obtain ⟨hbelow, -⟩ := List.mem_filter.1 ((inOrder_perm _).mem_iff.1 hnames)
    obtain ⟨init, name, rfl⟩ := (List.eq_nil_or_concat names).resolve_left (mem_below hbelow).1
    have hget : d.get? (there ++ (init ++ [name])) = some e := by rw [← hq, ← hq']; simp
    have hfound := h.locate_pathTo hdir hget
    rw [List.concat_eq_append] at hq' ⊢
    rw [hq'] at hfound
    rw [← List.append_assoc] at hget
    rw [pathTo_concat] at hfound ⊢
    exact hlacks.isFile_eq_false (h.name hget).1 hfound
  have hstill : ∀ file, (d.erase q).isFile file = true → d.isFile file = true := by
    intro file hfile
    obtain ⟨place, content, hplace⟩ := exists_of_isFile hfile
    exact isFile_of_locate (hlacks.locate_found hplace)
  rw [listed_erase, List.filter_map, List.filter_filter, List.filter_filter, List.filter_map]
  congr 1
  apply List.filter_congr
  intro names hnames
  cases hfile : (d.erase q).isFile (pathTo dir names) with
  | false => simp [hfile]
  | true =>
    have hne : there ++ names ≠ q := by
      intro hq'
      rw [hgone names hnames hq'] at hfile
      cases hfile
    simp [hfile, hne, hstill _ hfile]

end Disk
end Componentry.Files
