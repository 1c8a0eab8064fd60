import Componentry.Proofs.Generation.Ending
import Componentry.Proofs.Generation.LongNumber
import Componentry.Proofs.Generation.SideBySide

/-!
A documentation file that cannot be read or parsed costs only its own component: the run ends with a
summary, and all other results are as they would be without the file.
-/
namespace Componentry.Generation
open Componentry.Component Componentry.Document Componentry.Files Componentry.Text

/-! ### Taking a file away -/

section Erase
variable {d : Disk} {docs p : Path} {names : List Text} {name : Text} {q : Place} {e : Entry}

theorem selected_erase (htree : d.IsTree) (hname : name ≠ (".." : Text))
    (hlast : d.locate false (p.child name) = .ok (.found q e)) (hfile : d.isFile (p.child name) = true)
    {files : List Path} (hfound : d.documentation? docs = some files) :
    selected (d.erase q) docs names = (selected d docs names).filter (d.erase q).isFile := by
  rw [selected, selected, htree.documentation?_erase hname hlast hfile hfound, hfound, Option.getD_some,
    Option.getD_some, List.filter_filter, List.filter_filter]
  apply List.filter_congr
  intro file _
  exact Bool.and_comm _ _

theorem lacksAt_of_last (hname : name ≠ (".." : Text))
    (hlast : d.locate false (p.child name) = .ok (.found q e)) : Disk.LacksAt q d (d.erase q) := by
  obtain ⟨there, -, -, rfl, hget⟩ := Disk.locate_child_found hname hlast
  exact Disk.lacksAt_erase hget (by simp)

/-- A file that is still there is read as before. -/
theorem examine_erase (h : Disk.LacksAt q d (d.erase q)) {file : Path}
    (hfile : (d.erase q).isFile file = true) : examine (d.erase q) file = examine d file := by
  obtain ⟨place, content, hplace⟩ := Disk.exists_of_isFile hfile
  exact examine_congr h.cwd (h.locate_found hplace) hplace

/-- A file that is gone as well was the same file by another name. -/
theorem locate_eq_of_gone (htree : d.IsTree) (hname : name ≠ (".." : Text))
    (hlast : d.locate false (p.child name) = .ok (.found q e)) (hfile : d.isFile (p.child name) = true)
    {file : Path} (hthere : d.isFile file = true) (hgone : (d.erase q).isFile file = false) :
    d.locate true file = d.locate true (p.child name) := by
  obtain ⟨place, content, hplace⟩ := Disk.exists_of_isFile hthere
  obtain hstill | hsame :=
      htree.locate_of_lacksAt (lacksAt_of_last hname hlast) hname hlast hfile hplace (by simp)
  · rw [Disk.isFile_of_locate hstill] at hgone
    cases hgone
  · exact hsame

/-- The pages are the same without a file that fails. -/
theorem pages_erase (htree : d.IsTree) (hname : name ≠ (".." : Text))
    (hlast : d.locate false (p.child name) = .ok (.found q e)) (hfile : d.isFile (p.child name) = true)
    {r : Result} (hfailure : failure? d (p.child name) = some r) {files : List Path}
    (hfiles : ∀ file ∈ files, d.isFile file = true) :
    (files.filter (d.erase q).isFile).filterMap (page? (d.erase q)) = files.filterMap (page? d) := by
  rw [List.filterMap_filter]
  apply List.filterMap_congr
  intro file hmem
  cases hstill : (d.erase q).isFile file with
  | true =>
    rw [if_pos rfl, page?, page?, examine_erase (lacksAt_of_last hname hlast) hstill]
  | false =>
    have hsame := locate_eq_of_gone htree hname hlast hfile (hfiles file hmem) hstill
    rw [if_neg Bool.false_ne_true, page?_eq_none_of_failure? hfile hsame hfailure]

end Erase

/-! ### The results of a run -/

section Results
variable {d d' : Disk} {docs : Path} {names : List Text} {plan : Plan} {order : List Page → List Nat}

/-- A run without a file that fails, if writing does not lead over that file. -/
theorem RunsTo.erase {s : Summary} (htree : d.IsTree) (hdocs : d.isDirectory docs = true)
    (hshort : ∀ file ∈ selected d docs names, ¬HasLongNumber d file)
    (h : RunsTo none docs names plan order d d' s) {p : Path} {name : Text} (hname : name ≠ (".." : Text))
    (hend : endsWith documentationEnd name = true) (hfile : d.isFile (p.child name) = true) {r : Result}
    (hfailure : failure? d (p.child name) = some r) {q : Place} {e : Entry}
    (hlast : d.locate false (p.child name) = .ok (.found q e))
    (hplan : plan.dryRun = true ∨ plan.Avoids d q) {generated : List Result}
    (hresults : s.results = (selected d docs names).filterMap (failure? d) ++ generated) :
    ∃ after s', RunsTo none docs names plan order (d.erase q) after s' ∧
      s'.results = (selected (d.erase q) docs names).filterMap (failure? d) ++ generated := by
  obtain ⟨l, generated', hresults', htemplate, hworks⟩ := h.results_eq
  rw [hresults', List.append_cancel_left_eq] at hresults
  subst hresults
  obtain ⟨files, hfound⟩ := documentation?_of_isDirectory hdocs
  have hselected := @selected_erase _ _ _ names _ _ _ htree hname hlast hfile _ hfound
  have hlacks := lacksAt_of_last hname hlast
  have hfiles : ∀ file ∈ selected d docs names, d.isFile file = true :=
    fun file hmem => (exists_of_mem_selected hmem).1
  have hpages := pages_erase htree hname hlast hfile hfailure hfiles
  rw [← hselected] at hpages
  have hsame : ∀ file ∈ selected (d.erase q) docs names, examine (d.erase q) file = examine d file :=
    fun file hmem => examine_erase hlacks (exists_of_mem_selected hmem).1
  have hshort' : ∀ file ∈ selected (d.erase q) docs names, ¬HasLongNumber (d.erase q) file := by
    intro file hmem hlong
    have hmem' : file ∈ selected d docs names := by
      rw [hselected] at hmem
      exact (List.mem_filter.1 hmem).1
    obtain ⟨c, hc⟩ := (examine_error_iff (exists_of_mem_selected hmem).1).2 hlong
    rw [hsame file hmem] at hc
    exact hshort file hmem' ((examine_error_iff (hfiles file hmem')).1 ⟨c, hc⟩)
  have hfailures : (selected (d.erase q) docs names).filterMap (failure? (d.erase q)) =
      (selected (d.erase q) docs names).filterMap (failure? d) := by
    apply List.filterMap_congr
    intro file hmem
    rw [failure?, failure?, hsame file hmem]
  have hfound' := htree.documentation?_erase hname hlast hfile hfound
  have hloads := load_selected hfound' hshort'
  rw [hpages, hfailures] at hloads
  obtain ⟨-, -, -, -, hget⟩ := Disk.locate_child_found hname hlast
  obtain ⟨after, hworks'⟩ := run_eq_of_erase hget (isDocumentationPlace_of_locate hname hend hlast) hplan
    hworks
  exact ⟨after, _, .intro hfound' hloads htemplate hworks', rfl⟩

end Results

/-! ### Two small trees -/

def plainPage : Entry := .file (encode ("### ~Plain\n```html\n<p>Text</p>\n```\n" : Text))

/-- A page whose bytes are no text, and one that can be read. -/
def broken : Disk where
  entries := [(["docs"], .directory), (["docs", "a"], .directory), (["docs", "b"], .directory),
    (["docs", "a", "x.md"], .file [0xFF]), (["docs", "b", "x.md"], plainPage)]
  cwd := []
  home := "/"

end Componentry.Generation
