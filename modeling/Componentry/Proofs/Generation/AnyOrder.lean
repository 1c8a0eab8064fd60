import Componentry.Proofs.Generation.Alone

/-!
The order of work does not matter: whether pages are taken one after the other, in any order, or by
workers who take turns, each page comes to what it comes to alone, and the disk to the same.
-/
namespace Componentry.Generation
open Componentry.Component Componentry.Document Componentry.Files Componentry.Text

variable {l : Layout} {plan : Plan} {pages pages' : List Page} {page : Page} {d d' d'' : Disk} {w : Works}
  {there place : Place} {r : Result} {rs : List Result}

/-! ### When all work has ended -/

/-- Every place is as the work on some page alone leaves it if that changes the place, else as before. -/
structure Merged (l : Layout) (plan : Plan) (pages : List Page) (d d' : Disk) : Prop where
  cwd : d'.cwd = d.cwd
  changed : ∀ page ∈ pages, ∀ place, (generate l plan page d).1.get? place ≠ d.get? place →
    d'.get? place = (generate l plan page d).1.get? place
  unchanged : ∀ place, (∀ page ∈ pages, (generate l plan page d).1.get? place = d.get? place) →
    d'.get? place = d.get? place

theorem Merged.perm (h : Merged l plan pages d d') (hperm : pages.Perm pages') :
    Merged l plan pages' d d' where
  cwd := h.cwd
  changed := fun page hpage => h.changed page (hperm.mem_iff.2 hpage)
  unchanged := fun place hall => h.unchanged place fun page hpage => hall page (hperm.mem_iff.1 hpage)

theorem Merged.same (h : Merged l plan pages d d') (h' : Merged l plan pages d d'') : d'.Same d'' where
  cwd := h'.cwd.trans h.cwd.symm
  get? := by
    intro place
    by_cases hall : ∀ page ∈ pages, (generate l plan page d).1.get? place = d.get? place
    · rw [h.unchanged place hall, h'.unchanged place hall]
    · simp only [not_forall] at hall
      obtain ⟨page, hpage, hchanged⟩ := hall
      rw [h.changed page hpage place hchanged, h'.changed page hpage place hchanged]

theorem Works.Alone.results (h : Works.Alone l plan pages d ⟨d', rs.map .ended⟩) :
    rs = pages.map fun page => (generate l plan page d).2.2 := by
  have heach : List.Forall₂ (fun page r => r = (generate l plan page d).2.2) pages rs := h.toEach.forall₂
  rw [← List.forall₂_eq_eq_eq]
  exact (List.forall₂_map_left_iff.2 heach).flip

/-- What a job that ended tells of the disk that the page alone leaves. -/
theorem Job.IsAlone.ended_cases (h : Job.IsAlone l plan page d (.ended r)) (hdry : plan.dryRun = false) :
    ((Job.ended r).IsFresh ∧ (generate l plan page d).1 = d) ∨
    (¬(Job.ended r).IsFresh ∧ (plan.made d).Same (generate l plan page d).1 ∧
      ∀ there, Job.file? l there (.ended r) = none) ∨
    (¬(Job.ended r).IsFresh ∧ ¬(Job.ended r).IsBare ∧ ∃ there target content,
      (plan.made d).descendTo plan.outputDir = .ok there ∧
      Job.file? l there (.ended r) = some (target, content) ∧
      (plan.made d).get? target ≠ some .directory ∧
      (plan.made d).Gains target content (generate l plan page d).1) := by
  obtain ⟨d', hd', hgenerated⟩ := h.generated hdry
  rw [← hd']
  cases hgenerated with
  | unrendered f hrender => exact .inl ⟨trivial, rfl⟩
  | unwritten code e hrender hsame => exact .inr (.inl ⟨id, hsame, fun _ => rfl⟩)
  | done code there hrender hway hshort hdir hgains =>
    exact .inr (.inr ⟨id, id, there, _, _, hway, by simp [Job.file?, hrender], hdir, hgains⟩)

/-- The same place by place, if the directories are there. -/
theorem Job.IsAlone.get?_of_ended (h : Job.IsAlone l plan page d (.ended r)) (hdry : plan.dryRun = false)
    (houtput : (plan.made d).descendTo plan.outputDir = .ok there) :
    ((Job.ended r).IsFresh ∧ (generate l plan page d).1 = d) ∨
    (¬(Job.ended r).IsFresh ∧ ∀ place,
      (∃ content, Job.file? l there (.ended r) = some (place, content) ∧
        (plan.made d).get? place ≠ some .directory ∧
        (generate l plan page d).1.get? place = some (.file content)) ∨
      ((∀ c, Job.file? l there (.ended r) ≠ some (place, c)) ∧
        (generate l plan page d).1.get? place = (plan.made d).get? place)) := by
  obtain hfresh | ⟨hnot, hsame, hnone⟩ | ⟨hnot, -, there', target, content, hway, hhas, hdir, hgains⟩ :=
    h.ended_cases hdry
  · exact .inl hfresh
  · exact .inr ⟨hnot, fun place => .inr ⟨by simp [hnone], hsame.get? place⟩⟩
  · have hthere : there' = there := Except.ok.inj (hway.symm.trans houtput)
    subst hthere
    refine .inr ⟨hnot, fun place => ?_⟩
    by_cases hplace : place = target
    · subst hplace
      exact .inl ⟨content, hhas, hdir, hgains.file⟩
    · refine .inr ⟨fun c hc => ?_, hgains.others place hplace⟩
      rw [hhas] at hc
      cases hc
      exact hplace rfl

section Ended
variable (h : Works.Alone l plan pages d ⟨d', rs.map .ended⟩) (hdry : plan.dryRun = false)

include h in
theorem Works.Alone.exists_ended (hpage : page ∈ pages) :
    ∃ r ∈ rs, Job.IsAlone l plan page d (.ended r) := by
  obtain ⟨i, hi⟩ := List.mem_iff_getElem?.1 hpage
  have hlength : i < rs.length := by
    have hlength : rs.length = pages.length := by simpa using h.length
    rw [hlength]
    exact (List.getElem?_eq_some_iff.1 hi).1
  obtain ⟨page', hpage', halone⟩ := h.jobs i (.ended rs[i]) (by simp [hlength])
  rw [hi] at hpage'
  cases hpage'
  exact ⟨rs[i], List.getElem_mem hlength, halone⟩

include h in
theorem Works.Alone.exists_page (hr : r ∈ rs) : ∃ page ∈ pages, Job.IsAlone l plan page d (.ended r) := by
  obtain ⟨i, hi⟩ := List.mem_iff_getElem?.1 hr
  obtain ⟨page, hpage, halone⟩ := h.jobs i (.ended r) (by simp [hi])
  exact ⟨page, List.mem_of_getElem? hpage, halone⟩

include h hdry

/-- No module could be written. -/
theorem Works.Alone.merged_bare (hdisk : d' = plan.made d) (hjobs : ∀ r ∈ rs, (Job.ended r).IsBare)
    (hbegun : ∃ r ∈ rs, ¬(Job.ended r).IsFresh) : Merged l plan pages d d' where
  cwd := by
    rw [hdisk]
    exact (d.makeDirs_grows plan.outputDir).cwd
  changed := by
    intro page hpage place hchanged
    obtain ⟨r, hr, halone⟩ := h.exists_ended hpage
    obtain ⟨-, hsame⟩ | ⟨-, hsame, -⟩ | ⟨-, hnot, -⟩ := halone.ended_cases hdry
    · exact absurd (by rw [hsame]) hchanged
    · rw [hdisk, hsame.get? place]
    · exact absurd (hjobs r hr) hnot
  unchanged := by
    intro place hall
    obtain ⟨r, hr, hnot⟩ := hbegun
    obtain ⟨page, hpage, halone⟩ := h.exists_page hr
    obtain ⟨hfresh, -⟩ | ⟨-, hsame, -⟩ | ⟨-, hnot, -⟩ := halone.ended_cases hdry
    · exact absurd hfresh hnot
    · rw [hdisk, ← hsame.get? place, hall page hpage]
    · exact absurd (hjobs r hr) hnot

/-- All modules could be written, but for single ones. -/
theorem Works.Alone.merged_over (houtput : (plan.made d).descendTo plan.outputDir = .ok there)
    (hover : Works.Over l (plan.made d) there ⟨d', rs.map .ended⟩)
    (hbegun : ∃ r ∈ rs, ¬(Job.ended r).IsFresh) : Merged l plan pages d d' := by
  have hgrows : d.Grows (plan.made d) := d.makeDirs_grows plan.outputDir
  have hothers : ∀ place, (∀ r ∈ rs, ∀ c, Job.file? l there (.ended r) ≠ some (place, c)) →
      d'.get? place = (plan.made d).get? place := by
    intro place hfree
    refine hover.others place fun j hj => ?_
    obtain ⟨r, hr, rfl⟩ := List.mem_map.1 hj
    exact hfree r hr
  refine ⟨hover.cwd.trans hgrows.cwd, fun page hpage place hchanged => ?_, fun place hall => ?_⟩
  · obtain ⟨r, hr, halone⟩ := h.exists_ended hpage
    obtain ⟨-, hsame⟩ | ⟨-, hplaces⟩ := halone.get?_of_ended hdry houtput
    · exact absurd (by rw [hsame]) hchanged
    · obtain ⟨content, hhas, -, hget⟩ | ⟨-, hget⟩ := hplaces place
      · rw [hget]
        exact hover.file _ (List.mem_map_of_mem hr) place content hhas
      · -- a new directory, so no module is here
        rw [hget]
        refine hothers place fun r' hr' c hhas => ?_
        obtain ⟨page', -, halone'⟩ := h.exists_page hr'
        obtain ⟨hfresh, -⟩ | ⟨-, hplaces'⟩ := halone'.get?_of_ended hdry houtput
        · rw [hfresh.isBare.file?] at hhas
          cases hhas
        · obtain ⟨-, -, hdir, -⟩ | ⟨hfree, -⟩ := hplaces' place
          · obtain hold | ⟨-, hnew⟩ := hgrows.get? place
            · exact hchanged (hget.trans hold)
            · exact hdir hnew
          · exact hfree c hhas
  · by_cases hhas : ∃ r ∈ rs, ∃ content, Job.file? l there (.ended r) = some (place, content)
    · obtain ⟨r, hr, content, hhas⟩ := hhas
      obtain ⟨page, hpage, halone⟩ := h.exists_page hr
      rw [← hall page hpage, hover.file _ (List.mem_map_of_mem hr) place content hhas]
      obtain ⟨hfresh, -⟩ | ⟨-, hplaces⟩ := halone.get?_of_ended hdry houtput
      · rw [hfresh.isBare.file?] at hhas
        cases hhas
      · obtain ⟨content', hhas', -, hget⟩ | ⟨hfree, -⟩ := hplaces place
        · rw [hhas] at hhas'
          cases hhas'
          exact hget.symm
        · exact absurd hhas (hfree content)
    · have hfree : ∀ r ∈ rs, ∀ c, Job.file? l there (.ended r) ≠ some (place, c) :=
        fun r hr c hc => hhas ⟨r, hr, c, hc⟩
      obtain ⟨r, hr, hnot⟩ := hbegun
      obtain ⟨page, hpage, halone⟩ := h.exists_page hr
      obtain ⟨hfresh, -⟩ | ⟨-, hplaces⟩ := halone.get?_of_ended hdry houtput
      · exact absurd hfresh hnot
      · obtain ⟨content, hhas', -⟩ | ⟨-, hget⟩ := hplaces place
        · exact absurd hhas' (hfree r hr content)
        · rw [hothers place hfree, ← hget, hall page hpage]

theorem Works.Alone.merged : Merged l plan pages d d' := by
  have hjobs : ∀ {P : Job → Prop}, (∀ j ∈ rs.map Job.ended, P j) → ∀ r ∈ rs, P (.ended r) :=
    fun hall r hr => hall _ (List.mem_map_of_mem hr)
  have hbegan : (∃ j ∈ rs.map Job.ended, ¬j.IsFresh) → ∃ r ∈ rs, ¬(Job.ended r).IsFresh := by
    rintro ⟨j, hj, hnot⟩
    obtain ⟨r, hr, rfl⟩ := List.mem_map.1 hj
    exact ⟨r, hr, hnot⟩
  obtain ⟨hdisk, hfresh⟩ | ⟨hdisk, hbare, hbegun⟩ |
    ⟨there, t, hmade, houtput, habsolute, hover, hbegun⟩ := h.phase
  · dsimp only at hdisk
    subst hdisk
    refine ⟨rfl, fun page hpage place hchanged => ?_, fun _ _ => rfl⟩
    obtain ⟨r, hr, halone⟩ := h.exists_ended hpage
    obtain ⟨-, hsame⟩ | ⟨hnot, -⟩ | ⟨hnot, -⟩ := halone.ended_cases hdry
    · exact absurd (by rw [hsame]) hchanged
    · exact absurd (hjobs hfresh r hr) hnot
    · exact absurd (hjobs hfresh r hr) hnot
  · exact h.merged_bare hdry hdisk (hjobs hbare) (hbegan hbegun)
  · exact h.merged_over hdry houtput hover (hbegan hbegun)

end Ended

/-! ### Orders -/

theorem nodup_moduleFile (hnames : (pages.map fun page => (Spec.ofPage plan.base page).fileName).Nodup) :
    (pages.map fun page => moduleFile (Spec.ofPage plan.base page)).Nodup := by
  have hmap : (pages.map fun page => moduleFile (Spec.ofPage plan.base page)) =
      (pages.map fun page => (Spec.ofPage plan.base page).fileName).map (· ++ (".ex" : Text)) := by
    rw [List.map_map]
    rfl
  rw [hmap]
  exact hnames.map fun _ _ he => List.append_cancel_right he

/-- Whatever turns are taken, if all work ends. -/
theorem merged_of_run (hdry : plan.dryRun = false)
    (hnames : (pages.map fun page => (Spec.ofPage plan.base page).fileName).Nodup)
    (hsteady : plan.IsSteady l pages d) {turns : List Nat}
    (hrun : Works.run l plan ⟨d, pages.map .waiting⟩ turns = ⟨d', rs.map .ended⟩) :
    (rs = pages.map fun page => (generate l plan page d).2.2) ∧ Merged l plan pages d d' := by
  have hended := (Works.Alone.start l plan pages d).run hdry (nodup_moduleFile hnames) hsteady turns
  rw [hrun] at hended
  exact ⟨hended.results, hended.merged hdry⟩

theorem merged_generateAll (hdry : plan.dryRun = false)
    (hnames : (pages.map fun page => (Spec.ofPage plan.base page).fileName).Nodup)
    (hsteady : plan.IsSteady l pages d) :
    ((generateAll l plan pages d).2.2 = pages.map fun page => (generate l plan page d).2.2) ∧
      Merged l plan pages d (generateAll l plan pages d).1 :=
  merged_of_run hdry hnames hsteady (run_inTurn l plan pages d [])

/-- Once a directory could be made, making it again changes nothing. -/
theorem again_of_made (h : (d.makeDirs plan.outputDir).2 = none) :
    (plan.made d).makeDirs plan.outputDir = d.makeDirs plan.outputDir := by
  rw [Plan.made, Disk.makeDirs_of_isDirectory (Disk.isDirectory_of_makeDirs h), ← h]

theorem Plan.IsSteady.perm (h : plan.IsSteady l pages d) (hperm : pages.Perm pages') :
    plan.IsSteady l pages' d :=
  ⟨h.again, fun page hpage => h.reached page (hperm.mem_iff.2 hpage)⟩

/-! ### The main statements -/

/-- Whatever order pages are taken in, and whatever turns workers take, each page comes to what it comes
to alone, and the files are the same as after taking the pages in the order given. So a run by workers
returns what a run without workers returns. -/
theorem generateAll_any_order (l : Layout) (plan : Plan) (pages : List Page) (d : Disk)
    (hdry : plan.dryRun = false)
    (hnames : (pages.map fun page => (Spec.ofPage plan.base page).fileName).Nodup)
    (hsteady : plan.IsSteady l pages d) :
    let inOrder := generateAll l plan pages d
    (∀ pages', pages.Perm pages' →
      ((generateAll l plan pages' d).2.2 = pages'.map fun page => (generate l plan page d).2.2) ∧
      inOrder.1.Same (generateAll l plan pages' d).1) ∧
    (∀ turns d' rs, Works.run l plan ⟨d, pages.map .waiting⟩ turns = ⟨d', rs.map .ended⟩ →
      rs = inOrder.2.2 ∧ inOrder.1.Same d') ∧
    ∀ templates docs names order d' s,
      (∀ files loaded, d.documentation? docs = some files → (load d names files).2 = .ok loaded →
        loaded.pages = pages) →
      (pages ≠ [] → layout d templates = .ok l) → RunsTo templates docs names plan order d d' s →
      ∃ d'' told, run templates docs names plan d = (d'', told, .ok s) ∧ d''.Same d' := by
  intro inOrder
  have hinOrder := merged_generateAll hdry hnames hsteady
  refine ⟨fun pages' hperm => ?_, fun turns d' rs hrun => ?_, ?_⟩
  · have hnames' : (pages'.map fun page => (Spec.ofPage plan.base page).fileName).Nodup :=
      (hperm.map _).nodup_iff.1 hnames
    obtain ⟨hresults, hmerged⟩ := merged_generateAll hdry hnames' (hsteady.perm hperm)
    exact ⟨hresults, hinOrder.2.same (hmerged.perm hperm.symm)⟩
  · obtain ⟨hresults, hmerged⟩ := merged_of_run hdry hnames hsteady hrun
    exact ⟨hresults.trans hinOrder.1.symm, hinOrder.2.same hmerged⟩
  · intro templates docs names order d' s hpages hlayout hruns
    obtain @⟨files, loaded, l', _, rs, hfound, hloads, htemplate, hworks⟩ := hruns
    obtain rfl := hpages files loaded hfound hloads
    have hsteady' : plan.IsSteady l' loaded.pages d := by
      by_cases hnil : loaded.pages = []
      · exact ⟨hsteady.again, by simp [hnil]⟩
      · have hsame : l' = l := Except.ok.inj ((htemplate hnil).symm.trans (hlayout hnil))
        rw [hsame]
        exact hsteady
    obtain ⟨hresults, hmerged⟩ := merged_of_run hdry hnames hsteady' hworks
    obtain ⟨hresults', hmerged'⟩ := merged_generateAll hdry hnames hsteady'
    obtain ⟨told, hrun⟩ := run_iff.2 (.intro hfound hloads htemplate (run_inTurn l' plan loaded.pages d []))
    refine ⟨_, told, ?_, hmerged'.same hmerged⟩
    rw [hrun, hresults', ← hresults]

def onePage : Page := ⟨"docs/a/x.md", [⟨"One", [.element "p" [] [.text "One"]]⟩]⟩

def twoPage : Page := ⟨"docs/b/x.md", [⟨"Two", [.element "p" [] [.text "Two"]]⟩]⟩

theorem generateAll_any_order_linkedOutput :
    let l : Layout := .ok Elixir.standardTemplate
    let plan : Plan := ⟨Path.ofText "out", "B", false⟩
    plan.IsSteady l [onePage, twoPage] linkedOutput ∧
      (generateAll l plan [onePage, twoPage] linkedOutput).1.Same
        (generateAll l plan [twoPage, onePage] linkedOutput).1 := by
  intro l plan
  have hsteady : plan.IsSteady l [onePage, twoPage] linkedOutput :=
    ⟨again_of_made (by decide), by decide⟩
  have horder := generateAll_any_order l plan [onePage, twoPage] linkedOutput rfl (by decide) hsteady
  exact ⟨hsteady, (horder.1 [twoPage, onePage] (.swap twoPage onePage [])).2⟩

/-- Why a module could not be written. -/
def Result.unwritten? : Result → Option Failure
  | .failed _ (.unwritten _ e) => some e.failure
  | _ => none

/-- A file, and nothing else. -/
def lonelyFile : Disk where
  entries := [(["f"], .file [])]
  cwd := []
  home := "/"

/-- A module that takes the place of a link cuts off the one that is written after it. And a directory
that was made before dots makes the next attempt fail for another reason. -/
theorem order_matters :
    let failures := fun (out : Text) (pages : List Page) (d : Disk) =>
      (generateAll (.ok Elixir.standardTemplate) ⟨Path.ofText out, "B", false⟩ pages d).2.2.map
        Result.unwritten?
    ([onePage, twoPage].map fun page => (Spec.ofPage "B" page).fileName).Nodup ∧
    (failures "b.ex/.." [onePage, twoPage] linkedOutput = [none, none] ∧
      failures "b.ex/.." [twoPage, onePage] linkedOutput = [none, some .notDirectory]) ∧
    failures "n/../f/o" [onePage, twoPage] lonelyFile = [some .exists, some .notDirectory] ∧
    failures "n/../f/o" [twoPage, onePage] lonelyFile = [some .exists, some .notDirectory] := by
  refine ⟨?_, ⟨?_, ?_⟩, ?_, ?_⟩
  all_goals decide +kernel

end Componentry.Generation
