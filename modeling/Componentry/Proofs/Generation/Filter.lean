import Componentry.Proofs.Files.Rewritten
import Componentry.Proofs.Generation.Independence

/-!
A run for some components only. It gives those results of the run for all components that belong to their
files, writes their modules only, and does not read any other documentation file.
-/
namespace Componentry.Generation
open Componentry.Component Componentry.Document Componentry.Files Componentry.Text

variable {l : Layout} {plan : Plan} {pages : List Page} {page : Page} {d d' : Disk} {q : Place}
  {templates : Option Path} {docs file : Path} {names : List Text} {files : List Path}

/-! ### What is read -/

section Read
variable (h : d.Rewritten q d')

include h

/-- Only the file itself is read differently. -/
theorem examine_of_rewritten (hfile : d.isFile file = true) (hother : ∀ e, d.locate true file ≠ .ok (.found q e)) :
    examine d' file = examine d file := by
  obtain ⟨place, content, hplace⟩ := Disk.exists_of_isFile hfile
  exact examine_congr h.cwd hplace ((h.locate_eq hother).trans hplace)

theorem layout_of_rewritten
    (hother : ∀ dir ∈ templates, ∀ e, d.locate true (dir.child templateFile) ≠ .ok (.found q e)) :
    layout d' templates = layout d templates := by
  cases templates with
  | none => rfl
  | some dir =>
    have hlocate := h.locate_eq (hother dir rfl)
    have hread : d'.readText (dir.child templateFile) = d.readText (dir.child templateFile) := by
      simp only [Disk.readText, Disk.readBytes, hlocate]
    simp only [layout, Option.map_some, h.isFile_eq, hread]

theorem generate_of_rewritten (l : Layout) (plan : Plan) (page : Page) :
    (generate l plan page d).1.Rewritten q (generate l plan page d').1 ∧
      (generate l plan page d').2 = (generate l plan page d).2 := by
  cases hrender : renderWith l (Spec.ofPage plan.base page) with
  | error f =>
    simp only [generate, hrender]
    exact ⟨h, trivial⟩
  | ok code =>
    simp only [generate, hrender, write, modulePath_ofPage]
    cases plan.dryRun with
    | true => exact ⟨h, rfl⟩
    | false =>
      obtain ⟨hwritten, hsame⟩ := h.writeWhole_alike plan.outputDir
        (moduleFile_ne_dots (Spec.ofPage plan.base page)) (encode code)
      revert hwritten hsame
      generalize d.writeWhole _ _ = x
      generalize d'.writeWhole _ _ = x'
      obtain ⟨d₁, e?⟩ := x
      obtain ⟨d₁', e?'⟩ := x'
      intro hwritten hsame
      dsimp only at hsame
      subst hsame
      cases e?' with
      | none => exact ⟨hwritten, rfl⟩
      | some e => exact ⟨hwritten, rfl⟩

end Read

theorem generateAll_of_rewritten (h : d.Rewritten q d') (l : Layout) (plan : Plan) (pages : List Page) :
    (generateAll l plan pages d).1.Rewritten q (generateAll l plan pages d').1 ∧
      (generateAll l plan pages d').2 = (generateAll l plan pages d).2 := by
  induction pages generalizing d d' with
  | nil => exact ⟨h, rfl⟩
  | cons page rest ih =>
    obtain ⟨hpage, hsame⟩ := generate_of_rewritten h l plan page
    obtain ⟨hrest, hsame'⟩ := ih hpage
    refine ⟨hrest, ?_⟩
    simp only [generateAll, hsame, hsame']

theorem loadAll_congr (hsame : ∀ file ∈ files, examine d' file = examine d file) :
    loadAll d' files = loadAll d files := by
  induction files with
  | nil => rfl
  | cons file rest ih =>
    have hrest := ih fun other hother => hsame other (List.mem_cons_of_mem file hother)
    rw [loadAll, loadAll, hsame file List.mem_cons_self, hrest]

/-- A run comes to the same, and tells the same, whatever is in a file that it does not read. -/
theorem run_of_rewritten (plan : Plan) (h : d.Rewritten q d')
    (hplaces : d'.entries.map Prod.fst = d.entries.map Prod.fst)
    (hfiles : ∀ file ∈ selected d docs names, ∀ e, d.locate true file ≠ .ok (.found q e))
    (htemplate : ∀ dir ∈ templates, ∀ e, d.locate true (dir.child templateFile) ≠ .ok (.found q e)) :
    (run templates docs names plan d).1.Rewritten q (run templates docs names plan d').1 ∧
      (run templates docs names plan d').2 = (run templates docs names plan d).2 := by
  have hfound := h.documentation?_eq hplaces docs
  rw [run, run, discover, discover, hfound]
  cases hdocs : d.documentation? docs with
  | none => exact ⟨h, rfl⟩
  | some files =>
    have hload : load d' names files = load d names files := by
      rw [selected_eq hdocs] at hfiles
      refine loadAll_congr fun file hfile => examine_of_rewritten h ?_ (hfiles file hfile)
      exact (exists_of_mem_selected (selected_eq hdocs ▸ hfile)).1
    have hlayout := layout_of_rewritten h htemplate
    dsimp only
    rw [hload]
    obtain ⟨told, c | ⟨pages, failures⟩⟩ := load d names files
    · exact ⟨h, rfl⟩
    · dsimp only
      cases pages with
      | nil => exact ⟨h, rfl⟩
      | cons page rest =>
        simp only [generatePages, hlayout]
        cases layout d templates with
        | error c => exact ⟨h, rfl⟩
        | ok l =>
          obtain ⟨hdisks, hsame⟩ := generateAll_of_rewritten h l plan (page :: rest)
          have htold := congrArg Prod.fst hsame
          have hresults := congrArg Prod.snd hsame
          dsimp only
          rw [htold, hresults]
          exact ⟨hdisks, rfl⟩

/-! ### What is selected -/

theorem selected_eq_filter (hnames : names ≠ []) (d : Disk) (docs : Path) :
    selected d docs names =
      (selected d docs []).filter fun file => keyOfPath file.toText ∈ names.map lower := by
  rw [selected, selected, List.filter_filter]
  apply List.filter_congr
  intro file _
  simp [isSelected, hnames]

theorem owned_filter (templates : Option Path) (plan : Plan) (d : Disk) (files : List Path) (p : Path → Bool) :
    owned templates plan d (files.filter p) = (owned templates plan d files).filter fun x => p x.1 := by
  have hpart : ∀ r? : Path → Option Result,
      ((files.filter p).filterMap fun file => (r? file).map (file, ·)) =
        (files.filterMap fun file => (r? file).map (file, ·)).filter fun x => p x.1 := by
    intro r?
    rw [List.filterMap_filter, List.filter_filterMap]
    apply List.filterMap_congr
    intro file _
    by_cases hp : p file = true
    · cases r? file <;> simp [hp, Option.filter]
    · cases r? file <;> simp [hp, Option.filter]
  rw [owned, owned, List.filter_append, hpart, hpart]

/-- If a run for all components ends with a summary, so does one for some. -/
theorem exists_runsTo_of_unfiltered (names : List Text) {order order' : List Page → List Nat} {d₁ : Disk}
    {s : Summary} (hfair : IsFair order') (h : RunsTo templates docs [] plan order d d₁ s) :
    ∃ d₂ s', RunsTo templates docs names plan order' d d₂ s' := by
  obtain @⟨files, loaded, l, _, rs, hfound, hloads, hlayout, -⟩ := h
  have hall : files.filter (isSelected []) = files := List.filter_eq_self.2 fun _ _ => rfl
  rw [load, hall] at hloads
  obtain ⟨hok, rfl⟩ := loadAll_eq_ok_iff.1 hloads
  have hloads' : (load d names files).2 = .ok ⟨_, _⟩ :=
    loadAll_eq_ok_iff.2 ⟨fun file hfile => hok file (List.mem_filter.1 hfile).1, rfl⟩
  refine exists_runsTo hfair hfound hloads' fun hpages => hlayout fun hnil => hpages ?_
  rw [List.filterMap_eq_nil_iff] at hnil ⊢
  exact fun file hfile => hnil file (List.mem_filter.1 hfile).1

/-! ### The main statements -/

/-- A run for some components ends with a summary if the run for all does, and its results are those of
the run for all that belong to files of these components, in the same order. It writes modules for these
files only, and what is in any other documentation file makes no difference. As for all runs, the output
directory must not be one that a module cuts off or that comes out different when it is made again. -/
theorem filtered_run_projects (templates : Option Path) (docs : Path) (names : List Text) (plan : Plan)
    (d : Disk) (hnames : names ≠ []) (hsafe : ∀ l, layout d templates = .ok l →
      plan.IsSafe l ((selected d docs []).filterMap (page? d)) d) :
    let every := owned templates plan d (selected d docs [])
    let chosen := every.filter fun x => keyOfPath x.1.toText ∈ names.map lower
    (∀ x ∈ every, x.1 ∈ selected d docs [] ∧ outcome? templates plan d x.1 = some x.2) ∧
    (∀ d₁ told s, run templates docs [] plan d = (d₁, told, .ok s) →
      s.results = every.map Prod.snd ∧
      ∃ d₂ told' s', run templates docs names plan d = (d₂, told', .ok s') ∧
        s'.results = chosen.map Prod.snd ∧ (plan.dryRun = true → d₂ = d) ∧
        plan.WritesOnly ((selected d docs names).filterMap (page? d)) d d₂ ∧
        ∀ q old content, d.get? q = some (.file old) →
          (∀ file ∈ selected d docs names, ∀ e, d.locate true file ≠ .ok (.found q e)) →
          (∀ dir ∈ templates, ∀ e, d.locate true (dir.child templateFile) ≠ .ok (.found q e)) →
          ∃ d₂', run templates docs names plan (d.rewrite q content) = (d₂', told', .ok s') ∧
            d₂.Rewritten q d₂') ∧
    (plan.HasRoom ((selected d docs []).filterMap (page? d)) d →
      ∀ order order' d₁ s, IsFair order' → RunsTo templates docs [] plan order d d₁ s →
        List.Forall₂ (Result.Like (d.absolute plan.outputDir)) (every.map Prod.snd) s.results ∧
        (∃ d₂ s', RunsTo templates docs names plan order' d d₂ s') ∧
        ∀ d₂ s', RunsTo templates docs names plan order' d d₂ s' →
          List.Forall₂ (Result.Like (d.absolute plan.outputDir)) (chosen.map Prod.snd) s'.results ∧
          (plan.dryRun = true → d₂ = d) ∧
          plan.WritesOnly ((selected d docs names).filterMap (page? d)) d d₂) := by
  intro every chosen
  have hselected := selected_eq_filter hnames d docs
  have hchosen : owned templates plan d (selected d docs names) = chosen := by
    rw [hselected]
    exact owned_filter templates plan d (selected d docs []) _
  have hsub : ((selected d docs names).filterMap (page? d)).Sublist
      ((selected d docs []).filterMap (page? d)) := by
    rw [hselected]
    exact List.filter_sublist.filterMap _
  have hsafe' : ∀ l, layout d templates = .ok l →
      plan.IsSafe l ((selected d docs names).filterMap (page? d)) d :=
    fun l hlayout => (hsafe l hlayout).sublist hsub
  refine ⟨fun x hx => outcome?_of_mem_owned hx, fun d₁ told s hrun => ?_, ?_⟩
  · obtain ⟨d₂, s', hruns'⟩ := exists_runsTo_of_unfiltered names isFair_inTurn
      (run_iff.1 ⟨told, hrun⟩)
    obtain ⟨told', hrun'⟩ := run_iff.2 hruns'
    obtain ⟨hresults', hdry', hwrites'⟩ := run_results_eq hsafe' hrun'
    rw [hchosen] at hresults'
    refine ⟨(run_results_eq hsafe hrun).1, d₂, told', s', hrun', hresults', hdry', hwrites', ?_⟩
    intro q old content hold hfiles htemplate
    obtain ⟨hdisks, hsame⟩ := run_of_rewritten plan
      (Disk.rewritten_rewrite hold content) (Disk.places_rewrite d q content) hfiles htemplate
    rw [hrun'] at hdisks hsame
    exact ⟨_, Prod.ext rfl hsame, hdisks⟩
  · intro hroom order order' d₁ s hfair hruns
    refine ⟨(runsTo_results_like hsafe hroom hruns).1, exists_runsTo_of_unfiltered names hfair hruns, ?_⟩
    intro d₂ s' hruns'
    obtain ⟨hlike, hrest⟩ := runsTo_results_like hsafe' (hroom.sublist hsub) hruns'
    rw [hchosen] at hlike
    exact ⟨hlike, hrest⟩

theorem filtered_run_projects_sharing :
    let plan : Plan := ⟨Path.ofText "out", "B", false⟩
    let other : Place := ["docs", "a_b", "x.md"]
    ∃ d₁ told s d₂ told' s', run none (Path.ofText "docs") [] plan sharing = (d₁, told, .ok s) ∧
      run none (Path.ofText "docs") ["A-B"] plan sharing = (d₂, told', .ok s') ∧
      s.results.length = 2 ∧ s'.results.length = 1 ∧ s'.results.Sublist s.results ∧
      ∀ content, ∃ d₂', run none (Path.ofText "docs") ["A-B"] plan (sharing.rewrite other content) =
        (d₂', told', .ok s') := by
  intro plan other
  obtain ⟨⟨d₁, told, s, hrun, -, hcomponents, -⟩, d₂, told', s', hrun', hlength'⟩ := run_sharing
  have hlength : s.results.length = 2 := by simpa using congrArg List.length hcomponents
  obtain ⟨-, hone, -⟩ := filtered_run_projects none (Path.ofText "docs") ["A-B"] plan sharing
    (by decide) isSafe_sharing
  obtain ⟨hresults, _, _, _, hagain, hresults', -, -, hunread⟩ := hone d₁ told s hrun
  cases hrun'.symm.trans hagain
  have helsewhere : ∀ file ∈ selected sharing (Path.ofText "docs") ["A-B"], ∀ e,
      sharing.locate true file ≠ .ok (.found other e) := by
    have hselected : selected sharing (Path.ofText "docs") ["A-B"] = [Path.ofText "docs/a-b/x.md"] := by
      decide
    obtain ⟨content, hplace⟩ : ∃ content, sharing.locate true (Path.ofText "docs/a-b/x.md") =
        .ok (.found ["docs", "a-b", "x.md"] (.file content)) :=
      ⟨_, by rfl⟩
    rw [hselected]
    rintro file hfile e he
    rw [List.mem_singleton.1 hfile, hplace] at he
    have hsame := (Disk.Spot.found.inj (Except.ok.inj he)).1
    exact absurd hsame (by decide)
  refine ⟨d₁, told, s, d₂, told', s', hrun, hrun', hlength, hlength', ?_, fun content => ?_⟩
  · rw [hresults', hresults]
    exact List.filter_sublist.map _
  · obtain ⟨d₂', hrun'', -⟩ := hunread other _ content (by rfl) helsewhere nofun
    exact ⟨d₂', hrun''⟩

/-- What a run comes to can depend on a module that it would not write for some components only. Such a
module takes the place of a link, or directories are made for it, and another page fails for that. -/
theorem filtered_run_differs :
    let shown (s : Summary) : List (Text × Option Failure) :=
      s.results.map fun r => (r.component, r.unwritten?)
    let differs (out : Text) : Prop :=
      let plan : Plan := ⟨Path.ofText out, "B", false⟩
      ∃ d₁ told s d₂ told' s', run none (Path.ofText "docs") [] plan linkedFirst = (d₁, told, .ok s) ∧
        run none (Path.ofText "docs") ["b"] plan linkedFirst = (d₂, told', .ok s') ∧
        ¬(shown s').Sublist (shown s)
    differs "a.ex/.." ∧ differs "n/../f/o" := by
  intro shown differs
  have hdiffers : ∀ (out : Text) (every chosen : List (Text × Option Failure)), ¬chosen.Sublist every →
      (∃ d told s, run none (Path.ofText "docs") [] ⟨Path.ofText out, "B", false⟩ linkedFirst =
        (d, told, .ok s) ∧ shown s = every) →
      (∃ d told s, run none (Path.ofText "docs") ["b"] ⟨Path.ofText out, "B", false⟩ linkedFirst =
        (d, told, .ok s) ∧ shown s = chosen) → differs out := by
    rintro out every chosen hnot ⟨d₁, told, s, hrun, rfl⟩ ⟨d₂, told', s', hrun', rfl⟩
    exact ⟨d₁, told, s, d₂, told', s', hrun, hrun', hnot⟩
  constructor
  · exact hdiffers _ _ _ (by decide) run_linkedFirst.1.1 run_linkedFirst.1.2.1
  · exact hdiffers _ _ _ (by decide) run_linkedFirst.2.1 run_linkedFirst.2.2.1

end Componentry.Generation
