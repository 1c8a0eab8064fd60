import Componentry.Proofs.Generation.Alone
import Componentry.Proofs.Generation.Outcome
import Componentry.Proofs.Generation.Written

/-!
When a run is complete: every file is read, and every page rendered and written. Then the module of every
page is a file in the output directory.
-/
namespace Componentry.Generation
open Componentry.Component Componentry.Document Componentry.Files Componentry.Text

variable {l : Layout} {plan : Plan} {pages : List Page} {page : Page} {d d' first : Disk} {w : Works}
  {templates : Option Path} {docs : Path} {names : List Text} {order : List Page → List Nat} {s : Summary}
  {r : Result}

/-! ### Pages in turn -/

/-- The page suits the template. -/
def Renders (l : Layout) (base : Text) (page : Page) : Prop :=
  ∃ code, renderWith l (Spec.ofPage base page) = .ok code

/-- Each module can be written when its turn comes. -/
def Plan.WritesEach (plan : Plan) (l : Layout) : List Page → Disk → Prop
  | [], _ => True
  | page :: rest, d =>
    (∀ code, renderWith l (Spec.ofPage plan.base page) = .ok code →
      (d.writeWhole (modulePath plan (Spec.ofPage plan.base page)) (encode code)).2 = none) ∧
    plan.WritesEach l rest (generate l plan page d).1

theorem generate_isDone_iff : (generate l plan page d).2.2.isDone = true ↔
    ∃ code, renderWith l (Spec.ofPage plan.base page) = .ok code ∧ (plan.dryRun = true ∨
      (d.writeWhole (modulePath plan (Spec.ofPage plan.base page)) (encode code)).2 = none) := by
  rw [generate]
  cases hrender : renderWith l (Spec.ofPage plan.base page) with
  | error f => simp [Result.isDone]
  | ok code =>
    simp only [write, Except.ok.injEq, exists_eq_left']
    cases hdry : plan.dryRun with
    | true => simp [Result.isDone]
    | false =>
      rcases hwrite : d.writeWhole (modulePath plan (Spec.ofPage plan.base page)) (encode code) with ⟨d', none | e⟩
      · simp [Result.isDone]
      · simp [Result.isDone]

theorem generateAll_isDone_iff : (∀ r ∈ (generateAll l plan pages d).2.2, r.isDone = true) ↔
    (∀ page ∈ pages, Renders l plan.base page) ∧ (plan.dryRun = true ∨ plan.WritesEach l pages d) := by
  induction pages generalizing d with
  | nil => simp [generateAll, Plan.WritesEach]
  | cons page rest ih =>
    simp only [generateAll, List.forall_mem_cons, ih, generate_isDone_iff, Plan.WritesEach]
    constructor
    · rintro ⟨⟨code, hrender, hwrite⟩, hrest, hwrites⟩
      refine ⟨⟨⟨code, hrender⟩, hrest⟩, ?_⟩
      obtain hdry | hwrite := hwrite
      · exact .inl hdry
      · refine hwrites.imp id fun hwrites => ⟨?_, hwrites⟩
        intro code' hrender'
        obtain rfl := Except.ok.inj (hrender.symm.trans hrender')
        exact hwrite
    · rintro ⟨⟨⟨code, hrender⟩, hrest⟩, hwrites⟩
      exact ⟨⟨code, hrender, hwrites.imp id fun h => h.1 code hrender⟩, hrest, hwrites.imp id And.right⟩

/-! ### Runs -/

/-- What it takes, apart from writing: the directory is there, some file fails or has a page, but each
can be read and parsed, and each page rendered. -/
structure IsReady (templates : Option Path) (docs : Path) (names : List Text) (base : Text) (d : Disk) : Prop where
  directory : d.isDirectory docs = true
  found : ∃ file ∈ selected d docs names, (extract d file).2 ≠ .ok none
  read : ∀ file ∈ selected d docs names, ∃ page?, (extract d file).2 = .ok page?
  rendered : ∀ page ∈ (selected d docs names).filterMap (page? d),
    ∃ l, layout d templates = .ok l ∧ Renders l base page

theorem page?_eq_some_iff {file : Path} : page? d file = some page ↔ (extract d file).2 = .ok (some page) := by
  refine ⟨extract_of_page?, fun h => ?_⟩
  rw [page?, examine_eq, h]

theorem IsReady.pages_ne_nil {base : Text} (h : IsReady templates docs names base d) :
    (selected d docs names).filterMap (page? d) ≠ [] := by
  obtain ⟨file, hfile, hfound⟩ := h.found
  obtain ⟨page?, hextract⟩ := h.read file hfile
  obtain ⟨page, rfl⟩ := Option.ne_none_iff_exists'.1 fun hempty => hfound (hempty ▸ hextract)
  exact List.ne_nil_of_mem (List.mem_filterMap.2 ⟨file, hfile, page?_eq_some_iff.2 hextract⟩)

theorem failure?_eq_none_iff {file : Path} (h : ∀ c, (examine d file).2 ≠ .error c) :
    failure? d file = none ↔ ∃ page?, (extract d file).2 = .ok page? := by
  cases hextract : (extract d file).2 with
  | error t =>
    obtain ⟨why, hfailure⟩ := failure?_of_extract_error hextract h
    simp [hfailure]
  | ok found =>
    rw [failure?, examine_eq, hextract]
    cases found <;> simp

/-- A result that says that the module of a page could not be written. -/
def Result.isUnwritten : Result → Bool
  | .failed _ (.unwritten _ _) => true
  | _ => false

theorem isUnwritten_of_isDone (h : r.isDone = true) : r.isUnwritten = false := by
  cases r with
  | done spec path dryRun => rfl
  | failed component why => cases h

theorem Result.ComesOf.isDone_iff (h : r.ComesOf l plan page) :
    r.isDone = true ↔ Renders l plan.base page ∧ r.isUnwritten = false := by
  cases h with
  | unrendered hrender => simp [Result.isDone, Renders, hrender]
  | done hrender => simp [Result.isDone, Result.isUnwritten, Renders, hrender]
  | unwritten hrender hwrites e => simp [Generation.unwritten, Result.isDone, Result.isUnwritten]

/-- Either a file could not be read, or the results are those of the pages. -/
theorem RunsTo.read_iff (h : RunsTo templates docs names plan order d d' s) :
    (∀ file ∈ selected d docs names, ∃ page?, (extract d file).2 = .ok page?) ↔
      (selected d docs names).filterMap (failure? d) = [] := by
  obtain @⟨files, loaded, l, _, rs, hfound, hloads, -, -⟩ := h
  obtain ⟨hexamine, -⟩ := loadAll_eq_ok_iff.1 hloads
  rw [← selected_eq hfound] at hexamine
  rw [List.filterMap_eq_nil_iff]
  exact forall₂_congr fun file hfile => (failure?_eq_none_iff (hexamine file hfile)).symm

theorem RunsTo.isDirectory (h : RunsTo templates docs names plan order d d' s) :
    d.isDirectory docs = true := by
  obtain @⟨files, loaded, l, _, rs, hfound, -, -, -⟩ := h
  obtain ⟨place, hlocate, -⟩ := Disk.documentation?_eq_some.1 hfound
  exact Disk.isDirectory_of_locate hlocate

theorem RunsTo.isReady_of_isDone (h : RunsTo templates docs names plan order d d' s) (hne : s.results ≠ [])
    (hall : ∀ r ∈ s.results, r.isDone = true) : IsReady templates docs names plan.base d := by
  obtain ⟨generated, hresults, hpages⟩ := h.results_of
  rw [hresults] at hne hall
  obtain ⟨hfailures, hdone⟩ := List.forall_mem_append.1 hall
  have hnone : (selected d docs names).filterMap (failure? d) = [] := by
    refine List.eq_nil_iff_forall_not_mem.2 fun r hr => ?_
    obtain ⟨file, -, hfailure⟩ := List.mem_filterMap.1 hr
    cases (isDone_of_failure? hfailure).symm.trans (hfailures r hr)
  refine ⟨h.isDirectory, ?_, h.read_iff.2 hnone, ?_⟩
  · cases hpages' : (selected d docs names).filterMap (page? d) with
    | nil =>
      rw [hpages'] at hpages
      cases hpages
      exact absurd (by rw [hnone]; rfl) hne
    | cons page rest =>
      obtain ⟨file, hfile, hfound⟩ := List.mem_filterMap.1 (hpages' ▸ List.mem_cons_self)
      exact ⟨file, hfile, by simp [extract_of_page? hfound]⟩
  · refine forall_of_forall₂ ((List.forall₂_and_left _ _).2 ⟨hdone, hpages.flip⟩) ?_
    rintro r page ⟨hr, l, hlayout, hcomes⟩
    exact ⟨l, hlayout, (hcomes.isDone_iff.1 hr).1⟩

theorem RunsTo.isDone_of_isReady (h : RunsTo templates docs names plan order d d' s)
    (hready : IsReady templates docs names plan.base d) (hwritten : ∀ r ∈ s.results, r.isUnwritten = false) :
    s.results ≠ [] ∧ ∀ r ∈ s.results, r.isDone = true := by
  obtain ⟨generated, hresults, hpages⟩ := h.results_of
  rw [hresults, h.read_iff.1 hready.read, List.nil_append] at hwritten ⊢
  have hcomes : ∀ r ∈ generated, ∃ l page, Renders l plan.base page ∧ r.ComesOf l plan page := by
    refine forall_of_forall₂ ((List.forall₂_and_left _ _).2 ⟨hready.rendered, hpages⟩) ?_
    rintro page r ⟨⟨l, hlayout, hrenders⟩, l', hlayout', hcome⟩
    obtain rfl := Except.ok.inj (hlayout.symm.trans hlayout')
    exact ⟨l, page, hrenders, hcome⟩
  refine ⟨?_, ?_⟩
  · rintro rfl
    exact hready.pages_ne_nil (List.forall₂_nil_right_iff.1 hpages)
  · intro r hr
    obtain ⟨l, page, hrenders, hcome⟩ := hcomes r hr
    exact hcome.isDone_iff.2 ⟨hrenders, hwritten r hr⟩

/-- All results are good, and there are some, exactly if nothing is in the way of any page. -/
theorem RunsTo.isDone_iff (h : RunsTo templates docs names plan order d d' s) :
    (s.results ≠ [] ∧ ∀ r ∈ s.results, r.isDone = true) ↔
      IsReady templates docs names plan.base d ∧ ∀ r ∈ s.results, r.isUnwritten = false := by
  constructor
  · rintro ⟨hne, hall⟩
    exact ⟨h.isReady_of_isDone hne hall, fun r hr => isUnwritten_of_isDone (hall r hr)⟩
  · rintro ⟨hready, hwritten⟩
    exact h.isDone_of_isReady hready hwritten

theorem RunsTo.results_inTurn (h : RunsTo templates docs names plan (inTurn 0) d d' s) :
    ∃ l, s.results = (selected d docs names).filterMap (failure? d) ++
        (generateAll l plan ((selected d docs names).filterMap (page? d)) d).2.2 ∧
      ((selected d docs names).filterMap (page? d) ≠ [] → layout d templates = .ok l) := by
  obtain ⟨l, generated, hresults, hlayout, hworks⟩ := h.results_eq
  have hjobs := (run_inTurn l plan ((selected d docs names).filterMap (page? d)) d []).symm.trans hworks
  obtain ⟨-, hended⟩ := Works.mk.inj hjobs
  rw [List.nil_append] at hended
  obtain rfl := (List.map_inj_right fun _ _ he => Job.ended.inj he).1 hended
  exact ⟨l, hresults, hlayout⟩

/-- Without workers, all results are good exactly if each module can be written in its turn. -/
theorem RunsTo.isDone_iff_writesEach (h : RunsTo templates docs names plan (inTurn 0) d d' s) :
    (s.results ≠ [] ∧ ∀ r ∈ s.results, r.isDone = true) ↔
      IsReady templates docs names plan.base d ∧ (plan.dryRun = true ∨ ∃ l, layout d templates = .ok l ∧
        plan.WritesEach l ((selected d docs names).filterMap (page? d)) d) := by
  obtain ⟨l, hresults, hlayout⟩ := h.results_inTurn
  constructor
  · intro hall
    have hready := h.isReady_of_isDone hall.1 hall.2
    rw [hresults, List.forall_mem_append] at hall
    obtain ⟨-, hwrites⟩ := generateAll_isDone_iff.1 hall.2.2
    exact ⟨hready, hwrites.imp id fun hwrites => ⟨l, hlayout hready.pages_ne_nil, hwrites⟩⟩
  · rintro ⟨hready, hwrites⟩
    have hlayout := hlayout hready.pages_ne_nil
    have hrenders : ∀ page ∈ (selected d docs names).filterMap (page? d), Renders l plan.base page := by
      intro page hpage
      obtain ⟨l', hlayout', hrenders⟩ := hready.rendered page hpage
      rwa [Except.ok.inj (hlayout.symm.trans hlayout')]
    have hwrites : plan.dryRun = true ∨ plan.WritesEach l ((selected d docs names).filterMap (page? d)) d := by
      refine hwrites.imp id fun hwrites => ?_
      obtain ⟨l', hlayout', hwrites⟩ := hwrites
      rwa [Except.ok.inj (hlayout.symm.trans hlayout')]
    have hdone := generateAll_isDone_iff.2 ⟨hrenders, hwrites⟩
    refine h.isDone_of_isReady hready fun r hr => isUnwritten_of_isDone (hdone r ?_)
    rwa [hresults, h.read_iff.1 hready.read, List.nil_append] at hr

/-! ### The output directory -/

/-- Nothing is written yet, or the output directory is made and from then on kept. -/
inductive Works.Begun (l : Layout) (plan : Plan) (pages : List Page) (first : Disk) (w : Works) : Prop
  | untouched (disk : w.disk = first) (fresh : ∀ j ∈ w.jobs, j.IsOf l plan pages ∧ j.IsFresh)
  | begun (sound : w.Sound l plan pages (plan.made first))
    (made : (first.makeDirs plan.outputDir).2 = none ∨ ∃ r : Result, r.isDone = false ∧ .ended r ∈ w.jobs)

theorem Works.ended_mem_step (h : .ended r ∈ w.jobs) (i : Nat) : .ended r ∈ (w.step l plan i).jobs := by
  cases hj : w.jobs[i]? with
  | none =>
    rw [Works.step_of_none hj]
    exact h
  | some j =>
    by_cases hsame : j = .ended r
    · rw [Works.step_of_ended (hsame ▸ hj)]
      exact h
    · rw [Works.step_of_turn hj rfl]
      exact mem_set_of_mem hj h (Ne.symm hsame)

theorem forall_mem_set {P : Job → Prop} {jobs : List Job} (h : ∀ j ∈ jobs, P j) {j : Job} (hj : P j) (i : Nat) :
    ∀ x ∈ jobs.set i j, P x := by
  intro x hx
  obtain hx | rfl := List.mem_or_eq_of_mem_set hx
  · exact h x hx
  · exact hj

theorem Works.Begun.step (h : w.Begun l plan pages first) (hdry : plan.dryRun = false) (i : Nat) :
    (w.step l plan i).Begun l plan pages first := by
  cases h with
  | begun hsound hmade =>
    refine .begun (hsound.step hdry i) (hmade.imp id fun hfailed => ?_)
    obtain ⟨r, hr, hmem⟩ := hfailed
    exact ⟨r, hr, Works.ended_mem_step hmem i⟩
  | untouched hdisk hfresh =>
    cases hj : w.jobs[i]? with
    | none =>
      rw [Works.step_of_none hj]
      exact .untouched hdisk hfresh
    | some j =>
      obtain ⟨hisOf, hjob⟩ := hfresh j (List.mem_of_getElem? hj)
      cases j with
      | ready spec code => exact absurd hjob id
      | unfinished spec code place shown => exact absurd hjob id
      | ended r =>
        rw [Works.step_of_ended hj]
        exact .untouched hdisk hfresh
      | waiting page =>
        have hbare : ∀ j ∈ w.jobs, j.IsOf l plan pages ∧ j.IsBare :=
          fun j hj => ⟨(hfresh j hj).1, (hfresh j hj).2.isBare⟩
        have hparent : (modulePath plan (Spec.ofPage plan.base page)).parent = plan.outputDir := by
          rw [modulePath_ofPage, Path.parent_child]
        cases hcode : renderWith l (Spec.ofPage plan.base page) with
        | error f =>
          rw [Works.step_of_turn hj (by simp only [Job.turn, hcode]; rfl)]
          refine .untouched hdisk (forall_mem_set hfresh ?_ i)
          exact ⟨trivial, trivial⟩
        | ok code =>
          rcases hdirs : w.disk.makeDirs plan.outputDir with ⟨d', none | e⟩
          · rw [Works.step_of_turn hj (by simp only [Job.turn, hcode, hdry, hparent, hdirs]; rfl)]
            rw [hdisk] at hdirs
            obtain rfl : plan.made first = d' := by rw [Plan.made, hdirs]
            refine .begun (.of_bare (forall_mem_set hbare ?_ i) _) (.inl (by rw [hdirs]))
            exact ⟨⟨⟨page, hisOf, rfl⟩, hcode⟩, trivial⟩
          · rw [Works.step_of_turn hj (by simp only [Job.turn, hcode, hdry, hparent, hdirs]; rfl)]
            rw [hdisk] at hdirs
            obtain rfl : plan.made first = d' := by rw [Plan.made, hdirs]
            refine .begun (.of_bare (forall_mem_set hbare ?_ i) _)
              (.inr ⟨_, rfl, List.mem_set (List.getElem?_eq_some_iff.1 hj).1 _⟩)
            exact ⟨trivial, trivial⟩

theorem Works.Begun.run (h : w.Begun l plan pages first) (hdry : plan.dryRun = false) (turns : List Nat) :
    (w.run l plan turns).Begun l plan pages first := by
  induction turns generalizing w with
  | nil => exact h
  | cons i turns ih => exact ih (h.step hdry i)

theorem Works.Begun.start (l : Layout) (plan : Plan) (pages : List Page) (d : Disk) :
    Works.Begun l plan pages d ⟨d, pages.map .waiting⟩ := by
  refine .untouched rfl fun j hj => ?_
  obtain ⟨page, hpage, rfl⟩ := List.mem_map.1 hj
  exact ⟨hpage, trivial⟩

/-! ### Modules -/

section Modules
variable {turns : List Nat} {rs : List Result} {spec : Spec} {there : Place}

theorem Works.Holds.exists_get? (h : w.Holds l plan first spec)
    (hway : first.descendTo plan.outputDir = .ok there) :
    ∃ content, w.disk.get? (there ++ [moduleFile spec]) = some (.file content) := by
  obtain ⟨owner, code, before, there', -, -, -, hfirst, -, hway', -, hget⟩ := h
  obtain rfl := hfirst.descendTo_eq hway hway'
  exact ⟨_, hget⟩

/-- If all went well, the output directory could be made. -/
theorem Works.Begun.sound (h : Works.Begun l plan pages first ⟨d', rs.map .ended⟩)
    (hall : ∀ r ∈ rs, r.isDone = true) (hdone : Works.Done ⟨d', rs.map .ended⟩ spec) :
    (first.makeDirs plan.outputDir).2 = none ∧
      Works.Sound l plan pages (plan.made first) ⟨d', rs.map .ended⟩ := by
  cases h with
  | untouched _ hfresh =>
    obtain ⟨path, dryRun, hmem⟩ := hdone
    exact absurd (hfresh _ hmem).2 id
  | begun hsound hmade =>
    refine ⟨?_, hsound⟩
    obtain hmade | ⟨r, hfailed, hmem⟩ := hmade
    · exact hmade
    · obtain ⟨r', hr', he⟩ := List.mem_map.1 hmem
      cases he
      cases hfailed.symm.trans (hall r hr')

theorem done_of_run_eq (h : Works.run l plan ⟨d, pages.map .waiting⟩ turns = ⟨d', rs.map .ended⟩)
    (hall : ∀ r ∈ rs, r.isDone = true) (hpage : page ∈ pages) :
    Works.Done ⟨d', rs.map .ended⟩ (Spec.ofPage plan.base page) := by
  have hpages : ∀ page ∈ pages, ∃ r ∈ rs, r.ComesOf l plan page :=
    forall_of_forall₂ ((List.forall₂_and_left _ _).2 ⟨fun r hr => hr, (results_of_run_eq h).flip⟩)
      fun r page hr => ⟨r, hr.1, hr.2⟩
  obtain ⟨r, hr, hcomes⟩ := hpages page hpage
  have hrdone := hall r hr
  cases hcomes with
  | unrendered => cases hrdone
  | done => exact ⟨_, _, List.mem_map_of_mem hr⟩
  | unwritten => cases hrdone

/-- The module of every page of a complete run is a file in the output directory. Its path leads to it if
the output directory is still there, or no link had the name of a module. -/
theorem RunsTo.module_isFile (h : RunsTo templates docs names plan order d d' s) (hdry : plan.dryRun = false)
    (hdone : ∀ r ∈ s.results, r.isDone = true) (hpage : page ∈ (selected d docs names).filterMap (page? d)) :
    ∃ there content, (plan.made d).descendTo plan.outputDir = .ok there ∧
      d'.get? (there ++ [moduleFile (Spec.ofPage plan.base page)]) = some (.file content) ∧
      (d'.isDirectory plan.outputDir = true ∨ d.NoLinkAt IsModulePlace →
        d'.isFile (modulePath plan (Spec.ofPage plan.base page)) = true) := by
  obtain ⟨l, generated, hresults, -, hworks⟩ := h.results_eq
  have hall : ∀ r ∈ generated, r.isDone = true := fun r hr => hdone r (hresults ▸ List.mem_append_right _ hr)
  have hjob := done_of_run_eq hworks hall hpage
  have hbegun := (Works.Begun.start l plan ((selected d docs names).filterMap (page? d)) d).run hdry
    (order ((selected d docs names).filterMap (page? d)))
  rw [hworks] at hbegun
  obtain ⟨hmade, hsound⟩ := hbegun.sound hall hjob
  have hholds := hsound.holds _ hjob
  obtain ⟨there, hway⟩ := Disk.exists_descendTo_of_makeDirs hmade
  obtain ⟨content, hget⟩ := hholds.exists_get? hway
  refine ⟨there, content, hway, hget, fun hdir => ?_⟩
  have hkeeps : d.Keeps IsModulePlace (plan.made d) := .of_grows (d.makeDirs_grows plan.outputDir)
  obtain ⟨owner, code, place, -, -, -, hlocate⟩ :=
    hholds.exists_locate ⟨page, hpage, rfl⟩ (hdir.imp id hkeeps.noLinkAt)
  exact Disk.isFile_of_locate hlocate

end Modules

end Componentry.Generation
