import Componentry.Command.Run
import Componentry.Proofs.Files.Rewritten
import Componentry.Proofs.Generation.Completion

/-!
The exit status tells whether all went well: it is 0 exactly if settings and sources are there, a page is
selected, and nothing is in the way of any page. The module of each page is then in the output directory.
-/
namespace Componentry.Command
open Componentry.Component Componentry.Document Componentry.Files Componentry.Generation Componentry.Text

variable {fetched : Checkout.Outcome} {o : Options} {d d' there there' : Disk} {job job' : Job} {s : Summary}
  {order : List Page → List Nat} {status : Nat} {message : Text}

/-! ### Up to the sources -/

/-- The disk once the log file is there. -/
def opened (o : Options) (d : Disk) : Disk :=
  match o.logFile with
  | none => d
  | some p => (openLog d (Path.ofText p)).1

/-- The disk with the sources of a job, unless they cannot be had. -/
def Job.sources? (fetched : Checkout.Outcome) (job : Job) (d : Disk) : Option Disk :=
  match job.repository with
  | none => some d
  | some repository =>
    let t := Checkout.ensure fetched.apply repository job.base d
    match t.result with
    | .error _ => none
    | .ok _ => some t.disk

/-- The settings load, and they and the options give a job, whose sources are there. -/
structure Reaches (fetched : Checkout.Outcome) (o : Options) (d : Disk) (job : Job) (there : Disk) : Prop where
  asked : ∃ settings, Settings.load d (Path.ofText o.config) = .ok settings ∧ Job.of d settings o = .ok job
  sources : job.sources? fetched d = some there

theorem Reaches.unique (h : Reaches fetched o d job there) (h' : Reaches fetched o d job' there') :
    job' = job ∧ there' = there := by
  obtain ⟨⟨settings, hloads, hasked⟩, hsources⟩ := h
  obtain ⟨⟨settings', hloads', hasked'⟩, hsources'⟩ := h'
  obtain rfl := Except.ok.inj (hloads.symm.trans hloads')
  obtain rfl := Except.ok.inj (hasked.symm.trans hasked')
  exact ⟨rfl, Option.some.inj (hsources'.symm.trans hsources)⟩

theorem Reaches.dryRun_eq (h : Reaches fetched o d job there) : job.plan.dryRun = o.dryRun := by
  obtain ⟨⟨settings, -, hasked⟩, -⟩ := h
  rw [Job.of] at hasked
  cases hbase : chosenBase d settings o with
  | error c => simp [hbase, bind, Except.bind] at hasked
  | ok base =>
    cases hname : chosenNamespace d settings o with
    | error c => simp [hbase, hname, bind, Except.bind] at hasked
    | ok name =>
      simp only [hbase, hname, bind, Except.bind, pure, Except.pure, Except.ok.injEq] at hasked
      rw [← hasked]

theorem runJob_of_sources (h : job.sources? fetched d = some there) :
    ∃ notices calls, runJob fetched job d = (generateJob job there).after notices calls := by
  rw [Job.sources?] at h
  rw [runJob]
  cases hneeds : job.repository with
  | none =>
    simp only [hneeds, Option.some.injEq] at h
    subst h
    exact ⟨_, _, rfl⟩
  | some repository =>
    simp only [hneeds] at h ⊢
    cases hresult : (Checkout.ensure fetched.apply repository job.base d).result with
    | error f =>
      rw [hresult] at h
      cases h
    | ok checkout =>
      simp only [hresult, Option.some.injEq] at h
      subst h
      exact ⟨_, _, rfl⟩

theorem runJob_of_no_sources (h : job.sources? fetched d = none)
    (hends : (runJob fetched job d).ending = .exit status message) : status = 1 := by
  rw [Job.sources?] at h
  rw [runJob] at hends
  cases hneeds : job.repository with
  | none =>
    rw [hneeds] at h
    cases h
  | some repository =>
    simp only [hneeds] at h hends
    cases hresult : (Checkout.ensure fetched.apply repository job.base d).result with
    | error why =>
      rw [hresult] at hends
      cases why with
      | refused f =>
        cases hends
        rfl
      | crashed c => cases hends
    | ok checkout =>
      rw [hresult] at h
      cases h

theorem gen_eq {settings : Settings} (hloads : Settings.load d (Path.ofText o.config) = .ok settings)
    (hasked : Job.of d settings o = .ok job) : gen fetched o d = runJob fetched job d := by
  rw [gen, hloads]
  dsimp only
  rw [hasked]

theorem Reaches.gen_eq (h : Reaches fetched o d job there) :
    ∃ notices calls, gen fetched o d = (generateJob job there).after notices calls := by
  obtain ⟨⟨settings, hloads, hasked⟩, hsources⟩ := h
  rw [Command.gen_eq hloads hasked]
  exact runJob_of_sources hsources

/-- Without settings, job or sources the program fails. -/
theorem gen_exit_of_not_reaches (h : ∀ job there, ¬Reaches fetched o d job there)
    (hends : (gen fetched o d).ending = .exit status message) : status = 1 := by
  cases hloads : Settings.load d (Path.ofText o.config) with
  | error f =>
    rw [gen, hloads] at hends
    cases f with
    | crashed c => cases hends
    | refused why =>
      cases hends
      rfl
  | ok settings =>
    cases hasked : Job.of d settings o with
    | error c =>
      rw [gen, hloads] at hends
      dsimp only at hends
      rw [hasked] at hends
      cases hends
    | ok job =>
      rw [gen_eq hloads hasked] at hends
      refine runJob_of_no_sources ?_ hends
      cases hsources : job.sources? fetched d with
      | none => rfl
      | some there => exact absurd ⟨⟨settings, hloads, hasked⟩, hsources⟩ (h job there)

/-! ### Generating -/

namespace Job

/-- Nothing is in the way of any page, but what may be in the way of writing. -/
abbrev IsReady (job : Job) (d : Disk) : Prop :=
  Generation.IsReady job.templates (Checkout.docs job.base) job.components job.plan.base d

/-- Each module can be written in its turn. -/
def Writes (job : Job) (d : Disk) : Prop :=
  job.plan.dryRun = true ∨ ∃ l, layout d job.templates = .ok l ∧
    job.plan.WritesEach l ((selected d (Checkout.docs job.base) job.components).filterMap (page? d)) d

abbrev RunsTo (job : Job) (order : List Page → List Nat) (d d' : Disk) (s : Summary) : Prop :=
  Generation.RunsTo job.templates (Checkout.docs job.base) job.components job.plan order d d' s

/-- The module of each selected page is a file in the output directory. Its path leads to it if the output
directory is still there, or no link had the name of a module. -/
def HasModules (job : Job) (d d' : Disk) : Prop :=
  ∀ file ∈ selected d (Checkout.docs job.base) job.components, ∀ page, (extract d file).2 = .ok (some page) →
    ∃ dir content, (job.plan.made d).descendTo job.plan.outputDir = .ok dir ∧
      d'.get? (dir ++ [moduleFile (Spec.ofPage job.plan.base page)]) = some (.file content) ∧
      (d'.isDirectory job.plan.outputDir = true ∨ d.NoLinkAt IsModulePlace →
        d'.isFile (modulePath job.plan (Spec.ofPage job.plan.base page)) = true)

end Job

/-- The status tells whether there are results and all of them are good. -/
theorem finish_exit {names : List Text} (h : (finish d names s).ending = .exit status message) :
    status = 0 ↔ s.results ≠ [] ∧ ∀ r ∈ s.results, r.isDone = true := by
  rw [finish] at h
  cases hresults : s.results with
  | nil =>
    rw [hresults] at h
    cases h
    simp
  | cons r rest =>
    rw [← hresults]
    have hfailed : s.failed.isEmpty = true ↔ ∀ r ∈ s.results, r.isDone = true := by
      simp [Summary.failed]
    have hsome : s.results.isEmpty = false := by rw [hresults]; rfl
    rw [hsome] at h
    cases hlines : summaryLines d s with
    | error c => simp [hlines] at h
    | ok ls =>
      simp only [hlines, Bool.false_eq_true, if_false, Ending.exit.injEq] at h
      obtain ⟨rfl, -⟩ := h
      rw [← hfailed]
      simp [hresults]

theorem finish_disk {names : List Text} : (finish d names s).disk = d := by
  rw [finish]
  split
  · rfl
  · cases summaryLines d s <;> rfl

theorem isDirectory_of_noSources {templates : Option Path} {docs dir : Path} {names : List Text} {plan : Plan}
    (h : (Generation.run templates docs names plan d).2.2 = .error (.noSources dir)) :
    d.isDirectory docs = false := by
  rw [← Bool.not_eq_true]
  intro hdocs
  obtain ⟨files, hfound⟩ := documentation?_of_isDirectory hdocs
  rw [Generation.run, discover, hfound] at h
  dsimp only at h
  rcases hload : load d names files with ⟨told, c | loaded⟩
  · rw [hload] at h
    cases h
  · simp only [hload] at h
    rcases hpages : generatePages templates plan loaded.pages d with ⟨d', more, c | generated⟩
    · rw [hpages] at h
      cases h
    · rw [hpages] at h
      cases h

/-- How generating ends with a status: without the directory, or with a summary. -/
theorem generateJob_cases (h : (generateJob job d).ending = .exit status message) :
    (status = 1 ∧ d.isDirectory (Checkout.docs job.base) = false) ∨
    ∃ s, job.RunsTo (inTurn 0) d (generateJob job d).disk s ∧
      (finish (generateJob job d).disk job.components s).ending = .exit status message := by
  unfold generateJob at h ⊢
  rcases hrun : Generation.run job.templates (Checkout.docs job.base) job.components job.plan d with
    ⟨d', told, (dir | c) | s⟩
  · rw [hrun] at h
    cases h
    exact .inl ⟨rfl, isDirectory_of_noSources (by rw [hrun])⟩
  · rw [hrun] at h
    cases h
  · rw [hrun] at h
    refine .inr ⟨s, ?_⟩
    simp only [Trace.after, finish_disk]
    exact ⟨run_iff.1 ⟨told, hrun⟩, h⟩

theorem generateJob_exit (h : (generateJob job d).ending = .exit status message) :
    status = 0 ↔ job.IsReady d ∧ job.Writes d := by
  obtain ⟨rfl, hdocs⟩ | ⟨s, hruns, hfinish⟩ := generateJob_cases h
  · refine ⟨nofun, fun hall => ?_⟩
    cases hdocs.symm.trans hall.1.directory
  · rw [finish_exit hfinish]
    exact hruns.isDone_iff_writesEach

/-! ### Modules -/

theorem Job.RunsTo.hasModules (h : job.RunsTo order d d' s) (hdry : job.plan.dryRun = false)
    (hdone : ∀ r ∈ s.results, r.isDone = true) : job.HasModules d d' := by
  intro file hfile page hextract
  exact h.module_isFile hdry hdone (List.mem_filterMap.2 ⟨file, hfile, page?_eq_some_iff.2 hextract⟩)

theorem Job.HasModules.rewritten {q : Place} {after : Disk} (h : job.HasModules d d') (hq : d'.Rewritten q after) :
    job.HasModules d after := by
  intro file hfile page hextract
  obtain ⟨dir, content, hway, hget, hpath⟩ := h file hfile page hextract
  have hget' : ∃ content, after.get? (dir ++ [moduleFile (Spec.ofPage job.plan.base page)]) = some (.file content) := by
    by_cases hplace : dir ++ [moduleFile (Spec.ofPage job.plan.base page)] = q
    · rw [hplace]
      exact hq.file'
    · exact ⟨content, (hq.get? _ hplace).trans hget⟩
  obtain ⟨content', hget'⟩ := hget'
  refine ⟨dir, content', hway, hget', fun hdir => ?_⟩
  rw [hq.isDirectory_eq] at hdir
  rw [hq.isFile_eq]
  exact hpath hdir

/-- At most the content of one file is different, such as the log. -/
def SameButLog (d d' : Disk) : Prop := d' = d ∨ ∃ q, d.Rewritten q d'

theorem Job.HasModules.sameButLog {after : Disk} (h : job.HasModules d d') (hlog : SameButLog d' after) :
    job.HasModules d after := by
  obtain rfl | ⟨q, hq⟩ := hlog
  · exact h
  · exact h.rewritten hq

theorem LogFile.append_sameButLog (log : LogFile) (ls : List Text) (d : Disk) : SameButLog d (log.append ls d) := by
  rw [LogFile.append]
  split
  · next hfile =>
    exact .inr ⟨log.place, rfl, fun place hplace => Disk.get?_put_of_ne hplace, ⟨_, hfile⟩,
      ⟨_, Disk.get?_put_self (Disk.place_ne_nil_of_file hfile)⟩⟩
  · exact .inl rfl

theorem runLogged_cases {time : Text} (h : (runLogged time fetched o d).ending = .exit status message) :
    (gen fetched o (opened o d)).ending = .exit status message ∧
      SameButLog (gen fetched o (opened o d)).disk (runLogged time fetched o d).disk := by
  rw [runLogged] at h ⊢
  rw [opened]
  cases hlog : o.logFile with
  | none =>
    rw [hlog] at h
    exact ⟨h, .inl rfl⟩
  | some p =>
    rw [hlog] at h
    dsimp only at h ⊢
    rcases hopen : openLog d (Path.ofText p) with ⟨d', e | log⟩
    · rw [hopen] at h
      cases h
    · rw [hopen] at h
      exact ⟨h, log.append_sameButLog _ _⟩

theorem Reaches.ending_eq {time : Text} (h : Reaches fetched o (opened o d) job there)
    (hends : (runLogged time fetched o d).ending = .exit status message) :
    (generateJob job there).ending = .exit status message ∧
      SameButLog (generateJob job there).disk (runLogged time fetched o d).disk := by
  obtain ⟨hgen, hdisk⟩ := runLogged_cases hends
  obtain ⟨notices, calls, heq⟩ := h.gen_eq
  rw [heq] at hgen hdisk
  exact ⟨hgen, hdisk⟩

theorem generateJob_of_runsTo (h : job.RunsTo (inTurn 0) d d' s) :
    (generateJob job d).ending = (finish d' job.components s).ending := by
  obtain ⟨told, hrun⟩ := run_iff.2 h
  rw [generateJob, hrun]
  rfl

/-! ### The main statement -/

/-- A program that exits does so with 0 exactly if the settings load, the sources are there, a selected file
has a page, every one can be read, and every page rendered and, one after the other, written. Then the
module of every page is in the output directory. The same holds of the runs in which workers take turns,
where a write may fail at another turn. -/
theorem exit_zero_iff {args : List Text} (time : Text) (fetched : Checkout.Outcome) (d : Disk)
    (hparse : parse args = .ok o) :
    (∀ status message, (run args time fetched d).ending = .exit status message →
      (status = 0 ↔ ∃ job there, Reaches fetched o (opened o d) job there ∧
        job.IsReady there ∧ job.Writes there) ∧
      ∀ job there, Reaches fetched o (opened o d) job there →
        (∀ d' s, job.RunsTo (inTurn 0) there d' s →
          (finish d' job.components s).ending = .exit status message) ∧
        (status = 0 → o.dryRun = false → job.HasModules there (run args time fetched d).disk)) ∧
    ∀ job there, Reaches fetched o (opened o d) job there → ∀ order d' s, job.RunsTo order there d' s →
      ∀ status message, (finish d' job.components s).ending = .exit status message →
        (status = 0 ↔ job.IsReady there ∧ ∀ r ∈ s.results, r.isUnwritten = false) ∧
        (status = 0 → o.dryRun = false → ∀ after, SameButLog d' after → job.HasModules there after) := by
  have hrun : run args time fetched d = (runLogged time fetched o d).report o.verbose := by
    rw [run, hparse]
  refine ⟨?_, ?_⟩
  · intro status message hending
    rw [hrun] at hending ⊢
    have hends : (runLogged time fetched o d).ending = .exit status message := hending
    refine ⟨?_, ?_⟩
    · by_cases hreaches : ∃ job there, Reaches fetched o (opened o d) job there
      · obtain ⟨job, there, hreaches⟩ := hreaches
        obtain ⟨hgenerate, -⟩ := hreaches.ending_eq hends
        rw [generateJob_exit hgenerate]
        refine ⟨fun hall => ⟨job, there, hreaches, hall⟩, ?_⟩
        rintro ⟨job', there', hreaches', hall⟩
        obtain ⟨rfl, rfl⟩ := hreaches.unique hreaches'
        exact hall
      · have hone := gen_exit_of_not_reaches (fun job there h => hreaches ⟨job, there, h⟩)
          (runLogged_cases hends).1
        subst hone
        refine ⟨nofun, ?_⟩
        rintro ⟨job, there, h, -⟩
        exact absurd ⟨job, there, h⟩ hreaches
    · intro job there hreaches
      obtain ⟨hgenerate, hdisk⟩ := hreaches.ending_eq hends
      refine ⟨fun d' s hruns => (generateJob_of_runsTo hruns).symm.trans hgenerate, ?_⟩
      intro hzero hdry
      rw [← hreaches.dryRun_eq] at hdry
      obtain ⟨rfl, -⟩ | ⟨s, hruns, hfinish⟩ := generateJob_cases hgenerate
      · cases hzero
      · exact (hruns.hasModules hdry ((finish_exit hfinish).1 hzero).2).sameButLog hdisk
  · intro job there hreaches order d' s hruns status message hfinish
    rw [finish_exit hfinish]
    refine ⟨hruns.isDone_iff, ?_⟩
    intro hall hdry after hlog
    rw [← hreaches.dryRun_eq] at hdry
    exact (hruns.hasModules hdry hall.2).sameButLog hlog

/-- A checkout with one page, and a link by the name of its module that leads to a directory. -/
def checkedOut : Disk where
  entries := [(["tmp"], .directory), (["tmp", "daisyui"], .directory),
    (["tmp", "daisyui", "packages"], .directory), (["tmp", "daisyui", "packages", "docs"], .directory),
    (["tmp", "daisyui", "packages", "docs", "src"], .directory),
    (["tmp", "daisyui", "packages", "docs", "src", "routes"], .directory),
    (["tmp", "daisyui", "packages", "docs", "src", "routes", "(routes)"], .directory),
    (["tmp", "daisyui", "packages", "docs", "src", "routes", "(routes)", "components"], .directory),
    (["tmp", "daisyui", "packages", "docs", "src", "routes", "(routes)", "components", "b"], .directory),
    (["tmp", "daisyui", "packages", "docs", "src", "routes", "(routes)", "components", "b", "x.md"], pageOn "One"),
    (["real"], .directory), (["b.ex"], .link "real")]
  cwd := []
  home := "/"

def skipping (out : Text) : List Text := ["gen", "--skip-clone", "--output-dir", out, "--log-file", "log"]

def skippingOptions (out : Text) : Options :=
  { Options.none with skipClone := true, outputDir := some out, logFile := some "log" }

/-- The status of a program that exits. -/
def Report.status? (r : Report) : Option Nat :=
  match r.ending with
  | .exit status _ => some status
  | .crashed _ => none

theorem exists_of_status? {r : Report} (h : r.status? = some status) :
    ∃ message, r.ending = .exit status message := by
  rw [Report.status?] at h
  cases hending : r.ending with
  | exit status' message =>
    rw [hending] at h
    cases h
    exact ⟨message, rfl⟩
  | crashed c =>
    rw [hending] at h
    cases h

theorem exit_zero_iff_checkedOut :
    parse (skipping "out") = .ok (skippingOptions "out") ∧
    (∃ message, (run (skipping "out") "now" .missing checkedOut).ending = .exit 0 message) ∧
    ∃ job there, Reaches .missing (skippingOptions "out") (opened (skippingOptions "out") checkedOut) job there ∧
      job.IsReady there ∧ job.Writes there ∧
      job.HasModules there (run (skipping "out") "now" .missing checkedOut).disk := by
  have hparse : parse (skipping "out") = .ok (skippingOptions "out") := by rfl
  obtain ⟨message, hending⟩ :=
    @exists_of_status? 0 (run (skipping "out") "now" .missing checkedOut) (by decide +kernel)
  obtain ⟨hmain, -⟩ := exit_zero_iff "now" .missing checkedOut hparse
  obtain ⟨hstatus, hmodules⟩ := hmain 0 message hending
  obtain ⟨job, there, hreaches, hready, hwrites⟩ := hstatus.1 rfl
  exact ⟨hparse, ⟨message, hending⟩, job, there, hreaches, hready, hwrites,
    (hmodules job there hreaches).2 rfl rfl⟩

/-- The module of the page takes the place of the link that leads to the output directory. The status is 0,
but the path of the module leads nowhere. -/
theorem module_cut_off :
    parse (skipping "b.ex/..") = .ok (skippingOptions "b.ex/..") ∧
    (∃ message, (run (skipping "b.ex/..") "now" .missing checkedOut).ending = .exit 0 message) ∧
    (selected checkedOut (Checkout.docs (Path.ofText "/")) []).map (fun file =>
      (page? checkedOut file).map fun page => moduleFile (Spec.ofPage "B" page)) = [some ("b.ex" : Text)] ∧
    (run (skipping "b.ex/..") "now" .missing checkedOut).disk.isFile (Path.ofText "b.ex/../b.ex") = false := by
  refine ⟨by rfl, exists_of_status? ?_, ?_, ?_⟩
  · decide +kernel
  · decide +kernel
  · decide +kernel

end Componentry.Command
