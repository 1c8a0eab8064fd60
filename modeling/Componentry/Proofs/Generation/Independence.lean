import Mathlib.Data.List.Perm.Basic
import Componentry.Proofs.Generation.AnyOrder
import Componentry.Proofs.Generation.Ending
import Componentry.Proofs.Generation.Together

/-!
No file of a run is lost, reported twice or influenced by another one: the results are those of handling
each file on its own, also if modules share a path.
-/
namespace Componentry.Generation
open Componentry.Component Componentry.Document Componentry.Files Componentry.Text

variable {l : Layout} {plan : Plan} {pages pages' : List Page} {page : Page} {d d' : Disk} {rs : List Result}
  {templates : Option Path} {files : List Path} {file : Path} {r : Result}

/-! ### Pages -/

/-- Work on one page is not in the way of work on another: nothing is written, or for one page only, or
the output directory is there to stay. -/
def Plan.IsSafe (l : Layout) (plan : Plan) (pages : List Page) (d : Disk) : Prop :=
  plan.dryRun = true ∨ pages.length ≤ 1 ∨ plan.IsSteady l pages d

/-- Nothing changes but modules of pages, over a disk with new directories on the way to the output
directory. -/
def Plan.WritesOnly (plan : Plan) (pages : List Page) (d d' : Disk) : Prop :=
  ∃ made, d.GrowsAlong plan.outputDir made ∧ ∀ place, d'.get? place ≠ made.get? place →
    ∃ page ∈ pages, ∃ there, made.descendTo plan.outputDir = .ok there ∧
      place = there ++ [moduleFile (Spec.ofPage plan.base page)]

/-- The names of modules are distinct, or there are names enough for unfinished files. -/
def Plan.HasRoom (plan : Plan) (pages : List Page) (d : Disk) : Prop :=
  (pages.map fun page => (Spec.ofPage plan.base page).fileName).Nodup ∨
    (plan.made d).entries.length + pages.length < Disk.mostShortNames

theorem Plan.IsSafe.sublist (h : plan.IsSafe l pages d) (hsub : pages'.Sublist pages) :
    plan.IsSafe l pages' d := by
  obtain hdry | hlength | hsteady := h
  · exact .inl hdry
  · exact .inr (.inl (hsub.length_le.trans hlength))
  · exact .inr (.inr ⟨hsteady.again, fun page hpage => hsteady.reached page (hsub.subset hpage)⟩)

theorem isSafe_sharing (l : Layout) (h : layout sharing none = .ok l) :
    Plan.IsSafe l ⟨Path.ofText "out", "B", false⟩
      ((selected sharing (Path.ofText "docs") []).filterMap (page? sharing)) sharing := by
  cases h
  exact .inr (.inr ⟨again_of_made (by decide), by decide +kernel⟩)

theorem Plan.HasRoom.sublist (h : plan.HasRoom pages d) (hsub : pages'.Sublist pages) : plan.HasRoom pages' d := by
  obtain hnames | hmany := h
  · exact .inl ((hsub.map _).nodup hnames)
  · have hlength := hsub.length_le
    exact .inr (by omega)

theorem Plan.writesOnly_refl (plan : Plan) (pages : List Page) (d : Disk) : plan.WritesOnly pages d d :=
  ⟨d, .refl d _, fun _ hne => absurd rfl hne⟩

theorem Overlay.writesOnly (h : Overlay l plan pages d [] d') : plan.WritesOnly pages d d' := by
  refine ⟨plan.made d, d.makeDirs_growsAlong plan.outputDir, fun place hne => ?_⟩
  obtain hsame | ⟨-, ⟨-, hbusy⟩ | ⟨page, hpage, -, hmodule⟩⟩ := h.get? place
  · exact absurd hsame hne
  · exact absurd hbusy List.not_mem_nil
  · exact ⟨page, hpage, hmodule⟩

theorem writesOnly_of_left (h : d' = d ∨ Overlay l plan pages d [] d') : plan.WritesOnly pages d d' := by
  obtain rfl | h := h
  · exact plan.writesOnly_refl pages d'
  · exact h.writesOnly

theorem generate_writesOnly (hdry : plan.dryRun = false) (page : Page) (d : Disk) :
    plan.WritesOnly [page] d (generate l plan page d).1 := by
  have hgrows := d.makeDirs_growsAlong plan.outputDir
  have hgenerated := generated l hdry page d
  revert hgenerated
  generalize (generate l plan page d).1 = d'
  generalize (generate l plan page d).2.2 = r
  rintro (_ | ⟨code, there, -, hway, -, -, hgains⟩ | ⟨-, -, -, hsame⟩)
  · exact plan.writesOnly_refl _ d
  · refine ⟨plan.made d, hgrows, fun place hne => ⟨page, by simp, there, hway, ?_⟩⟩
    by_contra hplace
    exact hne (hgains.others place hplace)
  · exact ⟨plan.made d, hgrows, fun place hne => absurd (hsame.get? place) hne⟩

/-- Pages one after the other each come to what they come to alone. -/
theorem generateAll_of_isSafe (h : plan.IsSafe l pages d) :
    ((generateAll l plan pages d).2.2 = pages.map fun page => (generate l plan page d).2.2) ∧
      (plan.dryRun = true → (generateAll l plan pages d).1 = d) ∧
      plan.WritesOnly pages d (generateAll l plan pages d).1 := by
  have hturns := run_inTurn l plan pages d []
  cases hdry : plan.dryRun with
  | true =>
    obtain ⟨hdisk, hresults⟩ := run_eq_of_dry hdry hturns
    rw [hdisk]
    exact ⟨hresults, fun _ => rfl, plan.writesOnly_refl pages d⟩
  | false =>
    obtain htrue | hlength | hsteady := h
    · rw [hdry] at htrue
      cases htrue
    · match pages, hlength with
      | [], _ => exact ⟨rfl, nofun, plan.writesOnly_refl [] d⟩
      | [page], _ => exact ⟨rfl, nofun, generate_writesOnly hdry page d⟩
    · obtain ⟨hresults, hleft⟩ := generateAll_eq_of_left hdry hsteady (List.Subset.refl pages) (.inl rfl)
      exact ⟨hresults, nofun, writesOnly_of_left hleft⟩

theorem inUse_ended (d : Disk) (rs : List Result) : Works.inUse ⟨d, rs.map .ended⟩ = [] := by
  rw [Works.inUse, List.filterMap_map]
  exact List.filterMap_eq_nil_iff.2 fun _ _ => rfl

/-- Pages of distinct modules leave their modules, over the output directory. -/
theorem Works.Alone.left (h : Works.Alone l plan pages d ⟨d', rs.map .ended⟩) (hdry : plan.dryRun = false) :
    d' = d ∨ Overlay l plan pages d [] d' := by
  obtain ⟨hdisk, -⟩ | ⟨hdisk, -, -⟩ | ⟨there, t, hmade, houtput, habsolute, hover, -⟩ := h.phase
  · exact .inl hdisk
  · have hdisk : d' = plan.made d := hdisk
    exact .inr (hdisk ▸ Overlay.made l plan pages d [])
  · exact .inr (inUse_ended d' rs ▸ h.overlay hdry hmade houtput habsolute hover)

theorem Works.Together.left (h : Works.Together l plan pages d ⟨d', rs.map .ended⟩) :
    d' = d ∨ Overlay l plan pages d [] d' := by
  obtain ⟨hdisk, -⟩ | hlies := h.disk
  · exact .inl hdisk
  · exact .inr (inUse_ended d' rs ▸ hlies)

section Works
variable (hroom : plan.HasRoom pages d) {turns : List Nat}
  (hrun : Works.run l plan ⟨d, pages.map .waiting⟩ turns = ⟨d', rs.map .ended⟩)

include hroom hrun

/-- Pages that workers take in turns come to the same, but for the numbers of unfinished files. -/
theorem works_of_isSteady (hdry : plan.dryRun = false) (hsteady : plan.IsSteady l pages d) :
    List.Forall₂ (Result.Like (d.absolute plan.outputDir))
        (pages.map fun page => (generate l plan page d).2.2) rs ∧
      (d' = d ∨ Overlay l plan pages d [] d') := by
  obtain hnames | hmany := hroom
  · have halone := (Works.Alone.start l plan pages d).run hdry (nodup_moduleFile hnames) hsteady turns
    rw [hrun] at halone
    obtain rfl := halone.results
    exact ⟨List.forall₂_same.2 fun r _ => .same r, halone.left hdry⟩
  · have htogether := (Works.Together.start l plan pages d).run hdry hsteady
      (Works.Sound.start l plan pages d) hmany turns
    rw [hrun] at htogether
    exact ⟨List.forall₂_map_left_iff.2 htogether.toEach.forall₂, htogether.left⟩

theorem works_of_isSafe (h : plan.IsSafe l pages d) :
    List.Forall₂ (Result.Like (d.absolute plan.outputDir))
        (pages.map fun page => (generate l plan page d).2.2) rs ∧
      (plan.dryRun = true → d' = d) ∧ plan.WritesOnly pages d d' := by
  have hsame : ∀ rs : List Result, List.Forall₂ (Result.Like (d.absolute plan.outputDir)) rs rs :=
    fun rs => List.forall₂_same.2 fun r _ => .same r
  cases hdry : plan.dryRun with
  | true =>
    obtain ⟨rfl, rfl⟩ := run_eq_of_dry hdry hrun
    exact ⟨hsame _, fun _ => rfl, plan.writesOnly_refl pages _⟩
  | false =>
    obtain htrue | hlength | hsteady := h
    · rw [hdry] at htrue
      cases htrue
    · match pages, hlength with
      | [], _ =>
        obtain ⟨rfl, rfl⟩ := run_eq_of_nil hrun
        exact ⟨.nil, nofun, plan.writesOnly_refl [] _⟩
      | [page], _ =>
        obtain ⟨rfl, rfl⟩ := run_eq_of_single hrun
        exact ⟨hsame _, nofun, generate_writesOnly hdry page d⟩
    · obtain ⟨hlike, hleft⟩ := works_of_isSteady hroom hrun hdry hsteady
      exact ⟨hlike, nofun, writesOnly_of_left hleft⟩

end Works

/-! ### Files -/

/-- What handling a file on its own comes to: one failure if it cannot be read, nothing if it has no
examples, else the result of its page. -/
def outcome? (templates : Option Path) (plan : Plan) (d : Disk) (file : Path) : Option Result :=
  match (examine d file).2, layout d templates with
  | .ok (.failed component why), _ => some (.failed component why)
  | .ok (.page page), .ok l => some (generate l plan page d).2.2
  | _, _ => none

/-- What the page of a file comes to on its own. -/
def pageResult? (templates : Option Path) (plan : Plan) (d : Disk) (file : Path) : Option Result :=
  match page? d file, layout d templates with
  | some page, .ok l => some (generate l plan page d).2.2
  | _, _ => none

/-- The results of files, each with its file: failures to read first. -/
def owned (templates : Option Path) (plan : Plan) (d : Disk) (files : List Path) : List (Path × Result) :=
  (files.filterMap fun file => (failure? d file).map (file, ·)) ++
    files.filterMap fun file => (pageResult? templates plan d file).map (file, ·)

theorem outcome?_cases (templates : Option Path) (plan : Plan) (d : Disk) (file : Path) :
    (failure? d file = none ∧ outcome? templates plan d file = pageResult? templates plan d file) ∨
      (pageResult? templates plan d file = none ∧ outcome? templates plan d file = failure? d file) := by
  unfold outcome? pageResult? failure? page?
  rcases (examine d file).2 with c | page | _ | ⟨component, why⟩
  · exact .inl ⟨rfl, rfl⟩
  · left
    cases layout d templates <;> exact ⟨rfl, rfl⟩
  · exact .inl ⟨rfl, rfl⟩
  · exact .inr ⟨rfl, rfl⟩

theorem outcome?_of_mem_owned {x : Path × Result} (h : x ∈ owned templates plan d files) :
    x.1 ∈ files ∧ outcome? templates plan d x.1 = some x.2 := by
  have hcases := fun file => outcome?_cases templates plan d file
  obtain h | h := List.mem_append.1 h
  all_goals
    obtain ⟨file, hfile, hx⟩ := List.mem_filterMap.1 h
    obtain ⟨r, hr, rfl⟩ := Option.map_eq_some_iff.1 hx
    refine ⟨hfile, ?_⟩
    obtain ⟨hnone, hsame⟩ | ⟨hnone, hsame⟩ := hcases file
    all_goals simp_all

/-- Two lists of results make up one if nothing has a result in both. -/
theorem filterMap_append_perm {α β : Type} {f g h : α → Option β}
    (hcases : ∀ x, (f x = none ∧ h x = g x) ∨ (g x = none ∧ h x = f x)) (xs : List α) :
    (xs.filterMap f ++ xs.filterMap g).Perm (xs.filterMap h) := by
  induction xs with
  | nil => exact .refl _
  | cons x xs ih =>
    obtain ⟨hnone, hsame⟩ | ⟨hnone, hsame⟩ := hcases x
    · rw [List.filterMap_cons_none hnone]
      cases hg : g x with
      | none =>
        rw [List.filterMap_cons_none hg, List.filterMap_cons_none (hsame.trans hg)]
        exact ih
      | some y =>
        rw [List.filterMap_cons_some hg, List.filterMap_cons_some (hsame.trans hg)]
        exact List.perm_middle.trans (ih.cons y)
    · rw [List.filterMap_cons_none hnone]
      cases hf : f x with
      | none =>
        rw [List.filterMap_cons_none hf, List.filterMap_cons_none (hsame.trans hf)]
        exact ih
      | some y =>
        rw [List.filterMap_cons_some hf, List.filterMap_cons_some (hsame.trans hf), List.cons_append]
        exact ih.cons y

theorem owned_perm (templates : Option Path) (plan : Plan) (d : Disk) (files : List Path) :
    ((owned templates plan d files).map Prod.snd).Perm (files.filterMap (outcome? templates plan d)) := by
  rw [owned, List.map_append, List.map_filterMap, List.map_filterMap]
  refine filterMap_append_perm (fun file => ?_) files
  simpa [Option.map_map, Function.comp_def] using outcome?_cases templates plan d file

/-- The results of files, if the template is there when a page is. -/
theorem owned_map_snd (hlayout : files.filterMap (page? d) ≠ [] → layout d templates = .ok l) :
    (owned templates plan d files).map Prod.snd = files.filterMap (failure? d) ++
      (files.filterMap (page? d)).map fun page => (generate l plan page d).2.2 := by
  have hpages : files.filterMap (pageResult? templates plan d) =
      (files.filterMap (page? d)).map fun page => (generate l plan page d).2.2 := by
    rw [List.map_filterMap]
    apply List.filterMap_congr
    intro file hfile
    cases hpage : page? d file with
    | none => simp [pageResult?, hpage]
    | some page =>
      have hlayout := hlayout (List.ne_nil_of_mem (List.mem_filterMap.2 ⟨file, hfile, hpage⟩))
      simp [pageResult?, hpage, hlayout]
  rw [owned, List.map_append, List.map_filterMap, List.map_filterMap]
  simp only [Option.map_map, Function.comp_def, Option.map_id']
  rw [hpages]

/-! ### Runs -/

section Runs
variable {docs : Path} {names : List Text} {order : List Page → List Nat} {told : List Notice} {s : Summary}
  (hsafe : ∀ l, layout d templates = .ok l →
    plan.IsSafe l ((selected d docs names).filterMap (page? d)) d)

/-- Without pages there is nothing to be in the way of. -/
theorem isSafe_of_layout (hsafe : ∀ l, layout d templates = .ok l → plan.IsSafe l pages d)
    (hlayout : pages ≠ [] → layout d templates = .ok l) : plan.IsSafe l pages d := by
  by_cases hnil : pages = []
  · exact .inr (.inl (by simp [hnil]))
  · exact hsafe l (hlayout hnil)

include hsafe

/-- A run by one worker gives each file its own result. -/
theorem run_results_eq (h : run templates docs names plan d = (d', told, .ok s)) :
    s.results = (owned templates plan d (selected d docs names)).map Prod.snd ∧
      (plan.dryRun = true → d' = d) ∧
      plan.WritesOnly ((selected d docs names).filterMap (page? d)) d d' := by
  obtain ⟨l, rs, hresults, hlayout, hworks⟩ := (run_iff.1 ⟨told, h⟩).results_eq
  have hjobs := (run_inTurn l plan _ d []).symm.trans hworks
  simp only [List.nil_append, Works.mk.injEq] at hjobs
  obtain ⟨rfl, hended⟩ := hjobs
  have hrs := (List.map_inj_right fun _ _ he => Job.ended.inj he).1 hended
  obtain ⟨hpages, hdry, hwrites⟩ := generateAll_of_isSafe (isSafe_of_layout hsafe hlayout)
  rw [hresults, owned_map_snd hlayout, ← hrs, hpages]
  exact ⟨rfl, hdry, hwrites⟩

/-- A run by several workers gives each file its own result, but for the numbers of unfinished files. -/
theorem runsTo_results_like (hroom : plan.HasRoom ((selected d docs names).filterMap (page? d)) d)
    (h : RunsTo templates docs names plan order d d' s) :
    List.Forall₂ (Result.Like (d.absolute plan.outputDir))
        ((owned templates plan d (selected d docs names)).map Prod.snd) s.results ∧
      (plan.dryRun = true → d' = d) ∧
      plan.WritesOnly ((selected d docs names).filterMap (page? d)) d d' := by
  obtain ⟨l, rs, hresults, hlayout, hworks⟩ := h.results_eq
  obtain ⟨hlike, hdry, hwrites⟩ := works_of_isSafe hroom hworks (isSafe_of_layout hsafe hlayout)
  rw [hresults, owned_map_snd hlayout]
  exact ⟨List.rel_append (List.forall₂_same.2 fun r _ => .same r) hlike, hdry, hwrites⟩

end Runs

/-! ### The main statements -/

/-- The results of a run are a permutation of what each selected file comes to when it is handled on its
own from the same disk, also if modules share a path. The output directory must not be one that a module
of the run cuts off or that comes out different when it is made again. If workers take turns, unfinished
files may get other numbers, which shows in the errors of writes. -/
theorem results_of_each_file (templates : Option Path) (docs : Path) (names : List Text) (plan : Plan)
    (d : Disk) (hsafe : ∀ l, layout d templates = .ok l →
      plan.IsSafe l ((selected d docs names).filterMap (page? d)) d) :
    (∀ d' told s, run templates docs names plan d = (d', told, .ok s) →
      s.results.Perm ((selected d docs names).filterMap (outcome? templates plan d))) ∧
    (plan.HasRoom ((selected d docs names).filterMap (page? d)) d →
      ∀ order d' s, RunsTo templates docs names plan order d d' s →
        ∃ rs, s.results.Perm rs ∧ List.Forall₂ (Result.Like (d.absolute plan.outputDir))
          ((selected d docs names).filterMap (outcome? templates plan d)) rs) := by
  have hperm := owned_perm templates plan d (selected d docs names)
  refine ⟨fun d' told s hrun => ?_, fun hroom order d' s hruns => ?_⟩
  · rw [(run_results_eq hsafe hrun).1]
    exact hperm
  · have hlike := (runsTo_results_like hsafe hroom hruns).1
    obtain ⟨rs, hrs, hresults⟩ := List.perm_comp_forall₂ hperm.symm hlike
    exact ⟨rs, hresults.symm, hrs⟩

theorem results_of_each_file_sharing :
    let plan : Plan := ⟨Path.ofText "out", "B", false⟩
    ∃ d' told s, run none (Path.ofText "docs") [] plan sharing = (d', told, .ok s) ∧
      s.results.map Result.component = ["AB", "AB"] ∧
      s.results.Perm ((selected sharing (Path.ofText "docs") []).filterMap (outcome? none plan sharing)) := by
  intro plan
  obtain ⟨d', told, s, hrun, -, hcomponents, -⟩ := run_sharing.1
  exact ⟨d', told, s, hrun, hcomponents,
    (results_of_each_file none (Path.ofText "docs") [] plan sharing isSafe_sharing).1 d' told s hrun⟩

/-- A link by the name of the first module, that leads to a directory. -/
def linkedFirst : Disk where
  entries := [(["docs"], .directory), (["docs", "a"], .directory), (["docs", "b"], .directory),
    (["docs", "a", "x.md"], pageOn "One"), (["docs", "b", "x.md"], pageOn "Two"),
    (["real"], .directory), (["a.ex"], .link "real"), (["f"], .file [])]
  cwd := []
  home := "/"

/-- What becomes of both components, of the second where the first is left out, and of each file alone. -/
theorem run_linkedFirst :
    let comes (out : Text) (names : List Text) (every : List (Text × Option Failure)) : Prop :=
      ∃ d told s, run none (Path.ofText "docs") names ⟨Path.ofText out, "B", false⟩ linkedFirst =
          (d, told, .ok s) ∧
        s.results.map (fun r => (r.component, r.unwritten?)) = every
    let alone (out : Text) : List (Option Failure) :=
      ((selected linkedFirst (Path.ofText "docs") []).filterMap
        (outcome? none ⟨Path.ofText out, "B", false⟩ linkedFirst)).map Result.unwritten?
    (comes "a.ex/.." [] [("A", none), ("B", some .notDirectory)] ∧
      comes "a.ex/.." ["b"] [("B", none)] ∧ alone "a.ex/.." = [none, none]) ∧
    comes "n/../f/o" [] [("A", some .exists), ("B", some .notDirectory)] ∧
      comes "n/../f/o" ["b"] [("B", some .exists)] ∧ alone "n/../f/o" = [some .exists, some .exists] :=
  ⟨⟨exists_of_ended (by decide +kernel), exists_of_ended (by decide +kernel), by decide +kernel⟩,
    exists_of_ended (by decide +kernel), exists_of_ended (by decide +kernel), by decide +kernel⟩

/-- A module that takes the place of a link cuts off the one that is written after it, and a directory that
was made before dots makes the next attempt fail for another reason. -/
theorem results_influenced :
    let influenced (out : Text) : Prop :=
      let plan : Plan := ⟨Path.ofText out, "B", false⟩
      ∃ d told s, run none (Path.ofText "docs") [] plan linkedFirst = (d, told, .ok s) ∧
        ¬(s.results.map Result.unwritten?).Perm
          (((selected linkedFirst (Path.ofText "docs") []).filterMap
            (outcome? none plan linkedFirst)).map Result.unwritten?)
    influenced "a.ex/.." ∧ influenced "n/../f/o" := by
  intro influenced
  obtain ⟨⟨⟨d₁, told₁, s₁, hrun₁, hshown₁⟩, -, halone₁⟩, ⟨d₂, told₂, s₂, hrun₂, hshown₂⟩, -, halone₂⟩ :=
    run_linkedFirst
  beta_reduce at halone₁ halone₂
  have hreasons : ∀ (s : Summary) (every : List (Text × Option Failure)),
      s.results.map (fun r => (r.component, r.unwritten?)) = every →
        s.results.map Result.unwritten? = every.map Prod.snd := by
    rintro s every rfl
    rw [List.map_map]
    rfl
  refine ⟨⟨d₁, told₁, s₁, hrun₁, ?_⟩, d₂, told₂, s₂, hrun₂, ?_⟩
  · rw [hreasons _ _ hshown₁, halone₁]
    decide
  · rw [hreasons _ _ hshown₂, halone₂]
    decide

end Componentry.Generation
