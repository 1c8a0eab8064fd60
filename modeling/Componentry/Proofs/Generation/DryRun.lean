import Componentry.Proofs.Generation.Outcome
import Componentry.Proofs.Generation.Together

/-!
A dry run changes nothing and foretells the run that writes: the same failures to read, parse and render,
the same modules at the same paths, in the same order. Only the write of a module may still fail.
-/
namespace Componentry.Generation
open Componentry.Component Componentry.Document Componentry.Files Componentry.Text

variable {l : Layout} {page : Page} {d d₁ d₂ : Disk} {templates : Option Path} {docs : Path}
  {names : List Text} {out : Path} {base : Text} {r r' : Result} {s s' : Summary}

/-! ### Results -/

/-- How the result of a dry run is met by the one of a run that writes. -/
inductive Result.Foretells : Result → Result → Prop
  | done (spec : Spec) (path : Text) : Foretells (.done spec path true) (.done spec path false)
  | unwritten (spec : Spec) (path : Text) (e : FileError) :
    Foretells (.done spec path true) (.failed spec.name (.unwritten path e))
  | failed (component : Text) {why : Reason} (other : ∀ path e, why ≠ .unwritten path e) :
    Foretells (.failed component why) (.failed component why)

theorem Result.ComesOf.foretells (hdry : Result.ComesOf l ⟨out, base, true⟩ page r)
    (h : Result.ComesOf l ⟨out, base, false⟩ page r') : r.Foretells r' := by
  cases hdry with
  | unrendered hrender =>
    cases h with
    | unrendered hrender' =>
      obtain rfl := Except.error.inj (hrender.symm.trans hrender')
      exact .failed _ nofun
    | done hrender' => cases hrender.symm.trans hrender'
    | unwritten hrender' => cases hrender.symm.trans hrender'
  | done hrender =>
    cases h with
    | unrendered hrender' => cases hrender.symm.trans hrender'
    | done => exact .done _ _
    | unwritten _ _ e => exact .unwritten _ _ e
  | unwritten _ hwrites => cases hwrites

theorem foretells_of_failure? {file : Path} (h : failure? d file = some r) : r.Foretells r := by
  obtain ⟨f, rfl⟩ | ⟨e, rfl⟩ := failure?_cases h
  · exact .failed _ nofun
  · exact .failed _ nofun

/-! ### Runs -/

/-- Both runs load the same files, and each page comes to what was foretold. -/
theorem RunsTo.foretells {order order' : List Page → List Nat}
    (hdry : RunsTo templates docs names ⟨out, base, true⟩ order d d₁ s)
    (h : RunsTo templates docs names ⟨out, base, false⟩ order' d d₂ s') :
    List.Forall₂ Result.Foretells s.results s'.results := by
  obtain ⟨generated, hresults, hpages⟩ := hdry.results_of
  obtain ⟨generated', hresults', hpages'⟩ := h.results_of
  rw [hresults, hresults']
  refine List.rel_append (List.forall₂_same.2 fun r hr => ?_) (forall₂_of_common ?_ hpages hpages')
  · obtain ⟨file, -, hfailure⟩ := List.mem_filterMap.1 hr
    exact foretells_of_failure? hfailure
  · rintro page r r' ⟨l, hlayout, hcomes⟩ ⟨l', hlayout', hcomes'⟩
    obtain rfl := Except.ok.inj (hlayout.symm.trans hlayout')
    exact hcomes.foretells hcomes'

theorem RunsTo.disk_of_dry {order : List Page → List Nat}
    (h : RunsTo templates docs names ⟨out, base, true⟩ order d d₁ s) : d₁ = d := by
  obtain ⟨l, generated, -, -, hworks⟩ := h.results_eq
  exact (run_eq_of_dry rfl hworks).1

/-- Whether a run ends without results, and why, does not depend on what is to be written where. -/
theorem run_error_iff (plan plan' : Plan) (h : Halt) :
    (run templates docs names plan d).2.2 = .error h ↔ (run templates docs names plan' d).2.2 = .error h := by
  rw [run, run]
  cases discover d docs with
  | error halt => exact Iff.rfl
  | ok files =>
    dsimp only
    obtain ⟨told, c | ⟨pages, failures⟩⟩ := load d names files
    · exact Iff.rfl
    · cases pages with
      | nil => simp [generatePages]
      | cons page rest =>
        simp only [generatePages]
        cases layout d templates with
        | error c => exact Iff.rfl
        | ok l => simp

theorem run_fst_of_error {plan : Plan} {h : Halt} (hhalt : (run templates docs names plan d).2.2 = .error h) :
    (run templates docs names plan d).1 = d := by
  rw [run] at hhalt ⊢
  cases hfound : discover d docs with
  | error halt => rfl
  | ok files =>
    simp only [hfound] at hhalt ⊢
    rcases hload : load d names files with ⟨told, c | ⟨pages, failures⟩⟩
    · rfl
    · simp only [hload] at hhalt ⊢
      cases pages with
      | nil => cases hhalt
      | cons page rest =>
        simp only [generatePages] at hhalt ⊢
        cases hlayout : layout d templates with
        | error c => rfl
        | ok l =>
          simp only [hlayout] at hhalt
          cases hhalt

theorem run_dry_fst : (run templates docs names ⟨out, base, true⟩ d).1 = d := by
  rcases hrun : run templates docs names ⟨out, base, true⟩ d with ⟨d', told, h | s⟩
  · have hsame := @run_fst_of_error d templates docs names ⟨out, base, true⟩ h (by rw [hrun])
    rwa [hrun] at hsame
  · exact (run_iff.1 ⟨told, hrun⟩).disk_of_dry

/-! ### The main statement -/

/-- A dry run leaves the disk as it was, and ends without results just if the run that writes does, for
the same cause. Otherwise its results foretell those of the run that writes, in whatever order workers
take turns in either. -/
theorem dry_run_foretells (templates : Option Path) (docs : Path) (names : List Text) (out : Path) (base : Text)
    (d : Disk) :
    let dry : Plan := ⟨out, base, true⟩
    let writing : Plan := ⟨out, base, false⟩
    (run templates docs names dry d).1 = d ∧
    (∀ h, (run templates docs names dry d).2.2 = .error h ↔
      (run templates docs names writing d).2.2 = .error h) ∧
    (∀ d₁ told s d₂ told' s', run templates docs names dry d = (d₁, told, .ok s) →
      run templates docs names writing d = (d₂, told', .ok s') →
      List.Forall₂ Result.Foretells s.results s'.results) ∧
    ∀ order order' d₁ s d₂ s', RunsTo templates docs names dry order d d₁ s →
      RunsTo templates docs names writing order' d d₂ s' →
      d₁ = d ∧ List.Forall₂ Result.Foretells s.results s'.results := by
  refine ⟨run_dry_fst, run_error_iff _ _, ?_, ?_⟩
  · intro d₁ told s d₂ told' s' hdry hwriting
    exact (run_iff.1 ⟨told, hdry⟩).foretells (run_iff.1 ⟨told', hwriting⟩)
  · intro order order' d₁ s d₂ s' hdry hwriting
    exact ⟨hdry.disk_of_dry, hdry.foretells hwriting⟩

/-- A page that is no text, one that can be written, one whose module has the place of a directory, and
one that the template does not suit. -/
def troubled : Disk where
  entries := [(["docs"], .directory), (["docs", "a"], .directory), (["docs", "b"], .directory),
    (["docs", "c"], .directory), (["docs", "d"], .directory), (["docs", "a", "x.md"], .file [0xFF]),
    (["docs", "b", "x.md"], pageOn "One"), (["docs", "c", "x.md"], pageOn "Two"),
    (["docs", "d", "x.md"], .file (encode "### ~Three\n```html\n<p class=btn>Three</p>\n```\n")),
    (["t"], .directory), (["t", "component.ex.j2"],
      .file (encode "\x7b% if spec.base_class %\x7d\x7b\x7b nothing \x7d\x7d\x7b% endif %\x7dtext")),
    (["out"], .directory), (["out", "c.ex"], .directory)]
  cwd := []
  home := "/"

theorem dry_run_foretells_troubled :
    let plan (dryRun : Bool) : Plan := ⟨Path.ofText "out", "B", dryRun⟩
    ∃ told s d told' s',
      run (some (Path.ofText "t")) (Path.ofText "docs") [] (plan true) troubled = (troubled, told, .ok s) ∧
      run (some (Path.ofText "t")) (Path.ofText "docs") [] (plan false) troubled = (d, told', .ok s') ∧
      s.results.map Result.isDone = [false, true, true, false] ∧
      s'.results.map Result.isDone = [false, true, false, false] ∧
      List.Forall₂ Result.Foretells s.results s'.results := by
  intro plan
  obtain ⟨hdisk, -, hresults, -⟩ :=
    dry_run_foretells (some (Path.ofText "t")) (Path.ofText "docs") [] (Path.ofText "out") "B" troubled
  obtain ⟨d₁, told, s, hdry, hdone⟩ :=
    @exists_of_ended (run (some (Path.ofText "t")) (Path.ofText "docs") [] (plan true) troubled)
      (fun _ s => s.results.map Result.isDone = [false, true, true, false]) _ (by decide +kernel)
  obtain ⟨d₂, told', s', hwriting, hdone'⟩ :=
    @exists_of_ended (run (some (Path.ofText "t")) (Path.ofText "docs") [] (plan false) troubled)
      (fun _ s => s.results.map Result.isDone = [false, true, false, false]) _ (by decide +kernel)
  obtain rfl : d₁ = troubled := by rw [← hdisk, hdry]
  exact ⟨told, s, d₂, told', s', hdry, hwriting, hdone, hdone', hresults _ _ _ _ _ _ hdry hwriting⟩

end Componentry.Generation
