import Componentry.Proofs.Generation.Loading
import Componentry.Proofs.Generation.Turns

/-!
What is reported as written is there at the end: the file of a component holds the module of that
component, or of another one that was written to the same path.
-/
namespace Componentry.Generation
open Componentry.Component Componentry.Document Componentry.Files Componentry.Text

variable {l : Layout} {plan : Plan} {pages : List Page}

/-! ### At the end of a run -/

/-- The file a path names holds the module of a specification. -/
def HoldsModule (l : Layout) (d : Disk) (path : Text) (spec : Spec) : Prop :=
  ∃ code, renderWith l spec = .ok code ∧ d.readBytes (Path.ofText path) = .ok (encode code)

instance (l : Layout) (d : Disk) (path : Text) (spec : Spec) : Decidable (HoldsModule l d path spec) :=
  match hcode : renderWith l spec with
  | .error _ => .isFalse (by rintro ⟨code, hok, -⟩; rw [hcode] at hok; cases hok)
  | .ok code =>
    match hread : d.readBytes (Path.ofText path) with
    | .error _ => .isFalse (by rintro ⟨code', -, hok⟩; rw [hread] at hok; cases hok)
    | .ok content =>
      if hsame : content = encode code then .isTrue ⟨code, hcode, hsame ▸ hread⟩
      else .isFalse (by
        rintro ⟨code', hok, hok'⟩
        rw [hcode] at hok
        cases hok
        rw [hread] at hok'
        cases hok'
        exact hsame rfl)

/-- Where the path of a component that is done leads, if the output directory can still be told. -/
theorem Works.Holds.exists_locate {w : Works} {first : Disk} {spec : Spec}
    (h : w.Holds l plan first spec) (hspec : IsOfPages plan pages spec)
    (hdir : w.disk.isDirectory plan.outputDir = true ∨ first.NoLinkAt IsModulePlace) :
    ∃ owner code place, w.Done owner ∧ moduleFile owner = moduleFile spec ∧ renderWith l owner = .ok code ∧
      w.disk.locate true (modulePath plan spec) = .ok (.found place (.file (encode code))) := by
  obtain ⟨owner, code, before, there, hdone, hname, hcode, hfirst, hbefore, hway, hshort, hget⟩ := h
  have hnow : w.disk.descendTo plan.outputDir = .ok there := by
    obtain hdir | hlinks := hdir
    · obtain ⟨there', hway'⟩ := Disk.exists_descendTo_of_isDirectory hdir
      rw [hway', hbefore.descendTo_eq hway hway']
    · exact hbefore.descendTo_ok (hfirst.noLinkAt hlinks) hway
  have hstop : w.disk.StopsAt true (moduleFile spec) there := by
    refine .inr fun target hlink => ?_
    rw [hget] at hlink
    cases hlink
  refine ⟨owner, code, there ++ [moduleFile spec], hdone, hname, hcode, ?_⟩
  rw [hspec.modulePath_eq, Disk.locate_child_followed (moduleFile_ne_dots _) hnow hstop, Disk.lookAt,
    if_neg (Nat.not_lt.2 hshort), hget]

/-- What the file of a component that is done holds. -/
theorem Works.Holds.holdsModule {w : Works} {first : Disk} {spec : Spec}
    (h : w.Holds l plan first spec) (hspec : IsOfPages plan pages spec)
    (hnormal : plan.outputDir.IsNormal)
    (hdir : w.disk.isDirectory plan.outputDir = true ∨ first.NoLinkAt IsModulePlace) :
    ∃ owner, w.Done owner ∧ moduleFile owner = moduleFile spec ∧
      HoldsModule l w.disk (modulePath plan spec).toText owner := by
  obtain ⟨owner, code, place, hdone, hname, hcode, hlocate⟩ := h.exists_locate hspec hdir
  have hpath : (modulePath plan spec).IsNormal := by
    obtain ⟨page, -, rfl⟩ := hspec
    rw [modulePath_ofPage]
    exact hnormal.child (isPart_moduleFile _) (slash_not_mem_moduleFile plan.base page)
  refine ⟨owner, hdone, hname, code, hcode, ?_⟩
  rw [Path.ofText_toText hpath, Disk.readBytes, hlocate]

/-! ### Two small trees -/

def pageOn (title : String) : Entry :=
  .file (encode ("### ~" ++ title ++ "\n```html\n<p>" ++ title ++ "</p>\n```\n"))

/-- Two pages whose components share a file name. -/
def sharing : Disk where
  entries := [(["docs"], .directory), (["docs", "a-b"], .directory), (["docs", "a_b"], .directory),
    (["docs", "a-b", "x.md"], pageOn "One"), (["docs", "a_b", "x.md"], pageOn "Two")]
  cwd := []
  home := "/"

/-- A link by the name of a module, that leads to a directory. -/
def linkedOutput : Disk where
  entries := [(["docs"], .directory), (["docs", "a"], .directory), (["docs", "b"], .directory),
    (["docs", "a", "x.md"], pageOn "One"), (["docs", "b", "x.md"], pageOn "Two"),
    (["real"], .directory), (["b.ex"], .link "real")]
  cwd := []
  home := "/"

/-! ### The main statements -/

/-- What is reported as written is there at the end of a run, in whatever order workers take turns. At
the path of a component that is done, the file holds the module of a component that is done there: of
this one, if no other was written to the same path. A module takes the place of a link, so the output
directory must still be there, or no link may have had the name of a module. -/
theorem done_file_holds_module (templates : Option Path) (docs : Path) (names : List Text)
    (out base : Text) (d d' : Disk) (s : Summary) :
    ((∃ told, run templates docs names ⟨Path.ofText out, base, false⟩ d = (d', told, .ok s)) ↔
      RunsTo templates docs names ⟨Path.ofText out, base, false⟩ (inTurn 0) d d' s) ∧
    ∀ order, RunsTo templates docs names ⟨Path.ofText out, base, false⟩ order d d' s →
      d'.isDirectory (Path.ofText out) = true ∨ d.NoLinkAt IsModulePlace →
      ∀ spec path dryRun, .done spec path dryRun ∈ s.results →
        (∃ files file page, d.documentation? docs = some files ∧ file ∈ files ∧
          isSelected names file = true ∧ (extract d file).2 = .ok (some page) ∧
          spec = Spec.ofPage base page) ∧
        ∃ l, layout d templates = .ok l ∧
          (∃ owner, .done owner path false ∈ s.results ∧ HoldsModule l d' path owner) ∧
          ((∀ other, .done other path false ∈ s.results → other = spec) →
            HoldsModule l d' path spec) := by
  refine ⟨run_iff, ?_⟩
  intro order hruns hdir spec path dryRun hmem
  obtain @⟨files, loaded, l, _, rs, hfound, hloads, htemplate, hworks⟩ := hruns
  have hsound := (Works.Sound.start l ⟨Path.ofText out, base, false⟩ loaded.pages d).run rfl
    (order loaded.pages)
  rw [hworks] at hsound
  obtain ⟨-, hloaded⟩ := loadAll_eq_ok_iff.1 hloads
  have hjob : ∀ r : Result, r.isDone = true → r ∈ loaded.failures ++ rs →
      .ended r ∈ rs.map Job.ended := by
    intro r hdone hr
    obtain hr | hr := List.mem_append.1 hr
    · obtain ⟨file, -, hfailure⟩ := List.mem_filterMap.1 (hloaded ▸ hr)
      rw [isDone_of_failure? hfailure] at hdone
      cases hdone
    · exact List.mem_map_of_mem hr
  have hresult : ∀ r : Result, .ended r ∈ rs.map Job.ended → r ∈ loaded.failures ++ rs := by
    intro r hr
    obtain ⟨r', hr', he⟩ := List.mem_map.1 hr
    cases he
    exact List.mem_append_right _ hr'
  have hspec := hsound.isOf _ (hjob _ rfl hmem)
  obtain ⟨hpages, hpath, -⟩ := hspec
  have hholds := hsound.holds spec ⟨path, dryRun, hjob _ rfl hmem⟩
  obtain ⟨owner, ⟨path', dryRun', howner⟩, hname, hholds⟩ :=
    hholds.holdsModule hpages (Path.isNormal_ofText out) hdir
  obtain ⟨hpages', hpath', hdry'⟩ := hsound.isOf _ howner
  -- the owner was written to the same path
  have hsame : path' = path := by
    rw [hpath', hpath, hpages'.modulePath_eq, hpages.modulePath_eq, hname]
  subst hsame
  cases hdry'
  rw [← hpath] at hholds
  obtain ⟨page, hpage, hofPage⟩ := hpages
  obtain ⟨file, hfile, hextract⟩ := List.mem_filterMap.1 (hloaded ▸ hpage)
  obtain ⟨hfiles, hselected⟩ := List.mem_filter.1 hfile
  refine ⟨⟨files, file, page, hfound, hfiles, hselected, extract_of_page? hextract, hofPage⟩, l, ?_, ?_, ?_⟩
  · exact htemplate (List.ne_nil_of_mem hpage)
  · exact ⟨owner, hresult _ howner, hholds⟩
  · intro halone
    rw [halone owner (hresult _ howner)] at hholds
    exact hholds

/-- Both components are written, and one where the other is left out. -/
theorem run_sharing :
    (∃ d' told s, run none (Path.ofText "docs") [] ⟨Path.ofText "out", "B", false⟩ sharing =
        (d', told, .ok s) ∧
      d'.isDirectory (Path.ofText "out") = true ∧ s.results.map Result.component = ["AB", "AB"] ∧
      ∀ r ∈ s.results, r.isDone = true) ∧
    ∃ d' told s, run none (Path.ofText "docs") ["A-B"] ⟨Path.ofText "out", "B", false⟩ sharing =
        (d', told, .ok s) ∧
      s.results.length = 1 :=
  ⟨exists_of_ended (by decide +kernel), exists_of_ended (by decide +kernel)⟩

theorem done_file_holds_module_sharing :
    ∃ d' told s, run none (Path.ofText "docs") [] ⟨Path.ofText "out", "B", false⟩ sharing =
        (d', told, .ok s) ∧
      d'.isDirectory (Path.ofText "out") = true ∧
      ∃ spec path dryRun l, .done spec path dryRun ∈ s.results ∧ layout sharing none = .ok l ∧
        ∃ owner, .done owner path false ∈ s.results ∧ HoldsModule l d' path owner := by
  obtain ⟨d', told, s, hrun, hdir, hcomponents, hdone⟩ := run_sharing.1
  obtain ⟨r, hr, -⟩ : ∃ r ∈ s.results, r.component = "AB" := by
    rw [← List.mem_map, hcomponents]
    exact List.mem_cons_self
  cases r with
  | failed component why => cases hdone _ hr
  | done spec path dryRun =>
    have hmain := done_file_holds_module none (Path.ofText "docs") [] "out" "B" sharing d' s
    obtain ⟨-, l, hlayout, howner, -⟩ := hmain.2 (inTurn 0) (hmain.1.1 ⟨told, hrun⟩)
      (.inl hdir) spec path dryRun hr
    exact ⟨d', told, s, hrun, hdir, spec, path, dryRun, l, hr, hlayout, howner⟩

/-- The file of a component that is reported as written holds its own module. -/
def Result.Kept (d : Disk) : Result → Prop
  | .done spec path _ => HoldsModule (.ok Elixir.standardTemplate) d path spec
  | .failed .. => True

instance (d : Disk) (r : Result) : Decidable (r.Kept d) :=
  match r with
  | .done _ path _ => inferInstanceAs (Decidable (HoldsModule _ d path _))
  | .failed .. => .isTrue trivial

def Result.path? : Result → Option Text
  | .done _ path _ => some path
  | .failed .. => none

/-- Two components written to one path, and a module that replaces a link on the way to the output
directory: in both runs all is reported as written, but one module cannot be read at its path. -/
theorem lost_modules :
    (∃ d told s, run none (Path.ofText "docs") [] ⟨Path.ofText "out", "B", false⟩ sharing = (d, told, .ok s) ∧
      s.results.all Result.isDone = true ∧ ∃ r ∈ s.results, ¬r.Kept d) ∧
    ∃ d told s, run none (Path.ofText "docs") [] ⟨Path.ofText "b.ex/..", "B", false⟩ linkedOutput =
        (d, told, .ok s) ∧
      s.results.all Result.isDone = true ∧ (s.results.filterMap Result.path?).Nodup ∧
      ∃ r ∈ s.results, ¬r.Kept d := by
  refine ⟨exists_of_ended ?_, exists_of_ended ?_⟩
  · decide +kernel
  · decide +kernel

end Componentry.Generation
