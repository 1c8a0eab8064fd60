import Componentry.Proofs.Checkout.Clearing
import Componentry.Settings.Config

/-!
Calls that have the documentation fetched, one after the other, whatever the disk is like and however the
program fares: how each of them ends, what the program finds when it is run, and what else is left alone.
-/
namespace Componentry.Checkout
open Componentry.Files Componentry.Text

/-- On a disk, a program that fails leaves all as it was, and one that succeeds has made the checkout a
directory and has changed nothing outside it. -/
structure Behaves (run : Runner) (base : Path) (d : Disk) : Prop where
  failing : ∀ f, (run d (workDir base) dirName).2 = .error f → (run d (workDir base) dirName).1 = d
  making : (run d (workDir base) dirName).2 = .ok () →
    (run d (workDir base) dirName).1.isDirectory (path base) = true ∧
      (run d (workDir base) dirName).1.cwd = d.cwd ∧
      ∃ c, PlaceAt d base c ∧ ∀ place, Disk.isWithin c place = false →
        (run d (workDir base) dirName).1.get? place = d.get? place

/-- The two ways to ask for the checkout. -/
inductive Ask where
  | ensure
  | clone

def Ask.answer (ask : Ask) (run : Runner) (repository : Text) (base : Path) (d : Disk) : Trace :=
  match ask with
  | .ensure => Checkout.ensure run repository base d
  | .clone => Checkout.clone run repository base d

variable {ask : Ask} {run : Runner} {repository : Text} {base : Path} {d there : Disk} {place : Place}

/-! ### What can be said of one call -/

/-- The base has a null character, or the checkout is looked for along a way with a name too long: once
before anything is made, and once when its directory is there. -/
def Escapes (ask : Ask) (base : Path) (d : Disk) : Prop :=
  base.hasNull = true ∨ (ask = .ensure ∧ d.locate true (path base) = .error .nameTooLong) ∨
    (HasWorkDir base d ∧ (made base d).locate true (path base) = .error .nameTooLong)

/-- An old checkout is removed, and the way to the directory it was in leads over it. -/
def TakesWay (base : Path) (d : Disk) : Prop :=
  (made base d).isDirectory (path base) = true ∧
    ∃ c, PlaceAt (made base d) base c ∧ (made base d).LeadsOver (Disk.isWithin c) (workDir base)

/-- A place that is not in the checkout. -/
def Outside (base : Path) (d : Disk) (place : Place) : Prop :=
  ∀ c, PlaceAt (made base d) base c → Disk.isWithin c place = false

/-- The program is run once, where no checkout is. -/
structure RunsOn (run : Runner) (repository : Text) (base : Path) (d : Disk) (t : Trace) (there : Disk) : Prop where
  prepared : ∃ told, prepare base d = (there, told, .ok ())
  call : t.calls = [⟨args repository dirName, workDir base⟩]
  disk : t.disk = (run there (workDir base) dirName).1
  absent : there.isDirectory (path base) = false
  workDir : there.isDirectory (workDir base) = true ↔ ¬ TakesWay base d

/-- What holds of a call: what it returns, when it escapes, where the program is run, and what it leaves. -/
structure Sound (ask : Ask) (run : Runner) (repository : Text) (base : Path) (d : Disk) (t : Trace) : Prop where
  returns : ∀ p, t.result = .ok p → p = path base ∧ t.disk.isDirectory p = true
  escapes : (∃ c, t.result = .error (.crashed c)) ↔ Escapes ask base d
  runs : t.calls = [] ∨ ∃ there, RunsOn run repository base d t there
  reuses : ask = .ensure → d.directory? (path base) = .ok true →
    t.result = .ok (path base) ∧ t.calls = [] ∧ t.disk = d
  cwd : t.disk.cwd = d.cwd
  leaves : ∀ place, Outside base d place → t.disk.get? place = d.get? place ∨
    (d.get? place = none ∧ t.disk.get? place = some .directory ∧ (made base d).OnWay (workDir base) place)

/-! ### Preparing -/

section Prepared
variable {r : Except Halt Unit} {c : Place}

theorem made_growsAlong (base : Path) (d : Disk) : d.GrowsAlong (workDir base) (made base d) :=
  Disk.makeDirs_growsAlong d (workDir base)

theorem HasWorkDir.isDirectory (h : HasWorkDir base d) : (made base d).isDirectory (workDir base) = true :=
  Disk.isDirectory_of_makeDirs h

theorem PlaceAt.ne_nil (h : PlaceAt d base c) : c ≠ [] := by
  obtain ⟨there, -, rfl⟩ := h
  simp

theorem Prepared.cwd (h : Prepared base d there r) : there.cwd = d.cwd := by
  have hgrows := (made_growsAlong base d).cwd
  cases h with
  | null => rfl
  | parents => exact hgrows
  | tooLong => exact hgrows
  | absent => exact hgrows
  | link => exact hgrows
  | stuck => exact hgrows
  | cleared => exact hgrows

/-- Outside the checkout nothing is prepared but the directory for it. -/
theorem Prepared.get? (h : Prepared base d there r) (hout : Outside base d place) :
    there.get? place = d.get? place ∨ (d.get? place = none ∧ there.get? place = some .directory ∧
      (made base d).OnWay (workDir base) place) := by
  have hgrows := (made_growsAlong base d).get? place
  cases h with
  | null => exact .inl rfl
  | parents => exact hgrows
  | tooLong => exact hgrows
  | absent => exact hgrows
  | link => exact hgrows
  | stuck hnull hmade hpath hplace =>
    rwa [(Disk.without_removeBelow _ _).get? place (Disk.isBelow_eq_false (hout _ hplace))]
  | cleared hnull hmade hpath hplace =>
    rwa [(Disk.without_erase hplace.ne_nil).get? place (hout _ hplace)]

/-- The call breaks off where the path has a null character, or leads over a name too long. -/
theorem Prepared.crashed_iff (h : Prepared base d there r) :
    (∃ c, r = .error (.crashed c)) ↔ base.hasNull = true ∨
      (HasWorkDir base d ∧ (made base d).locate true (path base) = .error .nameTooLong) := by
  have hopen (hnull : base.hasNull = false)
      (hway : HasWorkDir base d → (made base d).locate true (path base) ≠ .error .nameTooLong) :
      ¬(base.hasNull = true ∨ (HasWorkDir base d ∧ (made base d).locate true (path base) = .error .nameTooLong)) := by
    rintro (hsome | ⟨hmade, hlong⟩)
    · rw [hnull] at hsome
      cases hsome
    · exact hway hmade hlong
  have hread {b : Bool} (hnull : base.hasNull = false) (hpath : (made base d).directory? (path base) = .ok b) :=
    hopen hnull fun _ => Disk.locate_ne_of_directory? ((hasNull_path base).trans hnull) hpath
  have hrefused (f : Fault) : ¬∃ c, (.error (.refused f) : Except Halt Unit) = .error (.crashed c) := by
    rintro ⟨c, hc⟩
    cases hc
  have hready : ¬∃ c, (.ok () : Except Halt Unit) = .error (.crashed c) := by
    rintro ⟨c, hc⟩
    cases hc
  cases h with
  | null hnull => exact iff_of_true ⟨_, rfl⟩ (.inl hnull)
  | parents hnull hmade =>
    refine iff_of_false (hrefused _) (hopen hnull fun hall => ?_)
    rw [HasWorkDir, hmade] at hall
    cases hall
  | tooLong hnull hmade hpath =>
    obtain ⟨-, hlong⟩ := Disk.directory?_eq_error_iff.1 ⟨_, hpath⟩
    exact iff_of_true ⟨_, rfl⟩ (.inr ⟨hmade, hlong⟩)
  | absent hnull hmade hpath => exact iff_of_false hready (hread hnull hpath)
  | link hnull hmade hpath => exact iff_of_false (hrefused _) (hread hnull hpath)
  | stuck hnull hmade hpath => exact iff_of_false (hrefused _) (hread hnull hpath)
  | cleared hnull hmade hpath => exact iff_of_false hready (hread hnull hpath)

/-- The checkout is made where it was looked for. -/
theorem Prepared.placeAt (h : Prepared base d there (.ok ())) (hplace : PlaceAt there base c) :
    PlaceAt (made base d) base c := by
  cases h with
  | absent => exact hplace
  | cleared hnull hmade hpath hold => exact hplace.of_without (Disk.without_erase hold.ne_nil)

/-- Where the program is to be run there is no checkout, and its directory is still led to unless the
way led over what was removed. -/
theorem Prepared.ready (h : Prepared base d there (.ok ())) :
    there.isDirectory (path base) = false ∧
      (there.isDirectory (workDir base) = true ↔ ¬ TakesWay base d) := by
  cases h with
  | absent hnull hmade hpath =>
    have hnone := Disk.isDirectory_eq_false_of_directory? ((hasNull_path base).trans hnull) hpath
    refine ⟨hnone, fun _ htakes => ?_, fun _ => hmade.isDirectory⟩
    rw [htakes.1] at hnone
    cases hnone
  | @cleared c hnull hmade hpath hplace =>
    have hwithout := Disk.without_erase (d := made base d) hplace.ne_nil
    obtain ⟨q, hway, hq⟩ := Disk.exists_directory_of_isDirectory hmade.isDirectory
    obtain rfl := PlaceAt.unique hplace ⟨q, hway, rfl⟩
    refine ⟨?_, ?_⟩
    · rw [path_eq]
      refine Disk.isDirectory_child_eq_false dirName_ne_dots fun q' hway' => ?_
      rw [Except.ok.inj ((hwithout.descendTo_ok hway').symm.trans hway)]
      exact hwithout.gone _ (Disk.isWithin_self _)
    · rw [hwithout.isDirectory_iff hway hq (Disk.isWithin_concat q dirName)]
      refine not_congr ?_
      constructor
      · exact fun hover => ⟨Disk.isDirectory_of_directory? hpath, _, hplace, hover⟩
      · rintro ⟨-, c, hplace', hover⟩
        rwa [hplace.unique hplace'] at hover

end Prepared

/-! ### One call -/

theorem clone_of_halt {told : List Notice} {h : Halt} (hprepare : prepare base d = (there, told, .error h)) :
    clone run repository base d = ⟨there, told, [], .error h⟩ := by
  rw [clone, hprepare]

/-- Once all is prepared the program is run, and the call fares as it does. -/
theorem clone_of_ready (run : Runner) (repository : Text) {told : List Notice} (hprepare : prepare base d = (there, told, .ok ())) :
    (clone run repository base d).disk = (run there (workDir base) dirName).1 ∧
      (clone run repository base d).calls = [⟨args repository dirName, workDir base⟩] ∧
      (clone run repository base d).result =
        match (run there (workDir base) dirName).2 with
        | .error f => .error (.refused f)
        | .ok () => .ok (path base) := by
  rw [clone, hprepare]
  dsimp only
  rw [fetch, name_path, ← workDir]
  rcases hrun : run there (workDir base) dirName with ⟨d', f | ⟨⟩⟩
  · exact ⟨rfl, rfl, rfl⟩
  · exact ⟨rfl, rfl, rfl⟩

theorem escapes_clone_iff : Escapes .clone base d ↔ base.hasNull = true ∨
    (HasWorkDir base d ∧ (made base d).locate true (path base) = .error .nameTooLong) := by
  simp [Escapes]

theorem sound_clone (hrun : Behaves run base (prepare base d).1) (repository : Text) :
    Sound .clone run repository base d (clone run repository base d) := by
  have hprepared := prepared base d
  rcases hprepare : prepare base d with ⟨there, told, halt | ⟨⟩⟩
  · rw [hprepare] at hprepared
    rw [clone_of_halt hprepare]
    exact {
      returns := nofun
      escapes := by
        rw [escapes_clone_iff, ← hprepared.crashed_iff]
        simp
      runs := .inl rfl
      reuses := nofun
      cwd := hprepared.cwd
      leaves := fun _ => hprepared.get? }
  · rw [hprepare] at hprepared hrun
    obtain ⟨hdisk, hcalls, hresult⟩ := clone_of_ready run repository hprepare
    have hruns : RunsOn run repository base d (clone run repository base d) there :=
      ⟨⟨told, hprepare⟩, hcalls, hdisk, hprepared.ready.1, hprepared.ready.2⟩
    have hread : ¬ Escapes .clone base d := by
      rw [escapes_clone_iff, ← hprepared.crashed_iff]
      simp
    cases hfares : (run there (workDir base) dirName).2 with
    | error f =>
      rw [hfares] at hresult
      have hsame : (clone run repository base d).disk = there := hdisk.trans (hrun.failing f hfares)
      exact {
        returns := by
          rw [hresult]
          exact nofun
        escapes := by
          rw [hresult]
          exact ⟨nofun, fun hescapes => absurd hescapes hread⟩
        runs := .inr ⟨there, hruns⟩
        reuses := nofun
        cwd := by rw [hsame, hprepared.cwd]
        leaves := by
          rw [hsame]
          exact fun _ => hprepared.get? }
    | ok _ =>
      rw [hfares] at hresult
      obtain ⟨hdir, hcwd, c, hplace, hkeeps⟩ := hrun.making hfares
      rw [← hdisk] at hdir hcwd hkeeps
      exact {
        returns := by
          intro p hp
          rw [hresult] at hp
          cases hp
          exact ⟨rfl, hdir⟩
        escapes := by
          rw [hresult]
          exact ⟨nofun, fun hescapes => absurd hescapes hread⟩
        runs := .inr ⟨there, hruns⟩
        reuses := nofun
        cwd := hcwd.trans hprepared.cwd
        leaves := by
          intro place hout
          rw [hkeeps place (hout c (hprepared.placeAt hplace))]
          exact hprepared.get? hout }

/-- A checkout that is there is found without anything in the way. -/
theorem not_escapes_of_directory? (h : d.directory? (path base) = .ok true) : ¬ Escapes .ensure base d := by
  have hnull := Disk.hasNull_of_directory? h
  obtain ⟨c, hlocate⟩ := Disk.exists_of_isDirectory (Disk.isDirectory_of_directory? h)
  rintro (hsome | ⟨-, hlong⟩ | ⟨-, hlong⟩)
  · rw [← hasNull_path, hnull] at hsome
    cases hsome
  · exact Disk.locate_ne_of_directory? hnull h hlong
  · rw [(made_growsAlong base d).grows.locate_found hlocate] at hlong
    cases hlong

theorem escapes_ensure_iff (h : d.directory? (path base) = .ok false) :
    Escapes .ensure base d ↔ Escapes .clone base d := by
  constructor
  · rintro (hnull | ⟨-, hlong⟩ | hmade)
    · exact .inl hnull
    · by_cases hnull : base.hasNull = true
      · exact .inl hnull
      · rw [Bool.not_eq_true, ← hasNull_path] at hnull
        exact absurd hlong (Disk.locate_ne_of_directory? hnull h)
    · exact .inr (.inr hmade)
  · rintro (hnull | ⟨hask, -⟩ | hmade)
    · exact .inl hnull
    · cases hask
    · exact .inr (.inr hmade)

theorem sound_ensure (hrun : Behaves run base (prepare base d).1) (repository : Text) :
    Sound .ensure run repository base d (ensure run repository base d) := by
  rw [ensure]
  cases hpath : d.directory? (path base) with
  | error e =>
    obtain ⟨-, hlong⟩ := Disk.directory?_eq_error_iff.1 ⟨e, hpath⟩
    exact {
      returns := nofun
      escapes := iff_of_true ⟨_, rfl⟩ (.inr (.inl ⟨rfl, hlong⟩))
      runs := .inl rfl
      reuses := by
        intro _ hthere
        rw [hpath] at hthere
        cases hthere
      cwd := rfl
      leaves := fun _ _ => .inl rfl }
  | ok there =>
    cases there with
    | true =>
      exact {
        returns := by
          intro p hp
          cases hp
          exact ⟨rfl, Disk.isDirectory_of_directory? hpath⟩
        escapes := ⟨nofun, fun hescapes => absurd hescapes (not_escapes_of_directory? hpath)⟩
        runs := .inl rfl
        reuses := fun _ _ => ⟨rfl, rfl, rfl⟩
        cwd := rfl
        leaves := fun _ _ => .inl rfl }
    | false =>
      have hclone := sound_clone hrun repository
      exact {
        returns := hclone.returns
        escapes := hclone.escapes.trans (escapes_ensure_iff hpath).symm
        runs := hclone.runs
        reuses := by
          intro _ hthere
          rw [hpath] at hthere
          cases hthere
        cwd := hclone.cwd
        leaves := hclone.leaves }

theorem sound_answer (hrun : Behaves run base (prepare base d).1) (ask : Ask) (repository : Text) :
    Sound ask run repository base d (ask.answer run repository base d) := by
  cases ask with
  | ensure => exact sound_ensure hrun repository
  | clone => exact sound_clone hrun repository

/-! ### Calls in a row -/

/-- A call, the program that it has run, and the disk it finds. -/
structure Visit where
  ask : Ask
  run : Runner
  before : Disk

/-- How the call goes on the disk it finds. -/
def Visit.answer (repository : Text) (base : Path) (v : Visit) : Trace :=
  v.ask.answer v.run repository base v.before

def visits (repository : Text) (base : Path) : Disk → List (Ask × Runner) → List Visit
  | _, [] => []
  | d, (ask, run) :: rest => ⟨ask, run, d⟩ :: visits repository base (ask.answer run repository base d).disk rest

/-- The disk after all calls. -/
def afterAll (repository : Text) (base : Path) : Disk → List (Ask × Runner) → Disk
  | d, [] => d
  | d, (ask, run) :: rest => afterAll repository base (ask.answer run repository base d).disk rest

section Visits
variable {calls : List (Ask × Runner)} {v : Visit}

/-- The programs behave on the disks on which they are run. -/
def AllBehave (repository : Text) (base : Path) (d : Disk) (calls : List (Ask × Runner)) : Prop :=
  ∀ v ∈ visits repository base d calls, Behaves v.run base (prepare base v.before).1

theorem get?_afterAll (h : AllBehave repository base d calls)
    (hout : ∀ v ∈ visits repository base d calls, Outside base v.before place) :
    (afterAll repository base d calls).get? place = d.get? place ∨
      (d.get? place = none ∧ (afterAll repository base d calls).get? place = some .directory) := by
  induction calls generalizing d with
  | nil => exact .inl rfl
  | cons call rest ih =>
    obtain ⟨ask, run⟩ := call
    obtain ⟨hrun, hrest⟩ := List.forall_mem_cons.1 h
    obtain ⟨hhere, hlater⟩ := List.forall_mem_cons.1 hout
    have hstep := (sound_answer hrun ask repository).leaves place hhere
    have hothers := ih hrest hlater
    rw [afterAll]
    rcases hstep with hsame | ⟨hnone, hdir, -⟩
    · rwa [hsame] at hothers
    · rcases hothers with hkept | ⟨hgone, -⟩
      · exact .inr ⟨hnone, hkept.trans hdir⟩
      · rw [hdir] at hgone
        cases hgone

/-- Whatever the disk and the calls: each call returns the checkout, which is a directory then, or refuses,
or escapes, and that exactly where a name too long or a null character is in the way. The program is run
where no checkout is, and in a directory that is there unless the old checkout was on the way to it. A
checkout that is there is reused. Places outside the checkout stay as they are, but for new directories on
the way to it. -/
theorem visits_sound (repository : Text) (base : Path) (d : Disk) (h : AllBehave repository base d calls) :
    (∀ v ∈ visits repository base d calls,
      Sound v.ask v.run repository base v.before (v.answer repository base)) ∧
    ∀ place, (∀ v ∈ visits repository base d calls, Outside base v.before place) →
      (afterAll repository base d calls).get? place = d.get? place ∨
        (d.get? place = none ∧ (afterAll repository base d calls).get? place = some .directory) :=
  ⟨fun v hv => sound_answer (h v hv) v.ask repository, fun _ => get?_afterAll h⟩

end Visits

/-! ### Programs that behave, and calls that do not -/

theorem behaves_missing (base : Path) (d : Disk) : Behaves Outcome.missing.apply base d :=
  ⟨fun _ _ => rfl, nofun⟩

theorem behaves_exit (code : Int) (base : Path) (d : Disk) : Behaves (Outcome.exit code).apply base d :=
  ⟨fun _ _ => rfl, nofun⟩

/-- A program that makes the directory of the checkout and nothing in it. -/
theorem behaves_success_nil (base : Path) (d : Disk) : Behaves (Outcome.success []).apply base d := by
  cases hmake : d.makeDir ((workDir base).child dirName) with
  | error e =>
    have hrun : (Outcome.success []).apply d (workDir base) dirName = (d, .error (.failed e)) := by
      simp only [Outcome.apply, hmake]
    refine ⟨fun _ _ => ?_, fun hok => ?_⟩
    · rw [hrun]
    · rw [hrun] at hok
      cases hok
  | ok d' =>
    have hrun : (Outcome.success []).apply d (workDir base) dirName = (d', .ok ()) := by
      simp only [Outcome.apply, hmake, putFiles, List.foldl_nil]
    refine ⟨fun f hf => ?_, fun _ => ?_⟩
    · rw [hrun] at hf
      cases hf
    · rw [hrun, path_eq]
      refine ⟨Disk.isDirectory_of_makeDir hmake, (Disk.GrowsAlong.of_makeDir hmake).cwd, ?_⟩
      rw [Disk.makeDir] at hmake
      split at hmake
      · cases hmake
      · cases hmake
      · next c hlocate =>
        cases hmake
        refine ⟨c, Disk.locate_child_free dirName_ne_dots hlocate, fun place hout => Disk.get?_put_of_ne ?_⟩
        rintro rfl
        rw [Disk.isWithin_self] at hout
        cases hout

/-- A first checkout, one that is reused, and one that is removed and not made anew. -/
def refetching : List (Ask × Runner) :=
  [(.clone, (Outcome.success []).apply), (.ensure, Outcome.missing.apply), (.clone, (Outcome.exit 128).apply)]

def bare : Disk := ⟨[], [], "/"⟩

theorem visits_sound_refetching :
    AllBehave Settings.defaultRepository (Path.ofText "b") bare refetching ∧
    ∀ v ∈ visits Settings.defaultRepository (Path.ofText "b") bare refetching,
      Sound v.ask v.run Settings.defaultRepository (Path.ofText "b") v.before
        (v.answer Settings.defaultRepository (Path.ofText "b")) := by
  have hbehave : AllBehave Settings.defaultRepository (Path.ofText "b") bare refetching :=
    List.forall_mem_cons.2 ⟨behaves_success_nil _ _, List.forall_mem_cons.2 ⟨behaves_missing _ _,
      List.forall_mem_cons.2 ⟨behaves_exit _ _ _, List.forall_mem_nil _⟩⟩⟩
  exact ⟨hbehave, (visits_sound _ _ _ hbehave).1⟩

/-- At one place a link that leads over a name too long, at another a checkout. -/
def linked : Disk where
  entries := [(["b"], .directory), (["b", "tmp"], .directory),
    (["b", "tmp", "daisyui"], .link (List.replicate 300 'x')),
    (["c"], .directory), (["c", "tmp"], .directory), (["c", "tmp", "daisyui"], .directory)]
  cwd := []
  home := "/"

set_option maxRecDepth 4000 in
/-- Both ways to ask escape where the checkout is a link over a name too long, and for a base with such a
name one escapes while the other refuses. Where the base leads over the old checkout, the program is run in
a directory that is not led to any more. -/
theorem calls_broken :
    (∀ ask : Ask, (ask.answer Outcome.missing.apply Settings.defaultRepository (Path.ofText "b") linked).result =
      .error (.crashed (.file ⟨.nameTooLong, "b/tmp/daisyui", none⟩))) ∧
    (ensure Outcome.missing.apply Settings.defaultRepository ⟨[], [List.replicate 300 'x']⟩ bare).result =
      .error (.crashed (.file ⟨.nameTooLong, List.replicate 300 'x' ++ "/tmp/daisyui", none⟩)) ∧
    (clone Outcome.missing.apply Settings.defaultRepository ⟨[], [List.replicate 300 'x']⟩ bare).result =
      .error (.refused (.parents ⟨.nameTooLong, List.replicate 300 'x' ++ "/tmp", none⟩)) ∧
    (clone Outcome.missing.apply Settings.defaultRepository (Path.ofText "c/tmp/daisyui/../..") linked).calls =
      [⟨args Settings.defaultRepository dirName, workDir (Path.ofText "c/tmp/daisyui/../..")⟩] ∧
    (prepare (Path.ofText "c/tmp/daisyui/../..") linked).1.isDirectory
      (workDir (Path.ofText "c/tmp/daisyui/../..")) = false := by
  refine ⟨?_, by rfl, by rfl, by decide +kernel, by decide +kernel⟩
  rintro (_ | _)
  · rfl
  · rfl

end Componentry.Checkout
