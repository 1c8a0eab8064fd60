import Componentry.Proofs.Component.FileName
import Componentry.Proofs.Files.Keeping
import Componentry.Proofs.Generation.Workers

/-!
What holds at every turn of a run: jobs are about the pages, unfinished files are apart from modules and
from each other, and what was written stays.
-/
namespace Componentry.Generation
open Componentry.Component Componentry.Document Componentry.Files Componentry.Text

variable {l : Layout} {plan : Plan} {pages : List Page}

/-! ### Places of modules -/

def moduleFile (spec : Spec) : Text := spec.fileName ++ (".ex" : Text)

def IsModulePlace (place : Place) : Prop := ∃ there s, place = there ++ [s ++ (".ex" : Text)]

theorem isModulePlace_append (there : Place) (spec : Spec) :
    IsModulePlace (there ++ [moduleFile spec]) := ⟨there, spec.fileName, rfl⟩

theorem append_ex_eq (s : Text) : s ++ (".ex" : Text) = (s ++ ['.', 'e']) ++ ['x'] := by
  rw [List.append_assoc]
  rfl

theorem moduleFile_ne (spec : Spec) {s : Text} (h : s.getLast? ≠ some 'x') : moduleFile spec ≠ s := by
  intro he
  subst he
  rw [moduleFile, append_ex_eq, List.getLast?_concat] at h
  exact h rfl

theorem moduleFile_ne_dots (spec : Spec) : moduleFile spec ≠ (".." : Text) :=
  moduleFile_ne spec (by decide)

theorem isPart_moduleFile (spec : Spec) : Path.isPart (moduleFile spec) = true := by
  have hempty := @moduleFile_ne spec [] (by decide)
  have hdot := @moduleFile_ne spec ['.'] (by decide)
  simp [Path.isPart, hempty, hdot]

/-- Unfinished files are in other places than modules. -/
theorem not_isModulePlace_temporary (there : Place) (name : Text) (n : Nat) :
    ¬IsModulePlace (there ++ [Disk.temporaryName name n]) := by
  intro hmodule
  obtain ⟨there', s, he⟩ := hmodule
  have hname := (List.append_singleton_inj.1 he).2
  rw [append_ex_eq] at hname
  exact Disk.temporaryName_ne_append name n _ rfl hname

theorem slash_not_mem_moduleFile (base : Text) (page : Page) :
    '/' ∉ moduleFile (Spec.ofPage base page) := by
  intro hin
  obtain hin | hin := List.mem_append.1 hin
  · exact slash_not_mem_fileName base page hin
  · exact absurd hin (by decide)

theorem modulePath_ofPage (page : Page) :
    modulePath plan (Spec.ofPage plan.base page) =
      plan.outputDir.child (moduleFile (Spec.ofPage plan.base page)) :=
  Path.join_name plan.outputDir (isPart_moduleFile _) (slash_not_mem_moduleFile plan.base page)

/-! ### What each job is about -/

/-- A specification of one of the pages. -/
def IsOfPages (plan : Plan) (pages : List Page) (spec : Spec) : Prop :=
  ∃ page ∈ pages, spec = Spec.ofPage plan.base page

theorem IsOfPages.modulePath_eq {spec : Spec} (h : IsOfPages plan pages spec) :
    modulePath plan spec = plan.outputDir.child (moduleFile spec) := by
  obtain ⟨page, -, rfl⟩ := h
  exact modulePath_ofPage page

def Job.IsOf (l : Layout) (plan : Plan) (pages : List Page) : Job → Prop
  | .waiting page => page ∈ pages
  | .ready spec code => IsOfPages plan pages spec ∧ renderWith l spec = .ok code
  | .unfinished spec code _ _ => IsOfPages plan pages spec ∧ renderWith l spec = .ok code
  | .ended (.done spec path dryRun) =>
    IsOfPages plan pages spec ∧ path = (modulePath plan spec).toText ∧ dryRun = plan.dryRun
  | .ended (.failed ..) => True

def Job.IsOpen : Job → Prop
  | .ended _ => False
  | _ => True

/-- A job that has neither an unfinished file nor a module. -/
def Job.IsBare : Job → Prop
  | .waiting _ => True
  | .ready .. => True
  | .unfinished .. => False
  | .ended (.done ..) => False
  | .ended (.failed ..) => True

/-! ### The invariant -/

/-- A job that ended well. -/
def Works.Done (w : Works) (spec : Spec) : Prop :=
  ∃ path dryRun, .ended (.done spec path dryRun) ∈ w.jobs

/-- The file of a specification holds the module of one that was written there. The directory it is in
is where the output directory was at some time before. -/
def Works.Holds (l : Layout) (plan : Plan) (first : Disk) (w : Works) (spec : Spec) : Prop :=
  ∃ owner code d there, w.Done owner ∧ moduleFile owner = moduleFile spec ∧
    renderWith l owner = .ok code ∧ first.Keeps IsModulePlace d ∧ d.Keeps IsModulePlace w.disk ∧
    d.descendTo plan.outputDir = .ok there ∧
    (encode (moduleFile spec)).length ≤ Disk.longestName ∧
    w.disk.get? (there ++ [moduleFile spec]) = some (.file (encode code))

structure Works.Sound (l : Layout) (plan : Plan) (pages : List Page) (first : Disk) (w : Works) :
    Prop where
  keeps : first.Keeps IsModulePlace w.disk
  isOf : ∀ j ∈ w.jobs, j.IsOf l plan pages
  unfinished : ∀ (i : Nat) spec code place shown,
    w.jobs[i]? = some (.unfinished spec code place shown) →
      w.disk.get? place = some (.file (encode code)) ∧ ¬IsModulePlace place
  apart : ∀ (i k : Nat) spec code place shown spec' code' shown',
    w.jobs[i]? = some (.unfinished spec code place shown) →
      w.jobs[k]? = some (.unfinished spec' code' place shown') → i = k
  holds : ∀ spec, w.Done spec → w.Holds l plan first spec

/-! ### One turn -/

section Turn
variable {w : Works} {i : Nat} {j j' : Job} {first d : Disk}

theorem mem_set_of_mem {jobs : List Job} {x : Job} (hj : jobs[i]? = some j) (hx : x ∈ jobs)
    (hne : x ≠ j) : x ∈ jobs.set i j' := by
  obtain ⟨k, hk⟩ := List.mem_iff_getElem?.1 hx
  have hki : i ≠ k := by
    intro he
    subst he
    rw [hj] at hk
    exact hne (Option.some.inj hk).symm
  exact List.mem_iff_getElem?.2 ⟨k, by rw [List.getElem?_set_ne hki, hk]⟩

theorem getElem?_set_cases {jobs : List Job} {k : Nat} {x : Job} (h : (jobs.set i j')[k]? = some x) :
    (k = i ∧ j' = x) ∨ (k ≠ i ∧ jobs[k]? = some x) := by
  by_cases hki : k = i
  · subst hki
    rw [List.getElem?_set] at h
    by_cases hlength : k < jobs.length
    · exact .inl ⟨rfl, by simpa [hlength] using h⟩
    · simp [hlength] at h
  · rw [List.getElem?_set_ne (Ne.symm hki)] at h
    exact .inr ⟨hki, h⟩

/-- The jobs that are done stay done if the one that goes on was not. -/
theorem Works.Done.set {spec : Spec} (h : w.Done spec) (hj : w.jobs[i]? = some j)
    (hopen : j.IsOpen) : Works.Done ⟨d, w.jobs.set i j'⟩ spec := by
  obtain ⟨path, dryRun, hmem⟩ := h
  refine ⟨path, dryRun, mem_set_of_mem hj hmem ?_⟩
  intro he
  subst he
  exact hopen

/-- What a component's file holds is still there if the files in places of modules are. -/
theorem Works.Holds.set {spec : Spec} (h : w.Holds l plan first spec) (hj : w.jobs[i]? = some j)
    (hopen : j.IsOpen) (hkeeps : w.disk.Keeps IsModulePlace d)
    (hsame : ∀ place, IsModulePlace place → d.get? place = w.disk.get? place ∨ w.disk.get? place = none) :
    Works.Holds l plan first ⟨d, w.jobs.set i j'⟩ spec := by
  obtain ⟨owner, code, before, there, hdone, hfile, hcode, hfirst, hbefore, hway, hshort, hget⟩ := h
  refine ⟨owner, code, before, there, hdone.set hj hopen, hfile, hcode, hfirst,
    hbefore.trans hkeeps, hway, hshort, ?_⟩
  obtain hsame | hnone := hsame _ (isModulePlace_append there spec)
  · dsimp only
    rw [hsame, hget]
  · rw [hget] at hnone
    cases hnone

/-- The invariant after a job went on: what is to be shown of the new state of that job, of the
unfinished files of the others, and of the components that are done. -/
theorem Works.Sound.set (h : w.Sound l plan pages first) (hkeeps : w.disk.Keeps IsModulePlace d)
    (hisOf : j'.IsOf l plan pages)
    (hothers : ∀ (k : Nat) spec code place shown, k ≠ i →
      w.jobs[k]? = some (.unfinished spec code place shown) → d.get? place = w.disk.get? place)
    (hnew : ∀ spec code place shown, j' = .unfinished spec code place shown →
      d.get? place = some (.file (encode code)) ∧ ¬IsModulePlace place ∧ w.disk.get? place = none)
    (hholds : ∀ spec, Works.Done ⟨d, w.jobs.set i j'⟩ spec →
      Works.Holds l plan first ⟨d, w.jobs.set i j'⟩ spec) :
    Works.Sound l plan pages first ⟨d, w.jobs.set i j'⟩ where
  keeps := h.keeps.trans hkeeps
  isOf := by
    intro x hx
    obtain hx | rfl := List.mem_or_eq_of_mem_set hx
    · exact h.isOf x hx
    · exact hisOf
  unfinished := by
    intro k spec code place shown hk
    dsimp only at hk
    obtain ⟨-, hj'⟩ | ⟨hki, hk⟩ := getElem?_set_cases hk
    · obtain ⟨hfile, hplace, -⟩ := hnew spec code place shown hj'
      exact ⟨hfile, hplace⟩
    · obtain ⟨hfile, hplace⟩ := h.unfinished k spec code place shown hk
      exact ⟨(hothers k spec code place shown hki hk).trans hfile, hplace⟩
  apart := by
    intro k m spec code place shown spec' code' shown' hk hm
    obtain ⟨hki, hj'⟩ | ⟨-, hold⟩ := getElem?_set_cases hk
    · obtain ⟨hmi, -⟩ | ⟨-, hold⟩ := getElem?_set_cases hm
      · rw [hki, hmi]
      · -- an unfinished file of another job is not in a free place
        have hfree := (hnew spec code place shown hj').2.2
        rw [(h.unfinished m spec' code' place shown' hold).1] at hfree
        cases hfree
    · obtain ⟨-, hj'⟩ | ⟨-, hold'⟩ := getElem?_set_cases hm
      · have hfree := (hnew spec' code' place shown' hj').2.2
        rw [(h.unfinished k spec code place shown hold).1] at hfree
        cases hfree
      · exact h.apart k m spec code place shown spec' code' shown' hold hold'
  holds := hholds

/-- A turn that makes at most some directories, after which the job is not done and has no unfinished
file. -/
theorem Works.Sound.set_of_grows (h : w.Sound l plan pages first) (hj : w.jobs[i]? = some j)
    (hopen : j.IsOpen) (hgrows : w.disk.Grows d) (hisOf : j'.IsOf l plan pages)
    (hbare : j'.IsBare) :
    Works.Sound l plan pages first ⟨d, w.jobs.set i j'⟩ := by
  refine h.set (.of_grows hgrows) hisOf ?_ ?_ ?_
  · intro k spec code place shown _ hk
    have hget := (h.unfinished k spec code place shown hk).1
    rw [hget, hgrows.of_some hget]
  · intro spec code place shown he
    subst he
    exact absurd hbare id
  · intro spec hdone
    obtain ⟨path, dryRun, hmem⟩ := hdone
    obtain hmem | he := List.mem_or_eq_of_mem_set hmem
    · refine (h.holds spec ⟨path, dryRun, hmem⟩).set hj hopen (.of_grows hgrows) ?_
      intro place _
      obtain hsame | ⟨hnone, -⟩ := hgrows.get? place
      · exact .inl hsame
      · exact .inr hnone
    · subst he
      exact absurd hbare id

/-- A new unfinished file. -/
theorem Works.Sound.set_unfinished (h : w.Sound l plan pages first) {spec : Spec} {code : Text}
    (hj : w.jobs[i]? = some (.ready spec code)) {place : Place} {shown : Path}
    (hfree : w.disk.get? place = none) (hplace : ¬IsModulePlace place) :
    Works.Sound l plan pages first ⟨w.disk.put place (.file (encode code)),
      w.jobs.set i (.unfinished spec code place shown)⟩ := by
  have hisOf := h.isOf _ (List.mem_of_getElem? hj)
  refine h.set (.put_free hfree _) hisOf ?_ ?_ ?_
  · intro k spec' code' place' shown' _ hk
    refine Disk.get?_put_of_ne ?_
    intro he
    subst he
    rw [(h.unfinished k spec' code' place' shown' hk).1] at hfree
    cases hfree
  · intro spec' code' place' shown' he
    cases he
    exact ⟨Disk.get?_put_self (Disk.place_ne_nil_of_free hfree), hplace, hfree⟩
  · intro spec' hdone
    obtain ⟨path, dryRun, hmem⟩ := hdone
    obtain hmem | he := List.mem_or_eq_of_mem_set hmem
    · refine (h.holds spec' ⟨path, dryRun, hmem⟩).set hj trivial (.put_free hfree _) ?_
      intro other hother
      refine .inl (Disk.get?_put_of_ne ?_)
      intro he
      subst he
      exact hplace hother
    · cases he

/-- An unfinished file that could not be moved goes. -/
theorem Works.Sound.set_given_up (h : w.Sound l plan pages first) {spec : Spec} {code : Text} {place : Place}
    {shown : Path} (hj : w.jobs[i]? = some (.unfinished spec code place shown)) (name : Text)
    (why : Reason) :
    Works.Sound l plan pages first ⟨w.disk.erase place, w.jobs.set i (.ended (.failed name why))⟩ := by
  obtain ⟨hfile, hplace⟩ := h.unfinished i spec code place shown hj
  refine h.set (.erase_file hfile hplace) trivial ?_ (fun _ _ _ _ he => by cases he) ?_
  · intro k spec' code' place' shown' hki hk
    refine Disk.get?_erase_of_ne ?_
    intro he
    subst he
    exact hki (h.apart k i _ _ _ _ _ _ _ hk hj)
  · intro spec' hdone
    obtain ⟨path, dryRun, hmem⟩ := hdone
    obtain hmem | he := List.mem_or_eq_of_mem_set hmem
    · refine (h.holds spec' ⟨path, dryRun, hmem⟩).set hj trivial (.erase_file hfile hplace) ?_
      intro other hother
      refine .inl (Disk.get?_erase_of_ne ?_)
      intro he
      subst he
      exact hplace hother
    · cases he

/-- A module comes to its place, over whatever was there. -/
theorem Works.Sound.set_done (h : w.Sound l plan pages first) {spec : Spec} {code : Text} {place there : Place}
    {shown : Path} (hj : w.jobs[i]? = some (.unfinished spec code place shown))
    (hway : w.disk.descendTo plan.outputDir = .ok there)
    (hshort : (encode (moduleFile spec)).length ≤ Disk.longestName)
    (hdir : w.disk.get? (there ++ [moduleFile spec]) ≠ some .directory) :
    Works.Sound l plan pages first
      ⟨(w.disk.erase place).put (there ++ [moduleFile spec]) (.file (encode code)),
        w.jobs.set i (.ended (.done spec (modulePath plan spec).toText plan.dryRun))⟩ := by
  obtain ⟨hfile, hplace⟩ := h.unfinished i spec code place shown hj
  obtain ⟨hspec, hcode⟩ := h.isOf _ (List.mem_of_getElem? hj)
  have hmodule := isModulePlace_append there spec
  have hne : ∀ other, IsModulePlace other → other ≠ place := by
    intro other hother he
    subst he
    exact hplace hother
  have hkeeps : w.disk.Keeps IsModulePlace
      ((w.disk.erase place).put (there ++ [moduleFile spec]) (.file (encode code))) := by
    refine (Disk.Keeps.erase_file hfile hplace).trans (.put_file ?_ hmodule _)
    rw [Disk.get?_erase_of_ne (hne _ hmodule)]
    exact hdir
  have hthere : ((w.disk.erase place).put (there ++ [moduleFile spec]) (.file (encode code))).get?
      (there ++ [moduleFile spec]) = some (.file (encode code)) := Disk.get?_put_self (by simp)
  have hnow : Works.Done
      ⟨(w.disk.erase place).put (there ++ [moduleFile spec]) (.file (encode code)),
        w.jobs.set i (.ended (.done spec (modulePath plan spec).toText plan.dryRun))⟩ spec := by
    refine ⟨(modulePath plan spec).toText, plan.dryRun, List.mem_iff_getElem?.2 ⟨i, ?_⟩⟩
    exact List.getElem?_set_self (List.getElem?_eq_some_iff.1 hj).1
  refine h.set hkeeps ⟨hspec, rfl, rfl⟩ ?_ (fun _ _ _ _ he => by cases he) ?_
  · intro k spec' code' place' shown' hki hk
    obtain ⟨-, hplace'⟩ := h.unfinished k spec' code' place' shown' hk
    rw [Disk.get?_put_of_ne, Disk.get?_erase_of_ne]
    · intro he
      subst he
      exact hki (h.apart k i _ _ _ _ _ _ _ hk hj)
    · intro he
      subst he
      exact hplace' hmodule
  · intro spec' hdone
    obtain ⟨path, dryRun, hmem⟩ := hdone
    obtain hmem | he := List.mem_or_eq_of_mem_set hmem
    · obtain ⟨owner, code', before, there', hdone, hname, hcode', hfirst, hbefore, hway', hshort', hget⟩ :=
        h.holds spec' ⟨path, dryRun, hmem⟩
      have hsame : there' = there := hbefore.descendTo_eq hway' hway
      subst hsame
      by_cases hcollide : moduleFile spec = moduleFile spec'
      · exact ⟨spec, code, w.disk, there', hnow, hcollide, hcode, h.keeps, hkeeps, hway, hshort',
          hcollide ▸ hthere⟩
      · refine ⟨owner, code', before, there', hdone.set hj trivial, hname, hcode', hfirst,
          hbefore.trans hkeeps, hway', hshort', ?_⟩
        dsimp only
        rw [Disk.get?_put_of_ne, Disk.get?_erase_of_ne (hne _ (isModulePlace_append _ _)), hget]
        intro he
        exact hcollide (List.append_singleton_inj.1 he).2.symm
    · cases he
      exact ⟨spec, code, w.disk, there, hnow, rfl, hcode, h.keeps, hkeeps, hway, hshort, hthere⟩

theorem Works.Sound.step (h : w.Sound l plan pages first) (hdry : plan.dryRun = false) (i : Nat) :
    (w.step l plan i).Sound l plan pages first := by
  cases hj : w.jobs[i]? with
  | none =>
    rw [Works.step_of_none hj]
    exact h
  | some j =>
    have hisOf := h.isOf j (List.mem_of_getElem? hj)
    cases j with
    | waiting page =>
      have hspec : IsOfPages plan pages (Spec.ofPage plan.base page) := ⟨page, hisOf, rfl⟩
      cases hcode : renderWith l (Spec.ofPage plan.base page) with
      | error f =>
        rw [Works.step_of_turn hj (by simp only [Job.turn, hcode]; rfl)]
        exact h.set_of_grows hj trivial (.refl _) trivial trivial
      | ok code =>
        have hgrows := w.disk.makeDirs_grows (modulePath plan (Spec.ofPage plan.base page)).parent
        rcases hdirs : w.disk.makeDirs (modulePath plan (Spec.ofPage plan.base page)).parent with ⟨d, none | e⟩
        · rw [hdirs] at hgrows
          rw [Works.step_of_turn hj (by simp only [Job.turn, hcode, hdry, hdirs]; rfl)]
          exact h.set_of_grows hj trivial hgrows ⟨hspec, hcode⟩ trivial
        · rw [hdirs] at hgrows
          rw [Works.step_of_turn hj (by simp only [Job.turn, hcode, hdry, hdirs]; rfl)]
          exact h.set_of_grows hj trivial hgrows trivial trivial
    | ready spec code =>
      rcases htemp : w.disk.createTemporary (modulePath plan spec).parent (modulePath plan spec).name
          (encode code) with e | ⟨d, place, shown⟩
      · rw [Works.step_of_turn hj (by simp only [Job.turn, htemp]; rfl)]
        exact h.set_of_grows hj trivial (.refl _) trivial trivial
      · rw [Works.step_of_turn hj (by simp only [Job.turn, htemp]; rfl)]
        obtain ⟨hfree, rfl, there, n, -, rfl⟩ := Disk.createTemporary_ok htemp
        exact h.set_unfinished hj hfree (not_isModulePlace_temporary there _ n)
    | unfinished spec code place shown =>
      rcases hmove : w.disk.moveOver place shown (modulePath plan spec) with e | d
      · rw [Works.step_of_turn hj (by simp only [Job.turn, hmove]; rfl)]
        exact h.set_given_up hj _ _
      · rw [Works.step_of_turn hj (by simp only [Job.turn, hmove]; rfl)]
        rw [hisOf.1.modulePath_eq] at hmove
        obtain ⟨e, there, hsource, hway, hshort, hdir, rfl⟩ :=
          Disk.moveOver_child (moduleFile_ne_dots spec) hmove
        rw [(h.unfinished i spec code place shown hj).1] at hsource
        cases hsource
        have hdone := h.set_done hj hway hshort hdir
        rw [hdry] at hdone
        exact hdone
    | ended r =>
      rw [Works.step_of_ended hj]
      exact h

theorem Works.Sound.run (h : w.Sound l plan pages first) (hdry : plan.dryRun = false) (turns : List Nat) :
    (w.run l plan turns).Sound l plan pages first := by
  induction turns generalizing w with
  | nil => exact h
  | cons i turns ih => exact ih (h.step hdry i)

/-- Before any job has a file. -/
theorem Works.Sound.of_bare {jobs : List Job} (h : ∀ j ∈ jobs, j.IsOf l plan pages ∧ j.IsBare) (d : Disk) :
    Works.Sound l plan pages d ⟨d, jobs⟩ := by
  refine ⟨.refl d, fun j hj => (h j hj).1, ?_, ?_, ?_⟩
  · intro i spec code place shown hi
    exact absurd (h _ (List.mem_of_getElem? hi)).2 id
  · intro i k spec code place shown spec' code' shown' hi
    exact absurd (h _ (List.mem_of_getElem? hi)).2 id
  · intro spec hdone
    obtain ⟨path, dryRun, hmem⟩ := hdone
    exact absurd (h _ hmem).2 id

theorem Works.Sound.start (l : Layout) (plan : Plan) (pages : List Page) (d : Disk) :
    Works.Sound l plan pages d ⟨d, pages.map .waiting⟩ := by
  refine .of_bare (fun j hj => ?_) d
  obtain ⟨page, hpage, rfl⟩ := List.mem_map.1 hj
  exact ⟨hpage, trivial⟩

end Turn

end Componentry.Generation
