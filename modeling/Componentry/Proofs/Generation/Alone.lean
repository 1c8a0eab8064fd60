import Componentry.Proofs.Generation.Overlay

/-!
Work on one page among others. Where its job stands is where it would stand if there was no other page,
and the disk is the one that all have made, overlaid with the file of each job.
-/
namespace Componentry.Generation
open Componentry.Component Componentry.Document Componentry.Files Componentry.Text

variable {l : Layout} {plan : Plan} {pages : List Page} {page : Page} {first d d' : Disk} {w : Works}
  {i : Nat} {j j' : Job} {there : Place}

/-! ### Jobs -/

/-- A stage of the work on a page that is the only one. -/
def Job.IsAlone (l : Layout) (plan : Plan) (page : Page) (d : Disk) : Job → Prop
  | .waiting page' => page' = page
  | .ready spec code =>
    spec = Spec.ofPage plan.base page ∧ renderWith l spec = .ok code ∧
      (d.makeDirs plan.outputDir).2 = none
  | .unfinished spec code place shown =>
    spec = Spec.ofPage plan.base page ∧ renderWith l spec = .ok code ∧
      (d.makeDirs plan.outputDir).2 = none ∧
      (plan.made d).createTemporary plan.outputDir (moduleFile spec) (encode code) =
        .ok ((plan.made d).put place (.file (encode code)), place, shown)
  | .ended r => r = (generate l plan page d).2.2

/-- A job that has not asked for any change. -/
def Job.IsFresh : Job → Prop
  | .waiting _ => True
  | .ended (.failed _ (.template _)) => True
  | _ => False

/-- The file of a job: unfinished, or the module in its place. -/
def Job.file? (l : Layout) (there : Place) : Job → Option (Place × Bytes)
  | .unfinished _ code place _ => some (place, encode code)
  | .ended (.done spec _ _) =>
    match renderWith l spec with
    | .ok code => some (there ++ [moduleFile spec], encode code)
    | .error _ => none
  | _ => none

theorem Job.IsBare.file? (h : j.IsBare) (l : Layout) (there : Place) : j.file? l there = none := by
  cases j with
  | waiting page => rfl
  | ready spec code => rfl
  | unfinished spec code place shown => exact absurd h id
  | ended r =>
    cases r with
    | done spec path dryRun => exact absurd h id
    | failed name why => rfl

theorem Job.IsFresh.isBare (h : j.IsFresh) : j.IsBare := by
  cases j with
  | waiting page => trivial
  | ready spec code => trivial
  | unfinished spec code place shown => exact absurd h id
  | ended r =>
    cases r with
    | done spec path dryRun => exact absurd h id
    | failed name why => trivial

/-- The names of the module and of its unfinished files. -/
def Owns (file name : Text) : Prop := name = file ∨ ∃ n, name = Disk.temporaryName file n

/-- No two modules share such a name. -/
theorem Owns.moduleFile_eq {spec spec' : Spec} {name : Text} (h : Owns (moduleFile spec) name)
    (h' : Owns (moduleFile spec') name) : moduleFile spec = moduleFile spec' := by
  have hnot : ∀ (a b : Spec) n, moduleFile a ≠ Disk.temporaryName (moduleFile b) n := by
    intro a b n he
    exact not_isModulePlace_temporary [] (moduleFile b) n ⟨[], a.fileName, by rw [← he]; rfl⟩
  obtain rfl | ⟨n, rfl⟩ := h
  · obtain he | ⟨n, he⟩ := h'
    · exact he
    · exact absurd he (hnot _ _ n)
  · obtain he | ⟨m, he⟩ := h'
    · exact absurd he.symm (hnot _ _ n)
    · exact Disk.name_of_temporaryName_eq he

theorem Job.IsAlone.generated {r : Result} (h : Job.IsAlone l plan page d (.ended r))
    (hdry : plan.dryRun = false) : ∃ d', d' = (generate l plan page d).1 ∧ Generated l plan page d d' r := by
  have hr : r = (generate l plan page d).2.2 := h
  rw [hr]
  exact ⟨_, rfl, Generation.generated l hdry page d⟩

theorem Job.IsAlone.owns (h : j.IsAlone l plan page d) (hdry : plan.dryRun = false) {place : Place}
    {content : Bytes} (hfile : j.file? l there = some (place, content)) :
    ∃ above name, place = above ++ [name] ∧ Owns (moduleFile (Spec.ofPage plan.base page)) name := by
  cases j with
  | waiting page => cases hfile
  | ready spec code => cases hfile
  | unfinished spec code place' shown =>
    obtain ⟨rfl, -, -, htemp⟩ := h
    obtain ⟨-, -, above, n, -, hplace⟩ := Disk.createTemporary_ok htemp
    cases hfile
    exact ⟨above, _, hplace, .inr ⟨n, rfl⟩⟩
  | ended r =>
    obtain ⟨d', -, hgenerated⟩ := h.generated hdry
    cases hgenerated with
    | unrendered f hrender => cases hfile
    | unwritten code e hrender hsame => cases hfile
    | done code there' hrender =>
      simp only [Job.file?, hrender] at hfile
      cases hfile
      exact ⟨there, _, rfl, .inl rfl⟩

/-- The file of a job is unfinished, where nothing was, or it is the module. -/
theorem Job.IsAlone.file_cases (h : j.IsAlone l plan page d) (hdry : plan.dryRun = false)
    (hway : (plan.made d).descendTo plan.outputDir = .ok there) {place : Place} {content : Bytes}
    (hfile : j.file? l there = some (place, content)) :
    ((plan.made d).get? place = none ∧ j.inUse? = some place) ∨ IsModuleOf l plan page d place := by
  cases j with
  | waiting page => cases hfile
  | ready spec code => cases hfile
  | unfinished spec code place' shown =>
    obtain ⟨rfl, -, -, htemp⟩ := h
    cases hfile
    exact .inl ⟨(Disk.createTemporary_ok htemp).1, rfl⟩
  | ended r =>
    obtain ⟨d', -, hgenerated⟩ := h.generated hdry
    have hr : r = (generate l plan page d).2.2 := h
    cases hgenerated with
    | unrendered f hrender => cases hfile
    | unwritten code e hrender hsame => cases hfile
    | done code there' hrender hway' hshort hdir hgains =>
      simp only [Job.file?, hrender] at hfile
      cases hfile
      exact .inr ⟨hr ▸ rfl, there, hway, rfl⟩

/-! ### The disk under the files of the jobs -/

structure Works.Over (l : Layout) (first : Disk) (there : Place) (w : Works) : Prop where
  cwd : w.disk.cwd = first.cwd
  file : ∀ j ∈ w.jobs, ∀ place content, j.file? l there = some (place, content) →
    w.disk.get? place = some (.file content)
  others : ∀ place, (∀ j ∈ w.jobs, ∀ content, j.file? l there ≠ some (place, content)) →
    w.disk.get? place = first.get? place

/-- After a job went on, if its files are not in places where others have theirs. -/
theorem Works.Over.set (h : w.Over l first there) (hj : w.jobs[i]? = some j) (hcwd : d'.cwd = w.disk.cwd)
    (hapart : ∀ (k : Nat) x place content, k ≠ i → w.jobs[k]? = some x →
      x.file? l there = some (place, content) →
      (∀ c, j.file? l there ≠ some (place, c)) ∧ ∀ c, j'.file? l there ≠ some (place, c))
    (hnew : ∀ place content, j'.file? l there = some (place, content) →
      d'.get? place = some (.file content))
    (hold : ∀ place content, j.file? l there = some (place, content) →
      (∀ c, j'.file? l there ≠ some (place, c)) → d'.get? place = first.get? place)
    (hothers : ∀ place, (∀ c, j.file? l there ≠ some (place, c)) →
      (∀ c, j'.file? l there ≠ some (place, c)) → d'.get? place = w.disk.get? place) :
    Works.Over l first there ⟨d', w.jobs.set i j'⟩ where
  cwd := hcwd.trans h.cwd
  file := by
    intro x hx place content hfile
    obtain ⟨k, hk⟩ := List.mem_iff_getElem?.1 hx
    obtain ⟨-, rfl⟩ | ⟨hki, hk⟩ := getElem?_set_cases hk
    · exact hnew place content hfile
    · obtain ⟨hfree, hfree'⟩ := hapart k x place content hki hk hfile
      exact (hothers place hfree hfree').trans (h.file x (List.mem_of_getElem? hk) place content hfile)
  others := by
    intro place hfree
    have hnew' : ∀ c, j'.file? l there ≠ some (place, c) := by
      intro c
      have hlength := (List.getElem?_eq_some_iff.1 hj).1
      exact hfree j' (List.mem_set hlength j') c
    by_cases hhad : ∃ c, j.file? l there = some (place, c)
    · obtain ⟨c, hc⟩ := hhad
      exact hold place c hc hnew'
    · have hhad' : ∀ c, j.file? l there ≠ some (place, c) := fun c hc => hhad ⟨c, hc⟩
      refine (hothers place hhad' hnew').trans (h.others place ?_)
      intro x hx c hc
      by_cases hxj : x = j
      · subst hxj
        exact hhad ⟨c, hc⟩
      · exact hfree x (mem_set_of_mem hj hx hxj) c hc

/-! ### The invariant -/

/-- How far the jobs have come together. -/
inductive Works.Phase (l : Layout) (plan : Plan) (d : Disk) (w : Works) : Prop
  | fresh (disk : w.disk = d) (jobs : ∀ j ∈ w.jobs, j.IsFresh)
  | bare (disk : w.disk = plan.made d) (jobs : ∀ j ∈ w.jobs, j.IsBare)
    (begun : ∃ j ∈ w.jobs, ¬j.IsFresh)
  | over (there unfinished : Place) (made : (d.makeDirs plan.outputDir).2 = none)
    (output : (plan.made d).descendTo plan.outputDir = .ok there)
    (absolute : (plan.made d).descendTo (d.absolute plan.outputDir) = .ok unfinished)
    (disk : w.Over l (plan.made d) there) (begun : ∃ j ∈ w.jobs, ¬j.IsFresh)

structure Works.Alone (l : Layout) (plan : Plan) (pages : List Page) (d : Disk) (w : Works) : Prop
    extends Works.Each (fun page j => j.IsAlone l plan page d) pages w where
  phase : w.Phase l plan d

theorem Works.Alone.start (l : Layout) (plan : Plan) (pages : List Page) (d : Disk) :
    Works.Alone l plan pages d ⟨d, pages.map .waiting⟩ where
  toEach := .start (fun page => (rfl : page = page)) pages d
  phase := by
    refine .fresh rfl fun j hj => ?_
    obtain ⟨page, -, rfl⟩ := List.mem_map.1 hj
    trivial

/-- What the jobs have on the disk lies over the directories for modules. -/
theorem Works.Alone.overlay (h : w.Alone l plan pages d) (hdry : plan.dryRun = false)
    (hmade : (d.makeDirs plan.outputDir).2 = none)
    (hway : (plan.made d).descendTo plan.outputDir = .ok there) {unfinished : Place}
    (habsolute : (plan.made d).descendTo (d.absolute plan.outputDir) = .ok unfinished)
    (hover : w.Over l (plan.made d) there) : Overlay l plan pages d w.inUse w.disk where
  cwd := hover.cwd.trans (plan.cwd_made d)
  get? := by
    intro place
    by_cases hhas : ∃ j ∈ w.jobs, ∃ content, j.file? l there = some (place, content)
    · obtain ⟨j, hj, content, hfile⟩ := hhas
      obtain ⟨i, hi⟩ := List.mem_iff_getElem?.1 hj
      obtain ⟨page, hpage, halone⟩ := h.jobs i j hi
      refine .inr ⟨⟨content, hover.file j hj place content hfile⟩, ?_⟩
      obtain ⟨hnone, hin⟩ | hmodule := halone.file_cases hdry hway hfile
      · exact .inl ⟨hnone, List.mem_filterMap.2 ⟨j, hj, hin⟩⟩
      · exact .inr ⟨page, List.mem_of_getElem? hpage, hmodule⟩
    · exact .inl (hover.others place fun j hj content hfile => hhas ⟨j, hj, content, hfile⟩)
  reached := .inr ⟨hmade, unfinished, habsolute⟩

/-! ### One turn -/

section Turn

theorem Works.Alone.set (h : w.Alone l plan pages d) (hpage : pages[i]? = some page)
    (halone : j'.IsAlone l plan page d) (hphase : Works.Phase l plan d ⟨d', w.jobs.set i j'⟩) :
    Works.Alone l plan pages d ⟨d', w.jobs.set i j'⟩ where
  toEach := h.toEach.set hpage halone d'
  phase := hphase

theorem begun_set (h : ∃ x ∈ w.jobs, ¬x.IsFresh) (hj : w.jobs[i]? = some j)
    (hfresh : j.IsFresh ∨ ¬j'.IsFresh) : ∃ x ∈ w.jobs.set i j', ¬x.IsFresh := by
  obtain ⟨x, hx, hnot⟩ := h
  by_cases hxj : x = j
  · subst hxj
    have hlength := (List.getElem?_eq_some_iff.1 hj).1
    exact ⟨j', List.mem_set hlength j', hfresh.resolve_left hnot⟩
  · exact ⟨x, mem_set_of_mem hj hx hxj, hnot⟩

/-- A turn that changes nothing on the disk, of a job that has no file before and after. -/
theorem Works.Phase.set_bare (h : w.Phase l plan d) (hj : w.jobs[i]? = some j) (hbare : j.IsBare)
    (hbare' : j'.IsBare) (hfresh : (∀ x ∈ w.jobs, x.IsFresh) → j'.IsFresh)
    (hbegun : j.IsFresh ∨ ¬j'.IsFresh) : Works.Phase l plan d ⟨w.disk, w.jobs.set i j'⟩ := by
  obtain ⟨hdisk, hjobs⟩ | ⟨hdisk, hjobs, hbegan⟩ |
    ⟨there, t, hmade, houtput, habsolute, hover, hbegan⟩ := h
  · refine .fresh hdisk fun x hx => ?_
    obtain hx | rfl := List.mem_or_eq_of_mem_set hx
    · exact hjobs x hx
    · exact hfresh hjobs
  · refine .bare hdisk (fun x hx => ?_) (begun_set hbegan hj hbegun)
    obtain hx | rfl := List.mem_or_eq_of_mem_set hx
    · exact hjobs x hx
    · exact hbare'
  · refine .over there t hmade houtput habsolute ?_ (begun_set hbegan hj hbegun)
    have hnone := hbare.file? l there
    have hnone' := hbare'.file? l there
    refine hover.set hj rfl ?_ ?_ ?_ (fun _ _ _ => rfl)
    · intro k x place content _ _ _
      simp [hnone, hnone']
    · simp [hnone']
    · simp [hnone]

/-- Only the job of a page has files by the names of its module. -/
theorem Works.Alone.eq_of_owns (h : w.Alone l plan pages d) (hdry : plan.dryRun = false)
    (hnames : (pages.map fun page => moduleFile (Spec.ofPage plan.base page)).Nodup)
    (hpage : pages[i]? = some page) {above : Place} {name : Text}
    (howns : Owns (moduleFile (Spec.ofPage plan.base page)) name) {k : Nat} {x : Job} {content : Bytes}
    (hk : w.jobs[k]? = some x) (hfile : x.file? l there = some (above ++ [name], content)) : k = i := by
  obtain ⟨page', hpage', halone'⟩ := h.jobs k x hk
  obtain ⟨above', name', he, howns'⟩ := halone'.owns hdry hfile
  obtain ⟨-, rfl⟩ := List.append_singleton_inj.1 he
  have hlength : k < (pages.map fun page => moduleFile (Spec.ofPage plan.base page)).length := by
    rw [List.length_map]
    exact (List.getElem?_eq_some_iff.1 hpage').1
  refine (List.getElem?_inj hlength hnames).1 ?_
  rw [List.getElem?_map, List.getElem?_map, hpage, hpage', Option.map_some, Option.map_some,
    howns.moduleFile_eq howns']

theorem Works.Alone.apart (h : w.Alone l plan pages d) (hdry : plan.dryRun = false)
    (hnames : (pages.map fun page => moduleFile (Spec.ofPage plan.base page)).Nodup)
    (hpage : pages[i]? = some page) (halone : j.IsAlone l plan page d) {k : Nat} {x : Job} {place : Place}
    {content : Bytes} (hki : k ≠ i) (hk : w.jobs[k]? = some x)
    (hfile : x.file? l there = some (place, content)) (c : Bytes) :
    j.file? l there ≠ some (place, c) := by
  intro hfile'
  obtain ⟨above, name, rfl, howns⟩ := halone.owns hdry hfile'
  exact hki (h.eq_of_owns hdry hnames hpage howns hk hfile)

/-- Making the output directory comes to what it comes to for a page alone. -/
theorem Works.Alone.makeDirs_eq (h : w.Alone l plan pages d) (hdry : plan.dryRun = false)
    (hsteady : plan.IsSteady l pages d) (hj : w.jobs[i]? = some j) (hfresh : j.IsFresh) :
    ∃ d', w.disk.makeDirs plan.outputDir = (d', (d.makeDirs plan.outputDir).2) ∧
      ∀ j' : Job, j'.IsBare → ¬j'.IsFresh → Works.Phase l plan d ⟨d', w.jobs.set i j'⟩ := by
  have hbegan : (∃ x ∈ w.jobs, ¬x.IsFresh) → ∀ j' : Job, (∀ x ∈ w.jobs, x.IsFresh) → j'.IsFresh := by
    rintro ⟨x, hx, hnot⟩ j' hall
    exact absurd (hall x hx) hnot
  obtain ⟨hdisk, hjobs⟩ | ⟨hdisk, hjobs, hbegun⟩ |
    ⟨there, t, hmade, houtput, habsolute, hover, hbegun⟩ := id h.phase
  · refine ⟨plan.made d, by rw [hdisk]; rfl, fun j' hbare hnot => ?_⟩
    refine .bare rfl (fun x hx => ?_) ⟨j', List.mem_set (List.getElem?_eq_some_iff.1 hj).1 j', hnot⟩
    obtain hx | rfl := List.mem_or_eq_of_mem_set hx
    · exact (hjobs x hx).isBare
    · exact hbare
  · refine ⟨w.disk, ?_, fun j' hbare _ =>
      h.phase.set_bare hj hfresh.isBare hbare (hbegan hbegun j') (.inl hfresh)⟩
    rw [hdisk, hsteady.again]
    rfl
  · refine ⟨w.disk, ?_, fun j' hbare _ =>
      h.phase.set_bare hj hfresh.isBare hbare (hbegan hbegun j') (.inl hfresh)⟩
    exact (h.overlay hdry hmade houtput habsolute hover).makeDirs_eq hdry hsteady

/-- A new unfinished file comes to where it comes to for a page alone. -/
theorem Works.Alone.createTemporary_eq (h : w.Alone l plan pages d) (hdry : plan.dryRun = false)
    (hnames : (pages.map fun page => moduleFile (Spec.ofPage plan.base page)).Nodup)
    (hsteady : plan.IsSteady l pages d) (hpage : pages[i]? = some page) {spec : Spec} {code : Text}
    (hj : w.jobs[i]? = some (.ready spec code)) (hready : Job.IsAlone l plan page d (.ready spec code)) :
    (∃ e, w.disk.createTemporary plan.outputDir (moduleFile spec) (encode code) = .error e ∧
      (plan.made d).createTemporary plan.outputDir (moduleFile spec) (encode code) = .error e) ∨
    ∃ place shown, w.disk.createTemporary plan.outputDir (moduleFile spec) (encode code) =
        .ok (w.disk.put place (.file (encode code)), place, shown) ∧
      Job.IsAlone l plan page d (.unfinished spec code place shown) ∧ w.disk.get? place = none ∧
      ∃ there t, (plan.made d).descendTo plan.outputDir = .ok there ∧
        (plan.made d).descendTo (d.absolute plan.outputDir) = .ok t ∧ w.Over l (plan.made d) there := by
  obtain ⟨rfl, hrender, hmade⟩ := hready
  obtain ⟨hdisk, hjobs⟩ | ⟨hdisk, hjobs, hbegun⟩ |
    ⟨there, t, hmade, houtput, habsolute, hover, hbegun⟩ := id h.phase
  · exact absurd (hjobs _ (List.mem_of_getElem? hj)) id
  · rw [hdisk]
    rcases htemp : (plan.made d).createTemporary plan.outputDir (moduleFile (Spec.ofPage plan.base page))
        (encode code) with e | ⟨d₂, place, shown⟩
    · exact .inl ⟨e, rfl, rfl⟩
    · obtain ⟨hfree, rfl, t, n, hwayt, -⟩ := Disk.createTemporary_ok htemp
      obtain ⟨there, hway⟩ := Disk.exists_descendTo_of_makeDirs hmade
      rw [plan.absolute_made] at hwayt
      refine .inr ⟨place, shown, rfl, ⟨rfl, hrender, hmade, htemp⟩, hfree, there, t, hway, hwayt, ?_⟩
      have hnone : ∀ x ∈ w.jobs, x.file? l there = none := fun x hx => (hjobs x hx).file? l there
      refine ⟨by rw [hdisk], fun x hx place content hfile => ?_, fun _ _ => by rw [hdisk]⟩
      rw [hnone x hx] at hfile
      cases hfile
  · have hwayt := (h.overlay hdry hmade houtput habsolute hover).descendTo_absolute hdry hsteady
    have htaken : ∀ above n, w.disk.get? (above ++ [Disk.temporaryName
        (moduleFile (Spec.ofPage plan.base page)) n]) = (plan.made d).get? (above ++
        [Disk.temporaryName (moduleFile (Spec.ofPage plan.base page)) n]) := by
      intro above n
      refine hover.others _ fun x hx content hfile => ?_
      obtain ⟨k, hk⟩ := List.mem_iff_getElem?.1 hx
      obtain rfl := h.eq_of_owns hdry hnames hpage (.inr ⟨n, rfl⟩) hk hfile
      rw [hj] at hk
      cases hk
      cases hfile
    obtain ⟨e, htemp, htemp'⟩ | ⟨place, shown, hnone, hfree, htemp, htemp'⟩ :=
      Disk.createTemporary_cases _ (encode code) hover.cwd hwayt fun above n => by rw [htaken]
    · exact .inl ⟨e, htemp', htemp⟩
    · exact .inr ⟨place, shown, htemp', ⟨rfl, hrender, hmade, htemp⟩, hfree, there, t, houtput, habsolute,
        hover⟩

/-- Moving the module to its place comes to what it comes to for a page alone. -/
theorem Works.Alone.moveOver_eq (h : w.Alone l plan pages d) (hdry : plan.dryRun = false)
    (hsteady : plan.IsSteady l pages d) {spec : Spec} {code : Text} {place : Place} {shown : Path}
    (hj : w.jobs[i]? = some (.unfinished spec code place shown))
    (hover : w.Over l (plan.made d) there) (houtput : (plan.made d).descendTo plan.outputDir = .ok there)
    (halone : Job.IsAlone l plan page d (.unfinished spec code place shown)) :
    let alone := (plan.made d).put place (.file (encode code))
    (∃ e, w.disk.moveOver place shown (plan.outputDir.child (moduleFile spec)) = .error e ∧
      alone.moveOver place shown (plan.outputDir.child (moduleFile spec)) = .error e) ∨
    (w.disk.moveOver place shown (plan.outputDir.child (moduleFile spec)) =
        .ok ((w.disk.erase place).put (there ++ [moduleFile spec]) (.file (encode code))) ∧
      alone.moveOver place shown (plan.outputDir.child (moduleFile spec)) =
        .ok ((alone.erase place).put (there ++ [moduleFile spec]) (.file (encode code)))) := by
  intro alone
  obtain ⟨rfl, hrender, hmade, htemp⟩ := id halone
  obtain ⟨hfree, -, above, n, habsolute, hplace⟩ := Disk.createTemporary_ok htemp
  rw [plan.absolute_made] at habsolute
  have hfile : w.disk.get? place = some (.file (encode code)) :=
    hover.file _ (List.mem_of_getElem? hj) _ _ rfl
  have hfile' : alone.get? place = some (.file (encode code)) :=
    Disk.get?_put_self (Disk.place_ne_nil_of_free hfree)
  have hlies := h.overlay hdry hmade houtput habsolute hover
  have hlies' := (Overlay.made l plan pages d []).put_busy hmade ⟨above, habsolute⟩ hfree (encode code)
  rw [hlies.moveOver_eq hdry hsteady houtput hfile (moduleFile_ne_dots _) shown,
    hlies'.moveOver_eq hdry hsteady houtput hfile' (moduleFile_ne_dots _) shown]
  cases plan.moveError? d there (moduleFile (Spec.ofPage plan.base page)) shown with
  | some e => exact .inl ⟨e, rfl, rfl⟩
  | none => exact .inr ⟨rfl, rfl⟩

/-- A new unfinished file lies over the disk. -/
theorem Works.Over.set_unfinished (hover : w.Over l first there) {spec : Spec} {code : Text}
    {place : Place} {shown : Path} (hj : w.jobs[i]? = some (.ready spec code))
    (hfree : w.disk.get? place = none) :
    Works.Over l first there ⟨w.disk.put place (.file (encode code)),
      w.jobs.set i (.unfinished spec code place shown)⟩ := by
  refine hover.set hj rfl ?_ ?_ ?_ ?_
  · intro k x place' content _ hk hfile
    refine ⟨by simp [Job.file?], fun c hc => ?_⟩
    cases hc
    rw [hover.file x (List.mem_of_getElem? hk) _ content hfile] at hfree
    cases hfree
  · intro place' content hfile
    cases hfile
    exact Disk.get?_put_self (Disk.place_ne_nil_of_free hfree)
  · intro place' content hfile
    cases hfile
  · intro place' _ hnot
    refine Disk.get?_put_of_ne ?_
    intro he
    subst he
    exact hnot _ rfl

/-- A module that came to its place lies over the disk. -/
theorem Works.Alone.over_done (h : w.Alone l plan pages d) (hdry : plan.dryRun = false)
    (hnames : (pages.map fun page => moduleFile (Spec.ofPage plan.base page)).Nodup)
    (hpage : pages[i]? = some page) {spec : Spec} {code path : Text} {place : Place} {shown : Path}
    {dryRun : Bool} (hj : w.jobs[i]? = some (.unfinished spec code place shown))
    (hover : w.Over l (plan.made d) there)
    (halone : Job.IsAlone l plan page d (.unfinished spec code place shown))
    (hdone : Job.IsAlone l plan page d (.ended (.done spec path dryRun))) :
    Works.Over l (plan.made d) there
      ⟨(w.disk.erase place).put (there ++ [moduleFile spec]) (.file (encode code)),
        w.jobs.set i (.ended (.done spec path dryRun))⟩ := by
  have hfile : Job.file? l there (.ended (.done spec path dryRun)) =
      some (there ++ [moduleFile spec], encode code) := by
    simp [Job.file?, halone.2.1]
  have hfree : (plan.made d).get? place = none := (Disk.createTemporary_ok halone.2.2.2).1
  refine hover.set hj rfl ?_ ?_ ?_ ?_
  · intro k x place' content hki hk hx
    exact ⟨h.apart hdry hnames hpage halone hki hk hx, h.apart hdry hnames hpage hdone hki hk hx⟩
  · intro place' content hfile'
    rw [hfile] at hfile'
    cases hfile'
    exact Disk.get?_put_self (by simp)
  · intro place' content hold hnot
    cases hold
    rw [Disk.get?_put_of_ne, Disk.get?_erase_self (Disk.place_ne_nil_of_free hfree), hfree]
    intro he
    exact hnot _ (he ▸ hfile)
  · intro place' hnot hnot'
    rw [Disk.get?_put_of_ne, Disk.get?_erase_of_ne]
    · intro he
      subst he
      exact hnot _ rfl
    · intro he
      exact hnot' _ (he ▸ hfile)

/-- An unfinished file that is given up does not lie over the disk any more. -/
theorem Works.Alone.over_given_up (h : w.Alone l plan pages d) (hdry : plan.dryRun = false)
    (hnames : (pages.map fun page => moduleFile (Spec.ofPage plan.base page)).Nodup)
    (hpage : pages[i]? = some page) {spec : Spec} {code : Text} {place : Place} {shown : Path}
    (hj : w.jobs[i]? = some (.unfinished spec code place shown)) (hover : w.Over l (plan.made d) there)
    (halone : Job.IsAlone l plan page d (.unfinished spec code place shown)) (name : Text) (why : Reason) :
    Works.Over l (plan.made d) there ⟨w.disk.erase place, w.jobs.set i (.ended (.failed name why))⟩ := by
  have hfree : (plan.made d).get? place = none := (Disk.createTemporary_ok halone.2.2.2).1
  refine hover.set hj rfl ?_ ?_ ?_ ?_
  · intro k x place' content hki hk hx
    exact ⟨h.apart hdry hnames hpage halone hki hk hx, by simp [Job.file?]⟩
  · simp [Job.file?]
  · intro place' content hold _
    cases hold
    rw [Disk.get?_erase_self (Disk.place_ne_nil_of_free hfree), hfree]
  · intro place' hnot _
    refine Disk.get?_erase_of_ne ?_
    intro he
    subst he
    exact hnot _ rfl

theorem Works.Alone.step (h : w.Alone l plan pages d) (hdry : plan.dryRun = false)
    (hnames : (pages.map fun page => moduleFile (Spec.ofPage plan.base page)).Nodup)
    (hsteady : plan.IsSteady l pages d) (i : Nat) : (w.step l plan i).Alone l plan pages d := by
  cases hj : w.jobs[i]? with
  | none =>
    rw [Works.step_of_none hj]
    exact h
  | some j =>
    obtain ⟨page, hpage, halone⟩ := h.jobs i j hj
    cases j with
    | waiting page' =>
      obtain rfl : page' = page := halone
      cases hrender : renderWith l (Spec.ofPage plan.base page') with
      | error f =>
        rw [Works.step_of_turn hj (by simp only [Job.turn, hrender]; rfl)]
        exact h.set hpage (generate_of_error hrender).2.symm
          (h.phase.set_bare hj trivial trivial (fun _ => trivial) (.inl trivial))
      | ok code =>
        obtain ⟨d', hdirs', hphase⟩ := h.makeDirs_eq hdry hsteady hj trivial
        rcases hdirs : d.makeDirs plan.outputDir with ⟨d₁, none | e⟩
        · rw [hdirs] at hdirs'
          rw [Works.step_of_turn hj (by
            simp only [Job.turn, hrender, hdry, modulePath_ofPage, Path.parent_child, hdirs']
            rfl)]
          exact h.set hpage ⟨rfl, hrender, by rw [hdirs]⟩ (hphase _ trivial id)
        · rw [hdirs] at hdirs'
          rw [Works.step_of_turn hj (by
            simp only [Job.turn, hrender, hdry, modulePath_ofPage, Path.parent_child, hdirs']
            rfl)]
          have hresult := (generate_of_written hdry hrender (Disk.writeWhole_of_makeDirs hdirs)).2
          exact h.set hpage hresult.symm (hphase _ trivial id)
    | ready spec code =>
      obtain ⟨rfl, hrender, hmade⟩ := id halone
      have hdirs : d.makeDirs plan.outputDir = (plan.made d, none) := by rw [← hmade]; rfl
      obtain ⟨e, htemp', htemp⟩ | ⟨place, shown, htemp', halone', hfree, there, t, houtput, habsolute, hover⟩ :=
        h.createTemporary_eq hdry hnames hsteady hpage hj halone
      · rw [Works.step_of_turn hj (by
          simp only [Job.turn, modulePath_ofPage, Path.parent_child, Path.name_child, htemp']
          rfl)]
        have hresult :=
          (generate_of_written hdry hrender (Disk.writeWhole_of_createTemporary hdirs htemp)).2
        refine h.set hpage hresult.symm (h.phase.set_bare hj trivial trivial ?_ (.inr id))
        exact fun hall => absurd (hall _ (List.mem_of_getElem? hj)) id
      · rw [Works.step_of_turn hj (by
          simp only [Job.turn, modulePath_ofPage, Path.parent_child, Path.name_child, htemp']
          rfl)]
        refine h.set hpage halone' (.over there t hmade houtput habsolute (hover.set_unfinished hj hfree) ?_)
        exact ⟨_, List.mem_set (List.getElem?_eq_some_iff.1 hj).1 _, id⟩
    | unfinished spec code place shown =>
      obtain ⟨hdisk, hjobs⟩ | ⟨hdisk, hjobs, hbegun⟩ |
        ⟨there, t, hmade, houtput, habsolute, hover, hbegun⟩ := id h.phase
      · exact absurd (hjobs _ (List.mem_of_getElem? hj)) id
      · exact absurd (hjobs _ (List.mem_of_getElem? hj)) id
      · have hmove := h.moveOver_eq hdry hsteady hj hover houtput halone
        obtain ⟨rfl, hrender, -, htemp⟩ := id halone
        have hdirs : d.makeDirs plan.outputDir = (plan.made d, none) := by rw [← hmade]; rfl
        have hwrite := Disk.writeWhole_of_moveOver hdirs htemp
        obtain ⟨e, hmove', hmove⟩ | ⟨hmove', hmove⟩ := hmove
        · rw [Works.step_of_turn hj (by simp only [Job.turn, modulePath_ofPage, hmove']; rfl)]
          rw [hmove] at hwrite
          have hresult := (generate_of_written hdry hrender hwrite).2
          refine h.set hpage hresult.symm (.over there t hmade houtput habsolute
            (h.over_given_up hdry hnames hpage hj hover halone _ _) ?_)
          exact ⟨_, List.mem_set (List.getElem?_eq_some_iff.1 hj).1 _, id⟩
        · rw [Works.step_of_turn hj (by simp only [Job.turn, modulePath_ofPage, hmove']; rfl)]
          rw [hmove] at hwrite
          have hresult := (generate_of_written hdry hrender hwrite).2
          rw [← modulePath_ofPage]
          refine h.set hpage hresult.symm (.over there t hmade houtput habsolute
            (h.over_done hdry hnames hpage hj hover halone hresult.symm) ?_)
          exact ⟨_, List.mem_set (List.getElem?_eq_some_iff.1 hj).1 _, id⟩
    | ended r =>
      rw [Works.step_of_ended hj]
      exact h

theorem Works.Alone.run (h : w.Alone l plan pages d) (hdry : plan.dryRun = false)
    (hnames : (pages.map fun page => moduleFile (Spec.ofPage plan.base page)).Nodup)
    (hsteady : plan.IsSteady l pages d) (turns : List Nat) :
    (w.run l plan turns).Alone l plan pages d := by
  induction turns generalizing w with
  | nil => exact h
  | cons i turns ih => exact ih (h.step hdry hnames hsteady i)

end Turn

end Componentry.Generation
