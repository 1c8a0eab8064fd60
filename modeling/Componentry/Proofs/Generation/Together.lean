import Componentry.Proofs.Generation.Alone

/-!
Work on pages of any names. A page comes to what it comes to alone when the pages before it are done, and
also when workers take turns, but for the numbers that unfinished files get in place of each other.
-/
namespace Componentry.Generation
open Componentry.Component Componentry.Document Componentry.Files Componentry.Text

variable {l : Layout} {plan : Plan} {pages part : List Page} {page : Page} {d D D' : Disk} {w : Works}
  {i : Nat} {j j' : Job} {busy : List Place} {there place : Place} {shown : Path} {code : Text}

/-! ### One page after the other -/

/-- What the work on a page comes to once its unfinished file is there. -/
theorem Overlay.generate_of_createTemporary (h : Overlay l plan pages d busy D) (hdry : plan.dryRun = false)
    (hsteady : plan.IsSteady l pages d) (hmade : (d.makeDirs plan.outputDir).2 = none)
    (hway : (plan.made d).descendTo plan.outputDir = .ok there)
    (hrender : renderWith l (Spec.ofPage plan.base page) = .ok code)
    (hdirs : D'.makeDirs plan.outputDir = (D, none))
    (htemp : D.createTemporary plan.outputDir (moduleFile (Spec.ofPage plan.base page)) (encode code) =
      .ok (D.put place (.file (encode code)), place, shown)) :
    let moved := (D.put place (.file (encode code))).erase place
    let error := plan.moveError? d there (moduleFile (Spec.ofPage plan.base page)) shown
    (generate l plan page D').1 = (match error with
      | some _ => moved
      | none => moved.put (there ++ [moduleFile (Spec.ofPage plan.base page)]) (.file (encode code))) ∧
    (generate l plan page D').2.2 = writtenResult plan (Spec.ofPage plan.base page) error := by
  intro moved error
  have hfree := (Disk.createTemporary_ok htemp).1
  have hunfinished := h.exists_unfinished hdry hsteady htemp
  have hlies := h.put_busy hmade hunfinished hfree (encode code)
  have hfile : (D.put place (.file (encode code))).get? place = some (.file (encode code)) :=
    Disk.get?_put_self (Disk.place_ne_nil_of_free hfree)
  have hwrite := Disk.writeWhole_of_moveOver hdirs htemp
  rw [hlies.moveOver_eq hdry hsteady hway hfile (moduleFile_ne_dots _) shown] at hwrite
  cases herror : error with
  | some e =>
    have hsome : plan.moveError? d there (moduleFile (Spec.ofPage plan.base page)) shown = some e := herror
    rw [hsome] at hwrite
    exact generate_of_written hdry hrender hwrite
  | none =>
    have hnone : plan.moveError? d there (moduleFile (Spec.ofPage plan.base page)) shown = none := herror
    rw [hnone] at hwrite
    exact generate_of_written hdry hrender hwrite

/-- A page comes to what it comes to alone, if only modules of pages lie over the directories. -/
theorem Overlay.generate_eq (h : Overlay l plan pages d [] D) (hdry : plan.dryRun = false)
    (hsteady : plan.IsSteady l pages d) (hpage : page ∈ pages)
    (hrender : renderWith l (Spec.ofPage plan.base page) = .ok code)
    (hdirs' : D'.makeDirs plan.outputDir = (D, (d.makeDirs plan.outputDir).2)) :
    (generate l plan page D').2.2 = (generate l plan page d).2.2 ∧
      Overlay l plan pages d [] (generate l plan page D').1 := by
  have hdirs : d.makeDirs plan.outputDir = (plan.made d, (d.makeDirs plan.outputDir).2) := rfl
  cases hmade : (d.makeDirs plan.outputDir).2 with
  | some e =>
    rw [hmade] at hdirs hdirs'
    obtain ⟨hdisk', hresult'⟩ := generate_of_written hdry hrender (Disk.writeWhole_of_makeDirs hdirs')
    obtain ⟨-, hresult⟩ := generate_of_written hdry hrender (Disk.writeWhole_of_makeDirs hdirs)
    rw [hdisk', hresult', hresult]
    exact ⟨rfl, h⟩
  | none =>
    rw [hmade] at hdirs hdirs'
    have htaken : ∀ above n, D.get? (above ++ [Disk.temporaryName
        (moduleFile (Spec.ofPage plan.base page)) n]) = (plan.made d).get? (above ++
        [Disk.temporaryName (moduleFile (Spec.ofPage plan.base page)) n]) := fun above n =>
      (h.get?_temporary above _ n).resolve_right fun hbusy => absurd hbusy.2 List.not_mem_nil
    obtain ⟨e, htemp, htemp'⟩ | ⟨place, shown, hnone, hfree, htemp, htemp'⟩ :=
      Disk.createTemporary_cases _ (encode code) (h.cwd.trans (plan.cwd_made d).symm)
        (h.descendTo_absolute hdry hsteady) fun above n => by rw [htaken]
    · obtain ⟨hdisk', hresult'⟩ :=
        generate_of_written hdry hrender (Disk.writeWhole_of_createTemporary hdirs' htemp')
      obtain ⟨-, hresult⟩ :=
        generate_of_written hdry hrender (Disk.writeWhole_of_createTemporary hdirs htemp)
      rw [hdisk', hresult', hresult]
      exact ⟨rfl, h⟩
    · have hunfinished := h.exists_unfinished hdry hsteady htemp'
      obtain ⟨there, hway⟩ := Disk.exists_descendTo_of_makeDirs hmade
      obtain ⟨hdisk', hresult'⟩ :=
        h.generate_of_createTemporary hdry hsteady hmade hway hrender hdirs' htemp'
      obtain ⟨-, hresult⟩ := (Overlay.made l plan pages d []).generate_of_createTemporary hdry hsteady
        hmade hway hrender hdirs htemp
      have hmoved := (h.put_busy hmade hunfinished hfree (encode code)).erase_busy hmade hunfinished hnone
      rw [hdisk', hresult']
      refine ⟨hresult.symm, ?_⟩
      cases herror : plan.moveError? d there (moduleFile (Spec.ofPage plan.base page)) shown with
      | some e => exact hmoved
      | none =>
        refine hmoved.put_module hmade hunfinished hpage ⟨?_, there, hway, rfl⟩ _
        rw [hresult, herror]
        rfl

/-- How the disk is left by work on some of the pages. -/
theorem generate_eq_of_left (hdry : plan.dryRun = false) (hsteady : plan.IsSteady l pages d)
    (hpage : page ∈ pages) (h : D = d ∨ Overlay l plan pages d [] D) :
    (generate l plan page D).2.2 = (generate l plan page d).2.2 ∧
      ((generate l plan page D).1 = d ∨ Overlay l plan pages d [] (generate l plan page D).1) := by
  cases hrender : renderWith l (Spec.ofPage plan.base page) with
  | error f =>
    obtain ⟨hdisk', hresult'⟩ := generate_of_error (d := D) hrender
    rw [hdisk', hresult', (generate_of_error hrender).2]
    exact ⟨rfl, h⟩
  | ok code =>
    obtain rfl | h := h
    · obtain ⟨hresult, hleft⟩ := (Overlay.made l plan pages D []).generate_eq hdry hsteady hpage hrender rfl
      exact ⟨hresult, .inr hleft⟩
    · obtain ⟨hresult, hleft⟩ := h.generate_eq hdry hsteady hpage hrender (h.makeDirs_eq hdry hsteady)
      exact ⟨hresult, .inr hleft⟩

/-- Pages one after the other, of any names and some of them more than once. -/
theorem generateAll_eq_of_left (hdry : plan.dryRun = false) (hsteady : plan.IsSteady l pages d)
    (hpart : part ⊆ pages) (h : D = d ∨ Overlay l plan pages d [] D) :
    ((generateAll l plan part D).2.2 = part.map fun page => (generate l plan page d).2.2) ∧
      ((generateAll l plan part D).1 = d ∨ Overlay l plan pages d [] (generateAll l plan part D).1) := by
  induction part generalizing D with
  | nil => exact ⟨rfl, h⟩
  | cons page rest ih =>
    rw [List.cons_subset] at hpart
    obtain ⟨hresult, hleft⟩ := generate_eq_of_left hdry hsteady hpart.1 h
    obtain ⟨hresults, hdisk⟩ := ih hpart.2 hleft
    refine ⟨?_, hdisk⟩
    rw [List.map_cons, ← hresult, ← hresults]
    rfl

/-! ### Taking turns -/

/-- Results that are the same but for the path of an unfinished file in the error of a write. -/
inductive Result.Like (dir : Path) : Result → Result → Prop
  | same (r : Result) : Result.Like dir r r
  | unwritten (component path : Text) (f : Failure) (other : Option Text) {shown shown' : Text}
    (first : Disk.IsUnfinishedIn dir shown) (second : Disk.IsUnfinishedIn dir shown') :
    Result.Like dir (.failed component (.unwritten path ⟨f, shown, other⟩))
      (.failed component (.unwritten path ⟨f, shown', other⟩))

theorem Result.Like.isDone_eq {dir : Path} {r r' : Result} (h : r.Like dir r') : r.isDone = r'.isDone := by
  cases h with
  | same => rfl
  | unwritten => rfl

/-- The number of the unfinished file shows only in the error. -/
theorem like_writtenResult {dir : Path} {shown shown' : Path} (h : Disk.IsUnfinishedIn dir shown.toText)
    (h' : Disk.IsUnfinishedIn dir shown'.toText) (spec : Spec) (name : Text) :
    Result.Like dir (writtenResult plan spec (plan.moveError? d there name shown))
      (writtenResult plan spec (plan.moveError? d there name shown')) := by
  rw [Plan.moveError?, Plan.moveError?]
  dsimp only
  split
  · exact .unwritten _ _ _ _ h h'
  · split
    · exact .unwritten _ _ _ _ h h'
    · exact .same _

/-- A stage of the work on a page that will come to what it comes to alone. -/
def Job.IsLike (l : Layout) (plan : Plan) (page : Page) (d : Disk) : Job → Prop
  | .waiting page' => page' = page
  | .ready spec code =>
    spec = Spec.ofPage plan.base page ∧ renderWith l spec = .ok code ∧
      (d.makeDirs plan.outputDir).2 = none
  | .unfinished spec code place shown =>
    spec = Spec.ofPage plan.base page ∧ renderWith l spec = .ok code ∧
      (d.makeDirs plan.outputDir).2 = none ∧ (plan.made d).get? place = none ∧
      Disk.IsUnfinishedIn (d.absolute plan.outputDir) shown.toText ∧
      ∃ place' shown', Disk.IsUnfinishedIn (d.absolute plan.outputDir) shown'.toText ∧
        (plan.made d).createTemporary plan.outputDir (moduleFile spec) (encode code) =
          .ok ((plan.made d).put place' (.file (encode code)), place', shown')
  | .ended r => Result.Like (d.absolute plan.outputDir) (generate l plan page d).2.2 r

/-- Jobs on pages of any names. -/
structure Works.Together (l : Layout) (plan : Plan) (pages : List Page) (d : Disk) (w : Works) : Prop
    extends Works.Each (fun page j => j.IsLike l plan page d) pages w where
  disk : (w.disk = d ∧ ∀ j ∈ w.jobs, j.IsFresh) ∨ Overlay l plan pages d w.inUse w.disk

namespace Works.Together

theorem start (l : Layout) (plan : Plan) (pages : List Page) (d : Disk) :
    Works.Together l plan pages d ⟨d, pages.map .waiting⟩ where
  toEach := .start (fun page => (rfl : page = page)) pages d
  disk := by
    refine .inl ⟨rfl, fun j hj => ?_⟩
    obtain ⟨page, -, rfl⟩ := List.mem_map.1 hj
    trivial

theorem set (h : w.Together l plan pages d) (hpage : pages[i]? = some page) (hlike : j'.IsLike l plan page d)
    (hdisk : (D = d ∧ ∀ j ∈ w.jobs.set i j', j.IsFresh) ∨
      Overlay l plan pages d (Works.inUse ⟨D, w.jobs.set i j'⟩) D) :
    Works.Together l plan pages d ⟨D, w.jobs.set i j'⟩ where
  toEach := h.toEach.set hpage hlike D
  disk := hdisk

/-- Only the file of the job that went on may be out of use. -/
theorem inUse_subset (hj : w.jobs[i]? = some j) (D : Disk) (j' : Job) :
    w.inUse ⊆ j.inUse?.toList ++ Works.inUse ⟨D, w.jobs.set i j'⟩ := by
  intro place hplace
  obtain ⟨x, hx, hin⟩ := List.mem_filterMap.1 hplace
  by_cases hxj : x = j
  · subst hxj
    exact List.mem_append_left _ (by simp [hin])
  · exact List.mem_append_right _ (List.mem_filterMap.2 ⟨x, mem_set_of_mem hj hx hxj, hin⟩)

theorem mem_inUse (hj : w.jobs[i]? = some j) (D : Disk) (hplace : j'.inUse? = some place) :
    place ∈ Works.inUse ⟨D, w.jobs.set i j'⟩ :=
  List.mem_filterMap.2 ⟨j', List.mem_set (List.getElem?_eq_some_iff.1 hj).1 j', hplace⟩

/-- A turn of a job that has no unfinished file before and after, and leaves the disk. -/
theorem set_bare (h : w.Together l plan pages d) (hj : w.jobs[i]? = some j) (hpage : pages[i]? = some page)
    (hlike : j'.IsLike l plan page d) (hnone : j.inUse? = none)
    (hfresh : j.IsFresh → j'.IsFresh) :
    Works.Together l plan pages d ⟨w.disk, w.jobs.set i j'⟩ := by
  refine h.set hpage hlike ?_
  obtain ⟨hdisk, hjobs⟩ | hlies := h.disk
  · refine .inl ⟨hdisk, fun x hx => ?_⟩
    obtain hx | rfl := List.mem_or_eq_of_mem_set hx
    · exact hjobs x hx
    · exact hfresh (hjobs j (List.mem_of_getElem? hj))
  · have hsubset := inUse_subset hj w.disk j'
    rw [hnone] at hsubset
    exact .inr (hlies.mono hsubset)

section Turn
variable (h : w.Together l plan pages d) (hdry : plan.dryRun = false)
  (hsteady : plan.IsSteady l pages d)

include h hdry hsteady

/-- Making the output directory comes to what it comes to for a page alone. -/
theorem makeDirs_eq : ∃ D, w.disk.makeDirs plan.outputDir = (D, (d.makeDirs plan.outputDir).2) ∧
    Overlay l plan pages d w.inUse D := by
  obtain ⟨hdisk, -⟩ | hlies := h.disk
  · rw [hdisk]
    exact ⟨plan.made d, rfl, Overlay.made l plan pages d w.inUse⟩
  · exact ⟨w.disk, hlies.makeDirs_eq hdry hsteady, hlies⟩

theorem step_waiting (hpage : pages[i]? = some page) (hj : w.jobs[i]? = some (.waiting page)) :
    (w.step l plan i).Together l plan pages d := by
  cases hrender : renderWith l (Spec.ofPage plan.base page) with
  | error f =>
    rw [Works.step_of_turn hj (by simp only [Job.turn, hrender]; rfl)]
    refine h.set_bare hj hpage ?_ rfl fun _ => trivial
    rw [Job.IsLike, (generate_of_error hrender).2]
    exact .same _
  | ok code =>
    obtain ⟨D, hdirs', hlies⟩ := h.makeDirs_eq hdry hsteady
    have hlies' : ∀ j', Overlay l plan pages d (Works.inUse ⟨D, w.jobs.set i j'⟩) D :=
      fun j' => hlies.mono (inUse_subset hj D j')
    rcases hdirs : d.makeDirs plan.outputDir with ⟨d₁, none | e⟩
    · rw [hdirs] at hdirs'
      rw [Works.step_of_turn hj (by
        simp only [Job.turn, hrender, hdry, modulePath_ofPage, Path.parent_child, hdirs']
        rfl)]
      exact h.set hpage ⟨rfl, hrender, by rw [hdirs]⟩ (.inr (hlies' _))
    · rw [hdirs] at hdirs'
      rw [Works.step_of_turn hj (by
        simp only [Job.turn, hrender, hdry, modulePath_ofPage, Path.parent_child, hdirs']
        rfl)]
      refine h.set hpage ?_ (.inr (hlies' _))
      rw [Job.IsLike, (generate_of_written hdry hrender (Disk.writeWhole_of_makeDirs hdirs)).2]
      exact .same _

theorem step_ready (hroom : (plan.made d).entries.length + pages.length < Disk.mostShortNames)
    (hpage : pages[i]? = some page) {spec : Spec} (hj : w.jobs[i]? = some (.ready spec code))
    (hlike : Job.IsLike l plan page d (.ready spec code)) : (w.step l plan i).Together l plan pages d := by
  obtain ⟨rfl, hrender, hmade⟩ := hlike
  obtain ⟨-, hfresh⟩ | hlies := h.disk
  · exact absurd (hfresh _ (List.mem_of_getElem? hj)) id
  · have hothers : w.inUse.length ≤ pages.length := h.length ▸ List.length_filterMap_le _ _
    have hcreate := Disk.createTemporary_renumbered
      (moduleFile (Spec.ofPage plan.base page)) (encode code) (hlies.cwd.trans (plan.cwd_made d).symm)
      (hlies.descendTo_absolute hdry hsteady)
      (fun above n => (hlies.get?_temporary above _ n).imp_right And.right) (by omega)
    rw [plan.absolute_made] at hcreate
    obtain ⟨f, shown, shown', hshown, hshown', htemp, htemp'⟩ |
      ⟨place, place', shown, shown', hnone, hfree, hshown, hshown', htemp, htemp', -⟩ := hcreate
    · rw [Works.step_of_turn hj (by
        simp only [Job.turn, modulePath_ofPage, Path.parent_child, Path.name_child, htemp']
        rfl)]
      refine h.set_bare hj hpage ?_ rfl fun hfresh => absurd hfresh id
      have hdirs : d.makeDirs plan.outputDir = (plan.made d, none) := by rw [← hmade]; rfl
      rw [Job.IsLike,
        (generate_of_written hdry hrender (Disk.writeWhole_of_createTemporary hdirs htemp)).2]
      exact .unwritten _ _ _ _ hshown hshown'
    · rw [Works.step_of_turn hj (by
        simp only [Job.turn, modulePath_ofPage, Path.parent_child, Path.name_child, htemp']
        rfl)]
      have hnone' : (plan.made d).get? place' = none := by
        obtain hsame | ⟨⟨content, hfile⟩, -⟩ := hlies.get? place'
        · rw [← hsame, hfree]
        · rw [hfree] at hfile
          cases hfile
      refine h.set hpage ⟨rfl, hrender, hmade, hnone', hshown', place, shown, hshown, htemp⟩ (.inr ?_)
      have hput := hlies.put_busy hmade (hlies.exists_unfinished hdry hsteady htemp') hfree (encode code)
      refine hput.mono (List.cons_subset.2 ⟨mem_inUse hj _ rfl, inUse_subset hj _ _⟩)

theorem step_unfinished (hsound : w.Sound l plan pages d) (hpage : pages[i]? = some page) {spec : Spec}
    (hj : w.jobs[i]? = some (.unfinished spec code place shown))
    (hlike : Job.IsLike l plan page d (.unfinished spec code place shown)) :
    (w.step l plan i).Together l plan pages d := by
  obtain ⟨rfl, hrender, hmade, hnone, hshown, place', shown', hshown', htemp⟩ := hlike
  obtain ⟨-, hfresh⟩ | hlies := h.disk
  · exact absurd (hfresh _ (List.mem_of_getElem? hj)) id
  · have hfile := (hsound.unfinished i _ _ _ _ hj).1
    have hstart := Overlay.made l plan pages d []
    have hunfinished := hstart.exists_unfinished hdry hsteady htemp
    obtain ⟨there, hway⟩ := Disk.exists_descendTo_of_makeDirs hmade
    have hdirs : d.makeDirs plan.outputDir = (plan.made d, none) := by rw [← hmade]; rfl
    have halone := (hstart.generate_of_createTemporary hdry hsteady hmade hway hrender hdirs htemp).2
    have hresult := @like_writtenResult plan d there _ _ _ hshown' hshown (Spec.ofPage plan.base page)
      (moduleFile (Spec.ofPage plan.base page))
    rw [← halone] at hresult
    have hmoved : ∀ D j', Overlay l plan pages d (Works.inUse ⟨D, w.jobs.set i j'⟩) (w.disk.erase place) :=
      fun D j' => (hlies.mono (inUse_subset hj D j')).erase_busy hmade hunfinished hnone
    have hmove := hlies.moveOver_eq hdry hsteady hway hfile
      (moduleFile_ne_dots (Spec.ofPage plan.base page)) shown
    cases herror : plan.moveError? d there (moduleFile (Spec.ofPage plan.base page)) shown with
    | some e =>
      rw [herror] at hmove hresult
      rw [Works.step_of_turn hj (by simp only [Job.turn, modulePath_ofPage, hmove]; rfl)]
      exact h.set hpage hresult (.inr (hmoved _ _))
    | none =>
      rw [herror] at hmove hresult
      rw [Works.step_of_turn hj (by simp only [Job.turn, modulePath_ofPage, hmove]; rfl)]
      rw [← modulePath_ofPage]
      refine h.set hpage hresult (.inr ?_)
      refine (hmoved _ _).put_module hmade hunfinished (List.mem_of_getElem? hpage)
        ⟨hresult.isDone_eq, there, hway, rfl⟩ _

theorem step (hsound : w.Sound l plan pages d)
    (hroom : (plan.made d).entries.length + pages.length < Disk.mostShortNames) (i : Nat) :
    (w.step l plan i).Together l plan pages d := by
  cases hj : w.jobs[i]? with
  | none =>
    rw [Works.step_of_none hj]
    exact h
  | some j =>
    obtain ⟨page, hpage, hlike⟩ := h.jobs i j hj
    cases j with
    | waiting page' =>
      obtain rfl : page' = page := hlike
      exact h.step_waiting hdry hsteady hpage hj
    | ready spec code => exact h.step_ready hdry hsteady hroom hpage hj hlike
    | unfinished spec code place shown => exact h.step_unfinished hdry hsteady hsound hpage hj hlike
    | ended r =>
      rw [Works.step_of_ended hj]
      exact h

end Turn

theorem run (h : w.Together l plan pages d) (hdry : plan.dryRun = false)
    (hsteady : plan.IsSteady l pages d) (hsound : w.Sound l plan pages d)
    (hroom : (plan.made d).entries.length + pages.length < Disk.mostShortNames) (turns : List Nat) :
    (w.run l plan turns).Together l plan pages d := by
  induction turns generalizing w with
  | nil => exact h
  | cons i turns ih => exact ih (h.step hdry hsteady hsound hroom i) (hsound.step hdry i)

end Works.Together

/-! ### Work that needs no care -/

theorem Job.turn_waiting_dry (hdry : plan.dryRun = true) (page : Page) (d : Disk) :
    Job.turn l plan d (.waiting page) = (d, .ended (generate l plan page d).2.2) := by
  cases hrender : renderWith l (Spec.ofPage plan.base page) with
  | error f => simp [Job.turn, generate, hrender]
  | ok code => simp [Job.turn, generate, hrender, write, hdry]

/-- Whatever turns are taken, a dry run comes to the same. -/
theorem run_eq_of_dry (hdry : plan.dryRun = true) {turns : List Nat} {d' : Disk} {rs : List Result}
    (h : Works.run l plan ⟨d, pages.map .waiting⟩ turns = ⟨d', rs.map .ended⟩) :
    d' = d ∧ rs = pages.map fun page => (generate l plan page d).2.2 := by
  let about (page : Page) (j : Job) := j = .waiting page ∨ j = .ended (generate l plan page d).2.2
  have hrun : ∀ (turns : List Nat) (w : Works), w.disk = d → w.Each about pages →
      (w.run l plan turns).disk = d ∧ (w.run l plan turns).Each about pages := by
    intro turns
    induction turns with
    | nil => exact fun w hdisk heach => ⟨hdisk, heach⟩
    | cons i turns ih =>
      intro w hdisk heach
      have hstep : (w.step l plan i).disk = d ∧ (w.step l plan i).Each about pages := by
        cases hj : w.jobs[i]? with
        | none => simpa [Works.step, hj] using And.intro hdisk heach
        | some j =>
          obtain ⟨page, hpage, rfl | rfl⟩ := heach.jobs i j hj
          · rw [Works.step_of_turn hj (Job.turn_waiting_dry hdry page w.disk), hdisk]
            exact ⟨rfl, heach.set hpage (.inr rfl) d⟩
          · rw [Works.step_of_turn hj rfl]
            exact ⟨hdisk, heach.set hpage (.inr rfl) w.disk⟩
      exact ih _ hstep.1 hstep.2
  obtain ⟨hdisk, heach⟩ := hrun turns ⟨d, pages.map .waiting⟩ rfl (.start (fun page => .inl rfl) pages d)
  rw [h] at hdisk heach
  refine ⟨hdisk, ?_⟩
  have heach : List.Forall₂ (fun page r => r = (generate l plan page d).2.2) pages rs :=
    heach.forall₂.imp fun page r habout => by simpa [about] using habout
  rw [← List.forall₂_eq_eq_eq]
  exact (List.forall₂_map_left_iff.2 heach).flip

theorem run_eq_of_nil {turns : List Nat} {d' : Disk} {rs : List Result}
    (h : Works.run l plan ⟨d, []⟩ turns = ⟨d', rs.map .ended⟩) : d' = d ∧ rs = [] := by
  have hnil : Works.run l plan ⟨d, []⟩ turns = ⟨d, []⟩ := by
    clear h
    induction turns with
    | nil => rfl
    | cons i turns ih => exact ih
  obtain ⟨rfl, hrs⟩ : d = d' ∧ [] = rs.map Job.ended := by simpa using hnil.symm.trans h
  exact ⟨rfl, List.map_eq_nil_iff.1 hrs.symm⟩

/-- What is left of the work on a page: as many turns as it may take. -/
def Job.finish (l : Layout) (plan : Plan) (d : Disk) (j : Job) : Disk × Job :=
  let x := j.turn l plan d
  let y := x.2.turn l plan x.1
  y.2.turn l plan y.1

/-- A page that is the only one comes to what it comes to alone. -/
theorem run_eq_of_single {turns : List Nat} {d' : Disk} {rs : List Result}
    (h : Works.run l plan ⟨d, [.waiting page]⟩ turns = ⟨d', rs.map .ended⟩) :
    d' = (generate l plan page d).1 ∧ rs = [(generate l plan page d).2.2] := by
  have hrun : ∀ (turns : List Nat) D j,
      Job.finish l plan D j = ((generate l plan page d).1, .ended (generate l plan page d).2.2) →
      Works.run l plan ⟨D, [j]⟩ turns = ⟨d', rs.map .ended⟩ →
      d' = (generate l plan page d).1 ∧ rs = [(generate l plan page d).2.2] := by
    intro turns
    induction turns with
    | nil =>
      intro D j hfinish h
      obtain ⟨rfl, hjobs⟩ : D = d' ∧ [j] = rs.map .ended := by simpa [Works.run] using h
      obtain ⟨r, rfl, rfl⟩ : ∃ r, rs = [r] ∧ j = .ended r := by
        obtain ⟨r, rest, rfl, rfl, hrest⟩ := List.map_eq_cons_iff.1 hjobs.symm
        exact ⟨r, by rw [List.map_eq_nil_iff.1 hrest], rfl⟩
      have hsame : D = (generate l plan page d).1 ∧ r = (generate l plan page d).2.2 := by
        simpa [Job.finish, Job.turn] using hfinish
      exact ⟨hsame.1, by rw [hsame.2]⟩
    | cons i turns ih =>
      intro D j hfinish h
      cases i with
      | zero =>
        refine ih (j.turn l plan D).1 (j.turn l plan D).2 ?_ h
        -- one turn more, after the work has ended
        have hmore : Job.finish l plan (j.turn l plan D).1 (j.turn l plan D).2 =
            (Job.finish l plan D j).2.turn l plan (Job.finish l plan D j).1 := rfl
        rw [hmore, hfinish]
        rfl
      | succ i => exact ih D j hfinish h
  exact hrun turns d (.waiting page) (turn_turn_turn l plan page d) h

end Componentry.Generation
