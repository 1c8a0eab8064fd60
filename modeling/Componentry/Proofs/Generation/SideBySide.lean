import Componentry.Proofs.Files.Alike
import Componentry.Proofs.Generation.Turns

/-!
Two runs over the same pages, one on a disk that lacks a documentation file of the other. If writing does
not lead over that file, every turn does the same to both, so they give the same results.
-/
namespace Componentry.Generation
open Componentry.Component Componentry.Document Componentry.Files Componentry.Text

variable {l : Layout} {plan : Plan} {pages : List Page} {q : Place} {first d d' : Disk} {w w' : Works}

/-- A place with the name of a documentation file. -/
def IsDocumentationPlace (q : Place) : Prop := ∃ there s, q = there ++ [s ++ documentationEnd]

/-- Neither the output directory nor the directory of unfinished files leads over a place. -/
structure Plan.Avoids (plan : Plan) (d : Disk) (q : Place) : Prop where
  output : d.Avoids q plan.outputDir
  absolute : d.Avoids q (d.absolute plan.outputDir)

instance (plan : Plan) (d : Disk) (q : Place) : Decidable (plan.Avoids d q) :=
  decidable_of_iff (d.Avoids q plan.outputDir ∧ d.Avoids q (d.absolute plan.outputDir))
    ⟨fun h => ⟨h.1, h.2⟩, fun h => ⟨h.output, h.absolute⟩⟩

theorem append_md_eq (s : Text) : s ++ documentationEnd = (s ++ ['.', 'm']) ++ ['d'] := by
  rw [List.append_assoc]
  rfl

theorem IsDocumentationPlace.ne_temporary (h : IsDocumentationPlace q) (name : Text) (there : Place)
    (n : Nat) : there ++ [Disk.temporaryName name n] ≠ q := by
  obtain ⟨there', s, rfl⟩ := h
  intro he
  have hname := (List.append_singleton_inj.1 he).2
  rw [append_md_eq] at hname
  exact Disk.temporaryName_ne_append name n _ rfl hname

theorem IsDocumentationPlace.ne_module (h : IsDocumentationPlace q) (spec : Spec) (there : Place) :
    there ++ [moduleFile spec] ≠ q := by
  obtain ⟨there', s, rfl⟩ := h
  have hlast : (s ++ documentationEnd).getLast? ≠ some 'x' := by
    rw [append_md_eq, List.getLast?_concat]
    simp
  intro he
  exact moduleFile_ne spec hlast (List.append_singleton_inj.1 he).2

theorem isDocumentationPlace_of_locate {p : Path} {name : Text} (hname : name ≠ (".." : Text))
    (hend : endsWith documentationEnd name = true) {e : Entry}
    (h : d.locate false (p.child name) = .ok (.found q e)) : IsDocumentationPlace q := by
  obtain ⟨there, -, -, rfl, -⟩ := Disk.locate_child_found hname h
  rw [endsWith, startsWith] at hend
  obtain ⟨r, hr⟩ := Option.isSome_iff_exists.1 hend
  refine ⟨there, r.reverse, ?_⟩
  have hreverse := congrArg List.reverse (eq_append_of_after? hr)
  rw [List.reverse_reverse, List.reverse_append, List.reverse_reverse] at hreverse
  rw [hreverse]

/-! ### Writing -/

/-- A turn does the same to both disks. -/
theorem Job.turn_alike (hkeeps : first.Keeps IsModulePlace d) (h : Disk.LacksAt q d d')
    (hplan : plan.Avoids first q) (hq : IsDocumentationPlace q) (hdry : plan.dryRun = false) {j : Job}
    (hisOf : j.IsOf l plan pages)
    (hsource : ∀ spec code place shown, j = .unfinished spec code place shown → d'.get? place ≠ none) :
    Disk.LacksAt q (j.turn l plan d).1 (j.turn l plan d').1 ∧
      (j.turn l plan d').2 = (j.turn l plan d).2 := by
  cases j with
  | waiting page =>
    simp only [Job.turn]
    cases renderWith l (Spec.ofPage plan.base page) with
    | error f => exact ⟨h, rfl⟩
    | ok code =>
      dsimp only
      rw [hdry, modulePath_ofPage, Path.parent_child]
      obtain ⟨hlacks, hsame⟩ := h.makeDirs_alike hkeeps hplan.output
      simp only [Bool.false_eq_true, if_false]
      rcases hdirs : d.makeDirs plan.outputDir with ⟨d₁, r⟩
      rcases hdirs' : d'.makeDirs plan.outputDir with ⟨d₁', r'⟩
      rw [hdirs, hdirs'] at hlacks hsame
      dsimp only at hlacks hsame
      subst hsame
      cases r' with
      | none => exact ⟨hlacks, rfl⟩
      | some e => exact ⟨hlacks, rfl⟩
  | ready spec code =>
    simp only [Job.turn]
    rw [hisOf.1.modulePath_eq, Path.parent_child]
    have habsolute : first.Avoids q (d.absolute plan.outputDir) := by
      rw [Disk.absolute_congr hkeeps.cwd]
      exact hplan.absolute
    have halike := @Disk.LacksAt.createTemporary_alike _ _ _ _ _ plan.outputDir
      (plan.outputDir.child (moduleFile spec)).name (encode code) h hkeeps habsolute (hq.ne_temporary _)
    revert halike
    generalize d.createTemporary _ _ _ = x
    generalize d'.createTemporary _ _ _ = x'
    rintro (e | ⟨hlacks, hsame⟩)
    · exact ⟨h, rfl⟩
    · next r r' =>
      obtain ⟨d₁, place, shown⟩ := r
      obtain ⟨d₁', place', shown'⟩ := r'
      cases hsame
      exact ⟨hlacks, rfl⟩
  | unfinished spec code place shown =>
    have hthere := hsource spec code place shown rfl
    have hne : place ≠ q := by
      intro he
      subst he
      exact hthere h.gone
    simp only [Job.turn]
    rw [hisOf.1.modulePath_eq]
    have halike := h.moveOver_alike hkeeps hplan.output (moduleFile_ne_dots spec) (hq.ne_module spec) shown
      hthere
    revert halike
    generalize d.moveOver _ _ _ = x
    generalize d'.moveOver _ _ _ = x'
    rintro (e | hlacks)
    · exact ⟨h.erase hne, rfl⟩
    · exact ⟨hlacks, rfl⟩
  | ended r => exact ⟨h, rfl⟩

theorem Works.Sound.step_alike (h : w.Sound l plan pages first) (h' : w'.Sound l plan pages d')
    (hlacks : Disk.LacksAt q w.disk w'.disk) (hjobs : w'.jobs = w.jobs) (hplan : plan.Avoids first q)
    (hq : IsDocumentationPlace q) (hdry : plan.dryRun = false) (i : Nat) :
    Disk.LacksAt q (w.step l plan i).disk (w'.step l plan i).disk ∧
      (w'.step l plan i).jobs = (w.step l plan i).jobs := by
  unfold Works.step
  cases hj : w.jobs[i]? with
  | none =>
    simp only [hjobs, hj]
    exact ⟨hlacks, trivial⟩
  | some j =>
    have hsource : ∀ spec code place shown, j = .unfinished spec code place shown →
        w'.disk.get? place ≠ none := by
      intro spec code place shown he
      subst he
      rw [(h'.unfinished i spec code place shown (by rw [hjobs, hj])).1]
      simp
    obtain ⟨hdisks, hsame⟩ := Job.turn_alike h.keeps hlacks hplan hq hdry
      (h.isOf j (List.mem_of_getElem? hj)) hsource
    simp only [hjobs, hj, hsame]
    exact ⟨hdisks, trivial⟩

theorem Works.Sound.run_alike (h : w.Sound l plan pages first) (h' : w'.Sound l plan pages d')
    (hlacks : Disk.LacksAt q w.disk w'.disk) (hjobs : w'.jobs = w.jobs) (hplan : plan.Avoids first q)
    (hq : IsDocumentationPlace q) (hdry : plan.dryRun = false) (turns : List Nat) :
    (w'.run l plan turns).jobs = (w.run l plan turns).jobs := by
  induction turns generalizing w w' with
  | nil => exact hjobs
  | cons i turns ih =>
    obtain ⟨hlacks, hjobs⟩ := h.step_alike h' hlacks hjobs hplan hq hdry i
    exact ih (h.step hdry i) (h'.step hdry i) hlacks hjobs

/-! ### Dry runs -/

/-- A job that has nothing on the disk. -/
def Job.IsIdle : Job → Prop
  | .waiting _ => True
  | .ended _ => True
  | _ => False

theorem Job.turn_dry (hdry : plan.dryRun = true) {j : Job} (hj : j.IsIdle) :
    ∃ j', j'.IsIdle ∧ ∀ d, j.turn l plan d = (d, j') := by
  cases j with
  | waiting page =>
    simp only [Job.turn]
    cases renderWith l (Spec.ofPage plan.base page) with
    | error f =>
      exact ⟨.ended (.failed (Spec.ofPage plan.base page).name (.template f)), trivial, fun d => rfl⟩
    | ok code =>
      simp only [if_pos hdry]
      exact ⟨.ended (.done (Spec.ofPage plan.base page) _ true), trivial, fun d => rfl⟩
  | ready spec code => exact absurd hj id
  | unfinished spec code place shown => exact absurd hj id
  | ended r => exact ⟨.ended r, trivial, fun d => rfl⟩

/-- A dry run comes to the same on any disk. -/
theorem Works.run_dry (hdry : plan.dryRun = true) (hjobs : w'.jobs = w.jobs) (hidle : ∀ j ∈ w.jobs, j.IsIdle)
    (turns : List Nat) : (w'.run l plan turns).jobs = (w.run l plan turns).jobs := by
  induction turns generalizing w w' with
  | nil => exact hjobs
  | cons i turns ih =>
    have hstep : (w'.step l plan i).jobs = (w.step l plan i).jobs ∧
        ∀ j ∈ (w.step l plan i).jobs, j.IsIdle := by
      cases hj : w.jobs[i]? with
      | none =>
        simp only [Works.step, hjobs, hj]
        exact ⟨trivial, hidle⟩
      | some j =>
        obtain ⟨j', hj', hturn⟩ := @Job.turn_dry l plan hdry j (hidle j (List.mem_of_getElem? hj))
        simp only [Works.step, hjobs, hj, hturn]
        refine ⟨trivial, ?_⟩
        intro other hother
        obtain hold | rfl := List.mem_or_eq_of_mem_set hother
        · exact hidle other hold
        · exact hj'
    exact ih hstep.1 hstep.2

/-! ### From the start -/

/-- Without a documentation file that writing does not lead over, the same pages come to the same
results. -/
theorem run_eq_of_erase {e : Entry} (hget : d.get? q = some e) (hq : IsDocumentationPlace q)
    (hplan : plan.dryRun = true ∨ plan.Avoids d q) {turns : List Nat} {after : Disk} {rs : List Result}
    (h : Works.run l plan ⟨d, pages.map .waiting⟩ turns = ⟨after, rs.map .ended⟩) :
    ∃ after', Works.run l plan ⟨d.erase q, pages.map .waiting⟩ turns = ⟨after', rs.map .ended⟩ := by
  have hroot : q ≠ [] := by
    obtain ⟨there, s, rfl⟩ := hq
    simp
  have hjobs : (Works.run l plan ⟨d.erase q, pages.map .waiting⟩ turns).jobs = rs.map .ended := by
    have hsame : (Works.run l plan ⟨d.erase q, pages.map .waiting⟩ turns).jobs =
        (Works.run l plan ⟨d, pages.map .waiting⟩ turns).jobs := by
      by_cases hdry : plan.dryRun = true
      · refine @Works.run_dry l plan ⟨d, _⟩ ⟨d.erase q, _⟩ hdry rfl ?_ turns
        intro j hj
        obtain ⟨page, -, rfl⟩ := List.mem_map.1 hj
        trivial
      · rw [Bool.not_eq_true] at hdry
        have havoids : plan.Avoids d q := by
          obtain htrue | havoids := hplan
          · rw [hdry] at htrue
            cases htrue
          · exact havoids
        exact (Works.Sound.start l plan pages d).run_alike (Works.Sound.start l plan pages (d.erase q))
          (Disk.lacksAt_erase hget hroot) rfl havoids hq hdry turns
    rw [hsame, h]
  exact ⟨_, by rw [← hjobs]⟩

end Componentry.Generation
