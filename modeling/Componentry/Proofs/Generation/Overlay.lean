import Componentry.Proofs.Files.Alike
import Componentry.Proofs.Generation.AllOrNothing

/-!
The disk while work on several pages goes on: the directories that each page needs, overlaid with modules
of pages and with files that are not finished. The ways to the output directory stay as they are.
-/
namespace Componentry.Generation
open Componentry.Component Componentry.Document Componentry.Files Componentry.Text

variable {l : Layout} {plan : Plan} {pages : List Page} {page : Page} {d D D' : Disk}
  {busy busy' : List Place} {there place : Place}

theorem Plan.cwd_made (plan : Plan) (d : Disk) : (plan.made d).cwd = d.cwd :=
  (d.makeDirs_grows plan.outputDir).cwd

theorem Plan.absolute_made (plan : Plan) (d : Disk) (p : Path) : (plan.made d).absolute p = d.absolute p :=
  Disk.absolute_congr (plan.cwd_made d) p

/-- It comes to the same to make the output directory once more, and the module of no page takes the
place of a link on the way there. -/
structure Plan.IsSteady (l : Layout) (plan : Plan) (pages : List Page) (d : Disk) : Prop where
  again : (plan.made d).makeDirs plan.outputDir = d.makeDirs plan.outputDir
  reached : ∀ page ∈ pages, (generate l plan page d).2.2.isDone = true →
    (generate l plan page d).1.isDirectory plan.outputDir = true ∧
      (generate l plan page d).1.isDirectory (d.absolute plan.outputDir) = true

/-- The place of the module of a page that is done if it is the only one. -/
def IsModuleOf (l : Layout) (plan : Plan) (page : Page) (d : Disk) (place : Place) : Prop :=
  (generate l plan page d).2.2.isDone = true ∧ ∃ there,
    (plan.made d).descendTo plan.outputDir = .ok there ∧
      place = there ++ [moduleFile (Spec.ofPage plan.base page)]

theorem IsModuleOf.isModulePlace (h : IsModuleOf l plan page d place) : IsModulePlace place := by
  obtain ⟨-, there, -, rfl⟩ := h
  exact isModulePlace_append there _

/-- The module is written there, in place of anything but a directory. -/
theorem IsModuleOf.exists_gains (h : IsModuleOf l plan page d place) (hdry : plan.dryRun = false) :
    (plan.made d).get? place ≠ some .directory ∧
      ∃ content, (plan.made d).Gains place content (generate l plan page d).1 := by
  obtain ⟨hdone, there, hway, rfl⟩ := h
  have hgenerated := generated l hdry page d
  revert hgenerated hdone
  generalize (generate l plan page d).1 = x
  generalize (generate l plan page d).2.2 = r
  rintro hdone (_ | ⟨code, there', -, hway', -, hdir, hgains⟩ | _)
  · cases hdone
  · have hthere : there' = there := Except.ok.inj (hway'.symm.trans hway)
    subst hthere
    exact ⟨hdir, _, hgains⟩
  · cases hdone

/-- Why a file cannot be moved to a name in the output directory, if it cannot. -/
def Plan.moveError? (plan : Plan) (d : Disk) (there : Place) (name : Text) (shown : Path) : Option FileError :=
  let refuse (f : Failure) : Option FileError :=
    some ⟨f, shown.toText, some (plan.outputDir.child name).toText⟩
  if Disk.longestName < (encode name).length then refuse .nameTooLong
  else if (plan.made d).get? (there ++ [name]) = some .directory then refuse .isDirectory
  else none

/-- What may lie on the disk besides the directories for modules: files in use, in places where nothing
was, and modules of pages. -/
structure Overlay (l : Layout) (plan : Plan) (pages : List Page) (d : Disk) (busy : List Place)
    (D : Disk) : Prop where
  cwd : D.cwd = d.cwd
  get? : ∀ place, D.get? place = (plan.made d).get? place ∨
    (∃ content, D.get? place = some (.file content)) ∧
      (((plan.made d).get? place = none ∧ place ∈ busy) ∨ ∃ page ∈ pages, IsModuleOf l plan page d place)
  reached : D = plan.made d ∨ ((d.makeDirs plan.outputDir).2 = none ∧
    ∃ unfinished, (plan.made d).descendTo (d.absolute plan.outputDir) = .ok unfinished)

namespace Overlay

theorem made (l : Layout) (plan : Plan) (pages : List Page) (d : Disk) (busy : List Place) :
    Overlay l plan pages d busy (plan.made d) where
  cwd := plan.cwd_made d
  get? := fun _ => .inl rfl
  reached := .inl rfl

/-- An unfinished file that is not in use was there from the beginning. -/
theorem get?_temporary (h : Overlay l plan pages d busy D) (above : Place) (name : Text) (n : Nat) :
    D.get? (above ++ [Disk.temporaryName name n]) =
        (plan.made d).get? (above ++ [Disk.temporaryName name n]) ∨
      ((plan.made d).get? (above ++ [Disk.temporaryName name n]) = none ∧
        above ++ [Disk.temporaryName name n] ∈ busy) := by
  obtain hsame | ⟨-, hbusy | ⟨page, -, hmodule⟩⟩ := h.get? (above ++ [Disk.temporaryName name n])
  · exact .inl hsame
  · exact .inr hbusy
  · exact absurd hmodule.isModulePlace (not_isModulePlace_temporary above name n)

theorem mono (h : Overlay l plan pages d busy D) (hbusy : busy ⊆ busy') :
    Overlay l plan pages d busy' D where
  cwd := h.cwd
  get? := by
    intro place
    obtain hsame | ⟨hfile, ⟨hnone, hin⟩ | hmodule⟩ := h.get? place
    · exact .inl hsame
    · exact .inr ⟨hfile, .inl ⟨hnone, hbusy hin⟩⟩
    · exact .inr ⟨hfile, .inr hmodule⟩
  reached := h.reached

/-! ### What stays -/

section Ways
variable (h : Overlay l plan pages d busy D) (hdry : plan.dryRun = false)

include h hdry

theorem get?_directory_iff : D.get? place = some .directory ↔ (plan.made d).get? place = some .directory := by
  obtain hsame | ⟨⟨content, hfile⟩, ⟨hnone, -⟩ | ⟨page, -, hmodule⟩⟩ := h.get? place
  · rw [hsame]
  · simp [hfile, hnone]
  · simp [hfile, (hmodule.exists_gains hdry).1]

theorem keeps : (plan.made d).Keeps IsModulePlace D where
  cwd := h.cwd.trans (plan.cwd_made d).symm
  directory := fun _ hget => (h.get?_directory_iff hdry).2 hget
  link := by
    intro place target hget
    obtain hsame | ⟨hfile, ⟨hnone, -⟩ | ⟨page, -, hmodule⟩⟩ := h.get? place
    · exact .inl (by rw [hsame, hget])
    · rw [hget] at hnone
      cases hnone
    · exact .inr ⟨hmodule.isModulePlace, hfile⟩
  file := by
    intro place content _ hget
    obtain hsame | ⟨hfile, -⟩ := h.get? place
    · exact ⟨content, by rw [hsame, hget]⟩
    · exact hfile
  oldLink := by
    intro place target hget
    obtain hsame | ⟨⟨content, hfile⟩, -⟩ := h.get? place
    · rw [← hsame, hget]
    · rw [hfile] at hget
      cases hget

variable (hsteady : plan.IsSteady l pages d)

include hsteady

/-- The ways to the output directory and to that of unfinished files stay. -/
theorem descendTo {p : Path} (hp : p = plan.outputDir ∨ p = d.absolute plan.outputDir)
    (hway : (plan.made d).descendTo p = .ok there) : D.descendTo p = .ok there := by
  refine (h.keeps hdry).descendTo_of_each
    (fun x => ∃ page ∈ pages, ∃ place, IsModuleOf l plan page d place ∧ x = (generate l plan page d).1)
    ?_ ?_ ?_ hway
  · rintro x ⟨page, -, place, hmodule, rfl⟩
    obtain ⟨hdir, content, hgains⟩ := hmodule.exists_gains hdry
    exact .of_gains hgains hdir hmodule.isModulePlace
  · intro place target hget
    obtain hsame | ⟨-, ⟨hnone, -⟩ | ⟨page, hpage, hmodule⟩⟩ := h.get? place
    · exact .inl (by rw [hsame, hget])
    · rw [hget] at hnone
      cases hnone
    · obtain ⟨-, content, hgains⟩ := hmodule.exists_gains hdry
      exact .inr ⟨_, ⟨page, hpage, place, hmodule, rfl⟩, content, hgains.file⟩
  · rintro x ⟨page, hpage, place, hmodule, rfl⟩
    obtain ⟨houtput, habsolute⟩ := hsteady.reached page hpage hmodule.1
    obtain rfl | rfl := hp
    · exact Disk.exists_descendTo_of_isDirectory houtput
    · exact Disk.exists_descendTo_of_isDirectory habsolute

theorem descendTo_absolute : D.descendTo ((plan.made d).absolute plan.outputDir) =
    (plan.made d).descendTo ((plan.made d).absolute plan.outputDir) := by
  obtain rfl | ⟨-, unfinished, hway⟩ := h.reached
  · rfl
  · rw [plan.absolute_made, hway]
    exact h.descendTo hdry hsteady (.inr rfl) hway

/-- An unfinished file can come into being only if its directory could be told from the beginning. -/
theorem exists_unfinished {name : Text} {content : Bytes} {x : Disk × Place × Path}
    (htemp : D.createTemporary plan.outputDir name content = .ok x) :
    ∃ t, (plan.made d).descendTo (d.absolute plan.outputDir) = .ok t := by
  obtain ⟨-, -, t, -, hway, -⟩ := Disk.createTemporary_ok htemp
  rw [Disk.absolute_congr h.cwd, ← plan.absolute_made, h.descendTo_absolute hdry hsteady,
    plan.absolute_made] at hway
  exact ⟨t, hway⟩

/-- Making the output directory comes to what it came to at first, and changes nothing any more. -/
theorem makeDirs_eq : D.makeDirs plan.outputDir = (D, (d.makeDirs plan.outputDir).2) := by
  obtain rfl | ⟨hmade, -⟩ := h.reached
  · rw [hsteady.again]
    rfl
  · obtain ⟨there, hlocate⟩ := Disk.exists_of_isDirectory (Disk.isDirectory_of_makeDirs hmade)
    have hway := h.descendTo hdry hsteady (.inl rfl) (Disk.descend_of_walk hlocate)
    have hdir := (h.get?_directory_iff hdry).2 (Disk.get?_of_locate_found hlocate)
    rw [hmade]
    exact Disk.makeDirs_of_isDirectory (Disk.isDirectory_of_descendTo hdir hway)

/-- Moving a file to the output directory comes to the same whatever else is there. -/
theorem moveOver_eq (hway : (plan.made d).descendTo plan.outputDir = .ok there) {source : Place}
    {content : Bytes} (hfile : D.get? source = some (.file content)) {name : Text}
    (hname : name ≠ (".." : Text)) (shown : Path) :
    D.moveOver source shown (plan.outputDir.child name) =
      match plan.moveError? d there name shown with
      | some e => .error e
      | none => .ok ((D.erase source).put (there ++ [name]) (.file content)) := by
  rw [Disk.moveOver_eq shown hname hfile (h.descendTo hdry hsteady (.inl rfl) hway), Plan.moveError?]
  simp only [h.get?_directory_iff hdry]
  split
  · rfl
  · split <;> rfl

end Ways

/-! ### What comes and goes -/

/-- A file in use, in a place where nothing is. -/
theorem put_busy (h : Overlay l plan pages d busy D) (hmade : (d.makeDirs plan.outputDir).2 = none)
    (hunfinished : ∃ t, (plan.made d).descendTo (d.absolute plan.outputDir) = .ok t)
    (hfree : D.get? place = none) (content : Bytes) :
    Overlay l plan pages d (place :: busy) (D.put place (.file content)) where
  cwd := h.cwd
  get? := by
    intro other
    by_cases hother : other = place
    · subst hother
      obtain hsame | ⟨⟨content', hfile⟩, -⟩ := h.get? other
      · exact .inr ⟨⟨content, Disk.get?_put_self (Disk.place_ne_nil_of_free hfree)⟩,
          .inl ⟨hsame ▸ hfree, List.mem_cons_self⟩⟩
      · rw [hfree] at hfile
        cases hfile
    · rw [Disk.get?_put_of_ne hother]
      exact (h.mono (List.subset_cons_self place busy)).get? other
  reached := .inr ⟨hmade, hunfinished⟩

/-- It is taken away. -/
theorem erase_busy (h : Overlay l plan pages d (place :: busy) D)
    (hmade : (d.makeDirs plan.outputDir).2 = none)
    (hunfinished : ∃ t, (plan.made d).descendTo (d.absolute plan.outputDir) = .ok t)
    (hnone : (plan.made d).get? place = none) : Overlay l plan pages d busy (D.erase place) where
  cwd := h.cwd
  get? := by
    intro other
    by_cases hother : other = place
    · subst hother
      rw [Disk.get?_erase_self (Disk.place_ne_nil_of_free hnone)]
      exact .inl hnone.symm
    · rw [Disk.get?_erase_of_ne hother]
      obtain hsame | ⟨hfile, ⟨hgone, hin⟩ | hmodule⟩ := h.get? other
      · exact .inl hsame
      · exact .inr ⟨hfile, .inl ⟨hgone, (List.mem_cons.1 hin).resolve_left hother⟩⟩
      · exact .inr ⟨hfile, .inr hmodule⟩
  reached := .inr ⟨hmade, hunfinished⟩

/-- A module comes to its place. -/
theorem put_module (h : Overlay l plan pages d busy D) (hmade : (d.makeDirs plan.outputDir).2 = none)
    (hunfinished : ∃ t, (plan.made d).descendTo (d.absolute plan.outputDir) = .ok t) (hpage : page ∈ pages)
    (hmodule : IsModuleOf l plan page d place) (content : Bytes) :
    Overlay l plan pages d busy (D.put place (.file content)) where
  cwd := h.cwd
  get? := by
    intro other
    by_cases hother : other = place
    · subst hother
      refine .inr ⟨⟨content, Disk.get?_put_self ?_⟩, .inr ⟨page, hpage, hmodule⟩⟩
      obtain ⟨-, there, -, rfl⟩ := hmodule
      simp
    · rw [Disk.get?_put_of_ne hother]
      exact h.get? other
  reached := .inr ⟨hmade, hunfinished⟩

end Overlay

/-! ### Jobs on pages -/

/-- Each job is about the page in its position. -/
structure Works.Each (about : Page → Job → Prop) (pages : List Page) (w : Works) : Prop where
  length : w.jobs.length = pages.length
  jobs : ∀ (i : Nat) j, w.jobs[i]? = some j → ∃ page, pages[i]? = some page ∧ about page j

namespace Works.Each
variable {about : Page → Job → Prop} {w : Works} {rs : List Result}

theorem start (h : ∀ page, about page (.waiting page)) (pages : List Page) (d : Disk) :
    Works.Each about pages ⟨d, pages.map .waiting⟩ where
  length := by simp
  jobs := by
    intro i j hj
    rw [List.getElem?_map, Option.map_eq_some_iff] at hj
    obtain ⟨page, hpage, rfl⟩ := hj
    exact ⟨page, hpage, h page⟩

theorem set (h : w.Each about pages) {i : Nat} (hpage : pages[i]? = some page) {j : Job}
    (habout : about page j) (D : Disk) : Works.Each about pages ⟨D, w.jobs.set i j⟩ where
  length := by
    rw [List.length_set]
    exact h.length
  jobs := by
    intro k x hk
    obtain ⟨rfl, rfl⟩ | ⟨-, hk⟩ := getElem?_set_cases hk
    · exact ⟨page, hpage, habout⟩
    · exact h.jobs k x hk

/-- The results, when all jobs have ended. -/
theorem forall₂ (h : Works.Each about pages ⟨D, rs.map .ended⟩) :
    List.Forall₂ (fun page r => about page (.ended r)) pages rs := by
  have hlength : rs.length = pages.length := by simpa using h.length
  refine List.forall₂_iff_get.2 ⟨hlength.symm, fun i hi hi' => ?_⟩
  obtain ⟨page, hpage, habout⟩ := h.jobs i (.ended rs[i]) (by simp [hi'])
  obtain ⟨hlength, rfl⟩ := List.getElem?_eq_some_iff.1 hpage
  exact habout

end Works.Each

/-- The place of the unfinished file of a job. -/
def Job.inUse? : Job → Option Place
  | .unfinished _ _ place _ => some place
  | _ => none

/-- The places of unfinished files. -/
def Works.inUse (w : Works) : List Place := w.jobs.filterMap Job.inUse?

end Componentry.Generation
