import Componentry.Proofs.Files.Alike
import Componentry.Proofs.Files.Listing
import Componentry.Proofs.Files.WholeFile

/-!
Two disks that differ in the content of one file. All paths lead to the same places on both, so directories
are made and files are written alike; only who reads that file can tell them apart.
-/
namespace Componentry.Files
open Componentry.Text

namespace Disk

/-- The second disk is the first with maybe other content in the file at a place. -/
structure Rewritten (q : Place) (d d' : Disk) : Prop where
  cwd : d'.cwd = d.cwd
  get? : ∀ place, place ≠ q → d'.get? place = d.get? place
  file : ∃ content, d.get? q = some (.file content)
  file' : ∃ content, d'.get? q = some (.file content)

/-- Other content for a file. -/
def rewrite (d : Disk) (q : Place) (content : Bytes) : Disk :=
  { d with entries := d.entries.map fun e => if e.1 = q then (q, .file content) else e }

theorem places_rewrite (d : Disk) (q : Place) (content : Bytes) :
    (d.rewrite q content).entries.map Prod.fst = d.entries.map Prod.fst := by
  rw [rewrite, List.map_map]
  apply List.map_congr_left
  rintro ⟨place, e⟩ -
  by_cases hplace : place = q
  · simp [hplace]
  · simp [hplace]

theorem lookup_rewrite (es : List (Place × Entry)) (q : Place) (e : Entry) (place : Place) :
    (es.map fun x => if x.1 = q then (q, e) else x).lookup place =
      if place = q then (es.lookup q).map fun _ => e else es.lookup place := by
  induction es with
  | nil => simp
  | cons x es ih =>
    obtain ⟨r, e'⟩ := x
    rw [List.map_cons]
    by_cases hr : r = q
    · subst hr
      by_cases hplace : place = r
      · simp [hplace]
      · rw [if_pos rfl, if_neg hplace, List.lookup_cons, List.lookup_cons, beq_false_of_ne hplace, ih,
          if_neg hplace]
    · rw [if_neg hr, List.lookup_cons, ih]
      by_cases hplace : place = q
      · subst hplace
        rw [if_pos rfl, if_pos rfl, List.lookup_cons, beq_false_of_ne (Ne.symm hr)]
      · rw [if_neg hplace, if_neg hplace, List.lookup_cons]

theorem rewritten_rewrite {d : Disk} {q : Place} {old : Bytes} (h : d.get? q = some (.file old))
    (content : Bytes) : d.Rewritten q (d.rewrite q content) := by
  have hroot : q ≠ [] := place_ne_nil_of_file h
  have hget : ∀ place, (d.rewrite q content).get? place =
      if place = q then some (.file content) else d.get? place := by
    intro place
    unfold Disk.get? rewrite at *
    rw [if_neg hroot] at h
    by_cases hplace : place = q
    · subst hplace
      rw [if_neg hroot, lookup_rewrite, if_pos rfl, h, if_pos rfl]
      rfl
    · rw [lookup_rewrite, if_neg hplace, if_neg hplace]
  refine ⟨rfl, fun place hplace => ?_, ⟨old, h⟩, ⟨content, ?_⟩⟩
  · rw [hget, if_neg hplace]
  · rw [hget, if_pos rfl]

namespace Rewritten
variable {q here place source there : Place} {d d' : Disk} {p : Path} {follow : Bool} {links : Nat}
  {names : List Text} {name : Text} {content : Bytes}

/-! ### Ways -/

theorem get?_directory_iff (h : Rewritten q d d') :
    d'.get? place = some .directory ↔ d.get? place = some .directory := by
  by_cases hplace : place = q
  · subst hplace
    obtain ⟨c, hfile⟩ := h.file
    obtain ⟨c', hfile'⟩ := h.file'
    simp [hfile, hfile']
  · rw [h.get? place hplace]

theorem get?_none_iff (h : Rewritten q d d') : d'.get? place = none ↔ d.get? place = none := by
  by_cases hplace : place = q
  · subst hplace
    obtain ⟨c, hfile⟩ := h.file
    obtain ⟨c', hfile'⟩ := h.file'
    simp [hfile, hfile']
  · rw [h.get? place hplace]

/-- Where the same names lead on both disks: to the same, or to the file. -/
inductive SameSpot (q : Place) : Except Failure Spot → Except Failure Spot → Prop
  | error (f : Failure) : SameSpot q (.error f) (.error f)
  | free (place : Place) : SameSpot q (.ok (.free place)) (.ok (.free place))
  | found {place : Place} (elsewhere : place ≠ q) (e : Entry) :
    SameSpot q (.ok (.found place e)) (.ok (.found place e))
  | file (content content' : Bytes) :
    SameSpot q (.ok (.found q (.file content))) (.ok (.found q (.file content')))

theorem SameSpot.eq_or {r r' : Except Failure Spot} (h : SameSpot q r r') :
    r' = r ∨ ∃ content content', r = .ok (.found q (.file content)) ∧ r' = .ok (.found q (.file content')) := by
  cases h with
  | error f => exact .inl rfl
  | free place => exact .inl rfl
  | found _ e => exact .inl rfl
  | file content content' => exact .inr ⟨content, content', rfl, rfl⟩

theorem walkNames_sameSpot (h : Rewritten q d d') {jump jump' : Place → List Text → Except Failure Spot}
    (hjump : ∀ here names, SameSpot q (jump here names) (jump' here names)) (here : Place)
    (names : List Text) :
    SameSpot q (d.walkNames follow jump here names) (d'.walkNames follow jump' here names) := by
  obtain ⟨c, hfile⟩ := h.file
  obtain ⟨c', hfile'⟩ := h.file'
  induction here, names using d.names_induction with
  | nil here =>
    rw [walkNames, walkNames]
    by_cases hhere : here = q
    · subst hhere
      rw [hfile, hfile']
      exact .file c c'
    · rw [h.get? here hhere]
      cases d.get? here with
      | none => exact .error _
      | some e => exact .found hhere e
  | dots here rest ih =>
    rw [walkNames_dots, walkNames_dots]
    exact ih
  | long here name rest hname hlong =>
    rw [walkNames_long hname hlong, walkNames_long hname hlong]
    exact .error _
  | missing here name rest hname hget =>
    rw [walkNames_missing hname hget, walkNames_missing hname (h.get?_none_iff.2 hget)]
    split
    · exact .free _
    · exact .error _
  | file here name rest content hname hget =>
    rw [walkNames_file hname hget]
    by_cases hnext : here ++ [name] = q
    · rw [← hnext] at hfile'
      rw [walkNames_file hname hfile']
      split
      · rw [hnext]
        exact .file content c'
      · exact .error _
    · rw [walkNames_file hname ((h.get? _ hnext).trans hget)]
      split
      · exact .found hnext _
      · exact .error _
  | directory here name rest hname hget ih =>
    rw [walkNames_directory hname hget, walkNames_directory hname (h.get?_directory_iff.2 hget)]
    exact ih
  | link here name rest target hname hget =>
    have hnext : here ++ [name] ≠ q := by
      intro he
      rw [he, hfile] at hget
      cases hget
    rw [walkNames_link hname hget, walkNames_link hname ((h.get? _ hnext).trans hget)]
    split
    · exact .found hnext _
    · exact hjump _ _

theorem walk_sameSpot (h : Rewritten q d d') (here : Place) (names : List Text) :
    SameSpot q (d.walk follow links here names) (d'.walk follow links here names) := by
  induction links generalizing here names with
  | zero => exact h.walkNames_sameSpot (fun _ _ => .error .tooManyLinks) here names
  | succ links ih => exact h.walkNames_sameSpot ih here names

theorem locate_sameSpot (h : Rewritten q d d') (follow : Bool) (p : Path) :
    SameSpot q (d.locate follow p) (d'.locate follow p) := by
  rw [locate, locate, h.cwd]
  exact h.walk_sameSpot _ _

theorem locate_eq (h : Rewritten q d d') (hp : ∀ e, d.locate follow p ≠ .ok (.found q e)) :
    d'.locate follow p = d.locate follow p := by
  obtain hsame | ⟨content, -, hlocate, -⟩ := (h.locate_sameSpot follow p).eq_or
  · exact hsame
  · exact absurd hlocate (hp _)

theorem isDirectory_eq (h : Rewritten q d d') (p : Path) : d'.isDirectory p = d.isDirectory p := by
  unfold isDirectory entry?
  obtain hsame | ⟨content, content', hlocate, hlocate'⟩ := (h.locate_sameSpot true p).eq_or
  · rw [hsame]
  · rw [hlocate, hlocate']

theorem isFile_eq (h : Rewritten q d d') (p : Path) : d'.isFile p = d.isFile p := by
  unfold isFile entry?
  obtain hsame | ⟨content, content', hlocate, hlocate'⟩ := (h.locate_sameSpot true p).eq_or
  · rw [hsame]
  · rw [hlocate, hlocate']

theorem descendNames_eq (h : Rewritten q d d') {jump jump' : Place → List Text → Except Failure Place}
    (hjump : ∀ here names, jump' here names = jump here names) (here : Place) (names : List Text) :
    d'.descendNames jump' here names = d.descendNames jump here names := by
  obtain ⟨c, hfile⟩ := h.file
  obtain ⟨c', hfile'⟩ := h.file'
  induction here, names using d.names_induction with
  | nil here => rfl
  | dots here rest ih =>
    rw [descendNames_dots, descendNames_dots]
    exact ih
  | long here name rest hname hlong =>
    rw [descendNames_long hname hlong, descendNames_long hname hlong]
  | missing here name rest hname hget =>
    rw [descendNames_missing hname hget, descendNames_missing hname (h.get?_none_iff.2 hget)]
  | file here name rest content hname hget =>
    rw [descendNames_file hname hget]
    by_cases hnext : here ++ [name] = q
    · rw [← hnext] at hfile'
      rw [descendNames_file hname hfile']
    · rw [descendNames_file hname ((h.get? _ hnext).trans hget)]
  | directory here name rest hname hget ih =>
    rw [descendNames_directory hname hget, descendNames_directory hname (h.get?_directory_iff.2 hget)]
    exact ih
  | link here name rest target hname hget =>
    have hnext : here ++ [name] ≠ q := by
      intro he
      rw [he, hfile] at hget
      cases hget
    rw [descendNames_link hname hget, descendNames_link hname ((h.get? _ hnext).trans hget)]
    exact hjump _ _

theorem descendTo_eq (h : Rewritten q d d') (p : Path) : d'.descendTo p = d.descendTo p := by
  have hdescend : ∀ (links : Nat) here names, d'.descend links here names = d.descend links here names := by
    intro links
    induction links with
    | zero => exact fun here names => h.descendNames_eq (fun _ _ => rfl) here names
    | succ links ih => exact fun here names => h.descendNames_eq ih here names
  rw [descendTo, descendTo, h.cwd]
  exact hdescend _ _ _

/-! ### Changes -/

theorem put_file (h : Rewritten q d d') (hroot : place ≠ []) (content : Bytes) :
    Rewritten q (d.put place (.file content)) (d'.put place (.file content)) := by
  have hget : ∀ x : Disk, (x.put place (.file content)).get? place = some (.file content) :=
    fun x => get?_put_self hroot
  refine ⟨h.cwd, fun other hother => ?_, ?_, ?_⟩
  · by_cases hsame : other = place
    · rw [hsame, hget, hget]
    · rw [get?_put_of_ne hsame, get?_put_of_ne hsame, h.get? other hother]
  · by_cases hq : q = place
    · exact ⟨content, by rw [hq, hget]⟩
    · rw [get?_put_of_ne hq]
      exact h.file
  · by_cases hq : q = place
    · exact ⟨content, by rw [hq, hget]⟩
    · rw [get?_put_of_ne hq]
      exact h.file'

theorem ne_of_none (h : Rewritten q d d') (hfree : d.get? place = none) : place ≠ q := by
  intro he
  obtain ⟨content, hfile⟩ := h.file
  rw [← he, hfree] at hfile
  cases hfile

theorem put_directory (h : Rewritten q d d') (hfree : d.get? place = none) :
    Rewritten q (d.put place .directory) (d'.put place .directory) := by
  have hq : q ≠ place := (h.ne_of_none hfree).symm
  refine ⟨h.cwd, fun other hother => ?_, ?_, ?_⟩
  · by_cases hsame : other = place
    · have hroot := place_ne_nil_of_free hfree
      rw [hsame, get?_put_self hroot, get?_put_self hroot]
    · rw [get?_put_of_ne hsame, get?_put_of_ne hsame, h.get? other hother]
  · rw [get?_put_of_ne hq]
    exact h.file
  · rw [get?_put_of_ne hq]
    exact h.file'

theorem erase (h : Rewritten q d d') (hq : q ≠ place) :
    Rewritten q (d.erase place) (d'.erase place) := by
  refine ⟨h.cwd, fun other hother => ?_, ?_, ?_⟩
  · by_cases hsame : other = place
    · subst hsame
      by_cases hroot : other = []
      · subst hroot
        rfl
      · rw [get?_erase_self hroot, get?_erase_self hroot]
    · rw [get?_erase_of_ne hsame, get?_erase_of_ne hsame, h.get? other hother]
  · rw [get?_erase_of_ne hq]
    exact h.file
  · rw [get?_erase_of_ne hq]
    exact h.file'

theorem makeDir_alike (h : Rewritten q d d') (p : Path) :
    Alike (Rewritten q) (d.makeDir p) (d'.makeDir p) := by
  unfold makeDir
  obtain hsame | ⟨content, content', hlocate, hlocate'⟩ := (h.locate_sameSpot false p).eq_or
  · rw [hsame]
    cases hlocate : d.locate false p with
    | error f => exact .error _
    | ok spot =>
      cases spot with
      | found place e => exact .error _
      | free place => exact .ok (h.put_directory (get?_of_locate_free hlocate))
  · rw [hlocate, hlocate']
    exact .error _

theorem makeDirs_alike (h : Rewritten q d d') (p : Path) :
    Rewritten q (d.makeDirs p).1 (d'.makeDirs p).1 ∧ (d'.makeDirs p).2 = (d.makeDirs p).2 :=
  makeDirs_related _ h fun _ _ h => ⟨h.isDirectory_eq _, h.makeDir_alike _⟩

/-- A file is written alike on both disks. -/
theorem writeWhole_alike (h : Rewritten q d d') (p : Path) (hname : name ≠ (".." : Text))
    (content : Bytes) :
    Rewritten q (d.writeWhole (p.child name) content).1 (d'.writeWhole (p.child name) content).1 ∧
      (d'.writeWhole (p.child name) content).2 = (d.writeWhole (p.child name) content).2 := by
  obtain ⟨hmade, hsame⟩ := h.makeDirs_alike p
  rcases hdirs : d.makeDirs p with ⟨d₁, e?⟩
  rcases hdirs' : d'.makeDirs p with ⟨d₁', e?'⟩
  have hway : e? = none → ∃ there, d₁.descendTo p = .ok there := by
    rintro rfl
    have hexists := exists_descendTo_of_makeDirs (d := d) (p := p) (by rw [hdirs])
    rwa [hdirs] at hexists
  rw [hdirs, hdirs'] at hmade hsame
  dsimp only at hmade hsame
  subst hsame
  cases e?' with
  | some e =>
    rw [writeWhole_of_makeDirs hdirs, writeWhole_of_makeDirs hdirs']
    exact ⟨hmade, rfl⟩
  | none =>
    obtain ⟨there, hway⟩ := hway rfl
    obtain ⟨e, htemp, htemp'⟩ | ⟨place, shown, hfree, hfree', htemp, htemp'⟩ :=
      createTemporary_cases name content hmade.cwd (hmade.descendTo_eq (d₁.absolute p))
        fun _ _ => hmade.get?_none_iff
    · rw [writeWhole_of_createTemporary hdirs htemp, writeWhole_of_createTemporary hdirs' htemp']
      exact ⟨hmade, rfl⟩
    · have hroot := place_ne_nil_of_free hfree
      have htemporary := hmade.put_file hroot content
      have hway' : d₁'.descendTo p = .ok there := (hmade.descendTo_eq p).trans hway
      rw [writeWhole_of_moveOver hdirs htemp, writeWhole_of_moveOver hdirs' htemp',
        moveOver_eq shown hname (get?_put_self hroot) (descendTo_put_free hfree hway),
        moveOver_eq shown hname (get?_put_self hroot) (descendTo_put_free hfree' hway')]
      simp only [htemporary.get?_directory_iff]
      have herased := htemporary.erase (hmade.ne_of_none hfree).symm
      by_cases hlong : longestName < (encode name).length
      · rw [if_pos hlong, if_pos hlong]
        exact ⟨herased, rfl⟩
      · rw [if_neg hlong, if_neg hlong]
        by_cases hdir : (d₁.put place (.file content)).get? (there ++ [name]) = some .directory
        · rw [if_pos hdir, if_pos hdir]
          exact ⟨herased, rfl⟩
        · rw [if_neg hdir, if_neg hdir]
          exact ⟨herased.put_file (by simp) content, rfl⟩

/-! ### Documentation files -/

/-- A listing does not depend on what is in files. -/
theorem documentation?_eq (h : Rewritten q d d')
    (hplaces : d'.entries.map Prod.fst = d.entries.map Prod.fst) (dir : Path) :
    d'.documentation? dir = d.documentation? dir := by
  have hbelow : ∀ place, d'.below place = d.below place := by
    have hkeys : ∀ (x : Disk) place, x.below place = (x.entries.map Prod.fst).filterMap fun key =>
        if place.isPrefixOf key && key.length > place.length then some (key.drop place.length) else none := by
      intro x place
      rw [below, List.filterMap_map]
      rfl
    intro place
    rw [hkeys, hkeys, hplaces]
  unfold documentation?
  simp only [hbelow, funext h.isFile_eq]
  obtain hsame | ⟨content, content', hlocate, hlocate'⟩ := (h.locate_sameSpot true dir).eq_or
  · rw [hsame]
  · rw [hlocate, hlocate']

end Rewritten
end Disk
end Componentry.Files
