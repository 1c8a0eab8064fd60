import Componentry.Checkout
import Componentry.Proofs.Files.NewDirectories
import Componentry.Proofs.Files.Removal

/-!
What is there when the documentation is about to be fetched: the directory for the checkout, and no
checkout in it.
-/
namespace Componentry
open Componentry.Files Componentry.Text

namespace Files.Disk
variable {d : Disk} {p : Path} {b : Bool} {e : FileError}

theorem isDirectory_of_directory? (h : d.directory? p = .ok true) : d.isDirectory p = true := by
  rw [directory?] at h
  split at h
  · cases h
  · split at h
    · cases h
    · next hlocate => exact isDirectory_of_locate hlocate
    · cases h

theorem directory?_of_isDirectory (hnull : p.hasNull = false) (h : d.isDirectory p = true) :
    d.directory? p = .ok true := by
  obtain ⟨place, hlocate⟩ := exists_of_isDirectory h
  rw [directory?, hnull, hlocate]
  rfl

theorem isDirectory_eq_false_of_directory? (hnull : p.hasNull = false) (h : d.directory? p = .ok false) :
    d.isDirectory p = false := by
  rw [← Bool.not_eq_true]
  intro hdir
  rw [directory?_of_isDirectory hnull hdir] at h
  cases h

theorem hasNull_of_directory? (h : d.directory? p = .ok true) : p.hasNull = false := by
  rw [← Bool.not_eq_true]
  intro hnull
  rw [directory?, if_pos hnull] at h
  cases h

/-- Only a name too long keeps it from being told. -/
theorem directory?_eq_error_iff :
    (∃ e, d.directory? p = .error e) ↔ p.hasNull = false ∧ d.locate true p = .error .nameTooLong := by
  rw [directory?]
  constructor
  · rintro ⟨e, he⟩
    split at he
    · cases he
    · next hnull =>
      split at he
      · next hlong => exact ⟨Bool.not_eq_true _ ▸ hnull, hlong⟩
      · cases he
      · cases he
  · rintro ⟨hnull, hlong⟩
    rw [hnull, hlong]
    exact ⟨_, rfl⟩

theorem locate_ne_of_directory? (hnull : p.hasNull = false) (h : d.directory? p = .ok b) :
    d.locate true p ≠ .error .nameTooLong := by
  intro hlong
  obtain ⟨e, he⟩ := directory?_eq_error_iff.2 ⟨hnull, hlong⟩
  rw [h] at he
  cases he

theorem exists_directory_of_isDirectory (h : d.isDirectory p = true) :
    ∃ there, d.descendTo p = .ok there ∧ d.get? there = some .directory := by
  obtain ⟨place, hlocate⟩ := exists_of_isDirectory h
  exact ⟨place, descend_of_walk hlocate, get?_of_locate_found hlocate⟩

end Files.Disk

namespace Checkout

/-! ### The paths -/

/-- The directory in which the checkout is made. -/
def workDir (base : Path) : Path := (path base).parent

def dirName : Text := "daisyui"

theorem dirName_ne_dots : dirName ≠ (".." : Text) := by decide

theorem path_join (base : Path) : path base = { base with parts := base.parts ++ (["tmp", dirName] : List Text) } := by
  have hplace : place = ⟨[], ["tmp", dirName]⟩ := by decide
  rw [path, hplace]
  rfl

theorem path_eq (base : Path) : path base = (workDir base).child dirName := by
  rw [workDir, path_join]
  simp [Path.parent, Path.child]

theorem name_path (base : Path) : (path base).name = dirName := by
  rw [path_join]
  simp [Path.name]

theorem hasNull_path (base : Path) : (path base).hasNull = base.hasNull := by
  have hnames : (["tmp", dirName] : List Text).any (fun s => s.any (· = '\x00')) = false := by decide
  rw [path_join, Path.hasNull, List.any_append, hnames, Bool.or_false, Path.hasNull]

/-! ### What is prepared -/

/-- The place of the checkout on a disk, if the way to its directory leads anywhere. -/
def PlaceAt (d : Disk) (base : Path) (c : Place) : Prop :=
  ∃ there, d.descendTo (workDir base) = .ok there ∧ c = there ++ [dirName]

/-- The disk with the directory for the checkout, as far as it can be made. -/
def made (base : Path) (d : Disk) : Disk := (d.makeDirs (workDir base)).1

/-- The directory for the checkout is there. -/
def HasWorkDir (base : Path) (d : Disk) : Prop := (d.makeDirs (workDir base)).2 = none

/-- How preparing may end, and what it leaves. -/
inductive Prepared (base : Path) (d : Disk) : Disk → Except Halt Unit → Prop
  | null (hnull : base.hasNull = true) : Prepared base d d (.error (.crashed .nullCharacter))
  | parents {e : FileError} (hnull : base.hasNull = false) (hmade : (d.makeDirs (workDir base)).2 = some e) :
      Prepared base d (made base d) (.error (.refused (.parents e)))
  | tooLong {e : FileError} (hnull : base.hasNull = false) (hmade : HasWorkDir base d)
      (hpath : (made base d).directory? (path base) = .error e) :
      Prepared base d (made base d) (.error (.crashed (.file e)))
  | absent (hnull : base.hasNull = false) (hmade : HasWorkDir base d)
      (hpath : (made base d).directory? (path base) = .ok false) : Prepared base d (made base d) (.ok ())
  | link (hnull : base.hasNull = false) (hmade : HasWorkDir base d)
      (hpath : (made base d).directory? (path base) = .ok true) :
      Prepared base d (made base d) (.error (.refused .link))
  | stuck {c : Place} {e : FileError} (hnull : base.hasNull = false) (hmade : HasWorkDir base d)
      (hpath : (made base d).directory? (path base) = .ok true) (hplace : PlaceAt (made base d) base c) :
      Prepared base d ((made base d).removeBelow c) (.error (.refused (.removal e)))
  | cleared {c : Place} (hnull : base.hasNull = false) (hmade : HasWorkDir base d)
      (hpath : (made base d).directory? (path base) = .ok true) (hplace : PlaceAt (made base d) base c) :
      Prepared base d (((made base d).removeBelow c).erase c) (.ok ())

variable {base : Path} {d : Disk}

/-- What stands at the path of the checkout, taken as it is, stands at its place. -/
theorem placeAt_of_locate {c : Place} {e : Entry} (h : d.locate false (path base) = .ok (.found c e)) :
    PlaceAt d base c := by
  rw [path_eq] at h
  obtain ⟨there, hway, -, hc, -⟩ := Disk.locate_child_found dirName_ne_dots h
  exact ⟨there, hway, hc⟩

theorem PlaceAt.unique {c c' : Place} (h : PlaceAt d base c) (h' : PlaceAt d base c') : c' = c := by
  obtain ⟨there, hway, rfl⟩ := h
  obtain ⟨there', hway', rfl⟩ := h'
  rw [Except.ok.inj (hway'.symm.trans hway)]

theorem PlaceAt.of_without {part : Place → Bool} {d' : Disk} {c : Place} (hwithout : Disk.Without part d d')
    (h : PlaceAt d' base c) : PlaceAt d base c := by
  obtain ⟨there, hway, hc⟩ := h
  exact ⟨there, hwithout.descendTo_ok hway, hc⟩

theorem prepared (base : Path) (d : Disk) : Prepared base d (prepare base d).1 (prepare base d).2.2 := by
  rw [prepare]
  split
  · next hnull => exact .null hnull
  · next hnull =>
    rw [Bool.not_eq_true] at hnull
    rcases hdirs : d.makeDirs (path base).parent with ⟨d', none | e⟩
    · have hmade : HasWorkDir base d := by rw [HasWorkDir, workDir, hdirs]
      obtain rfl : made base d = d' := by rw [made, workDir, hdirs]
      dsimp only
      rw [clear]
      cases hpath : (made base d).directory? (path base) with
      | error e => exact .tooLong hnull hmade hpath
      | ok there =>
        cases there with
        | false => exact .absent hnull hmade hpath
        | true =>
          dsimp only
          split
          · next c hlocate =>
            have hplace := placeAt_of_locate hlocate
            split
            · next c' hagain =>
              -- emptied, the directory is found at its place or not at all
              have hplace' := (placeAt_of_locate hagain).of_without (Disk.without_removeBelow _ _)
              rw [hplace.unique hplace']
              exact .cleared hnull hmade hpath hplace
            · exact .stuck hnull hmade hpath hplace
          · exact .link hnull hmade hpath
    · have hmade : (d.makeDirs (workDir base)).2 = some e := by rw [workDir, hdirs]
      obtain rfl : made base d = d' := by rw [made, workDir, hdirs]
      exact .parents hnull hmade

end Checkout
end Componentry
