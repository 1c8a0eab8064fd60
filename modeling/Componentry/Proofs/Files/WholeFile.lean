import Componentry.Proofs.Files.Keeping
import Componentry.Proofs.Files.NewDirectories
import Componentry.Proofs.Files.PathText

/-!
A file is written as a whole or not at all, in one place: whatever the disk, a failure leaves nothing
but new directories on the way to it, and success changes no other place.
-/
namespace Componentry.Files
open Componentry.Text

namespace Disk
variable {d d' : Disk} {p : Path} {place there : Place} {name : Text} {content : Bytes} {e : Entry}

/-- Every place holds the same. -/
structure Same (d d' : Disk) : Prop where
  cwd : d'.cwd = d.cwd
  get? : ∀ place, d'.get? place = d.get? place

theorem Same.refl (d : Disk) : d.Same d := ⟨rfl, fun _ => rfl⟩

/-! ### The stages -/

/-- Moving a file to an entry of a directory that its path leads to. -/
theorem moveOver_eq {source : Place} (shown : Path) (hname : name ≠ (".." : Text))
    (hsource : d.get? source = some e) (hway : d.descendTo p = .ok there) :
    d.moveOver source shown (p.child name) =
      if longestName < (encode name).length then
        .error ⟨.nameTooLong, shown.toText, some (p.child name).toText⟩
      else if d.get? (there ++ [name]) = some .directory then
        .error ⟨.isDirectory, shown.toText, some (p.child name).toText⟩
      else .ok ((d.erase source).put (there ++ [name]) e) := by
  rw [moveOver, locate_child hname, hsource, hway]
  simp only [Except.bind, lookAt]
  by_cases hlong : longestName < (encode name).length
  · rw [if_pos hlong, if_pos hlong]
  · rw [if_neg hlong, if_neg hlong]
    cases hget : d.get? (there ++ [name]) with
    | none => rfl
    | some old => cases old <;> rfl

/-- A way leads over directories and links, so a file in a free place does not matter. -/
theorem descendTo_put_free (hfree : d.get? place = none) (hway : d.descendTo p = .ok there) :
    (d.put place (.file content)).descendTo p = .ok there := by
  have hkeeps : d.Keeps (fun _ => False) (d.put place (.file content)) := .put_free hfree content
  exact hkeeps.descendTo_ok (fun _ _ _ => id) hway

/-- An unfinished file is gone without a trace if it is taken away. -/
theorem same_erase_put (hfree : d.get? place = none) :
    d.Same ((d.put place (.file content)).erase place) where
  cwd := rfl
  get? := by
    intro other
    by_cases hother : other = place
    · subst hother
      rw [get?_erase_self (place_ne_nil_of_free hfree), hfree]
    · rw [get?_erase_of_ne hother, get?_put_of_ne hother]

/-- If it is moved instead, only the place it is moved to has changed. -/
theorem gains_erase_put (hfree : d.get? place = none) {target : Place} (htarget : target ≠ []) :
    d.Gains target content (((d.put place (.file content)).erase place).put target (.file content)) where
  cwd := rfl
  file := get?_put_self htarget
  others := by
    intro other hother
    rw [get?_put_of_ne hother, (same_erase_put hfree).get? other]

/-! ### All stages -/

section Stages
variable {d₁ d₂ : Disk} {f : FileError}

theorem writeWhole_of_makeDirs (hdirs : d.makeDirs p = (d₁, some f)) :
    d.writeWhole (p.child name) content = (d₁, some f) := by
  rw [writeWhole, Path.parent_child, hdirs]

theorem writeWhole_of_createTemporary (hdirs : d.makeDirs p = (d₁, none))
    (htemp : d₁.createTemporary p name content = .error f) :
    d.writeWhole (p.child name) content = (d₁, some f) := by
  rw [writeWhole, Path.parent_child, Path.name_child, hdirs]
  simp only [htemp]

theorem writeWhole_of_moveOver {shown : Path} (hdirs : d.makeDirs p = (d₁, none))
    (htemp : d₁.createTemporary p name content = .ok (d₂, place, shown)) :
    d.writeWhole (p.child name) content =
      match d₂.moveOver place shown (p.child name) with
      | .ok d₃ => (d₃, none)
      | .error f => (d₂.erase place, some f) := by
  rw [writeWhole, Path.parent_child, Path.name_child, hdirs]
  cases hmove : d₂.moveOver place shown (p.child name) with
  | ok d₃ => simp only [htemp, hmove]
  | error f => simp only [htemp, hmove]

end Stages

theorem exists_descendTo_of_makeDirs (h : (d.makeDirs p).2 = none) :
    ∃ there, (d.makeDirs p).1.descendTo p = .ok there :=
  exists_descendTo_of_isDirectory (isDirectory_of_makeDirs h)

/-- A file is written to its place in the directory, or nothing but new directories remains. -/
theorem writeWhole_child (d : Disk) (p : Path) (hname : name ≠ (".." : Text)) (content : Bytes) :
    (∃ there, (d.writeWhole (p.child name) content).2 = none ∧
      (d.makeDirs p).1.descendTo p = .ok there ∧ (encode name).length ≤ longestName ∧
      (d.makeDirs p).1.get? (there ++ [name]) ≠ some .directory ∧
      (d.makeDirs p).1.Gains (there ++ [name]) content (d.writeWhole (p.child name) content).1) ∨
    ((∃ f, (d.writeWhole (p.child name) content).2 = some f) ∧
      (d.makeDirs p).1.Same (d.writeWhole (p.child name) content).1) := by
  rcases hdirs : d.makeDirs p with ⟨d₁, none | f⟩
  · obtain ⟨there, hway⟩ := exists_descendTo_of_makeDirs (d := d) (p := p) (by rw [hdirs])
    rw [hdirs] at hway
    rcases htemp : d₁.createTemporary p name content with f | ⟨d₂, place, shown⟩
    · rw [writeWhole_of_createTemporary hdirs htemp]
      exact .inr ⟨⟨f, rfl⟩, .refl d₁⟩
    · rw [writeWhole_of_moveOver hdirs htemp]
      obtain ⟨hfree, rfl, -⟩ := createTemporary_ok htemp
      have hsource : (d₁.put place (.file content)).get? place = some (.file content) :=
        get?_put_self (place_ne_nil_of_free hfree)
      rw [moveOver_eq shown hname hsource (descendTo_put_free hfree hway)]
      by_cases hlong : longestName < (encode name).length
      · rw [if_pos hlong]
        exact .inr ⟨⟨_, rfl⟩, same_erase_put hfree⟩
      · rw [if_neg hlong]
        by_cases hdir : (d₁.put place (.file content)).get? (there ++ [name]) = some .directory
        · rw [if_pos hdir]
          exact .inr ⟨⟨_, rfl⟩, same_erase_put hfree⟩
        · rw [if_neg hdir]
          refine .inl ⟨there, rfl, hway, Nat.le_of_not_lt hlong, ?_, gains_erase_put hfree (by simp)⟩
          intro hget
          refine hdir ?_
          rw [get?_put_of_ne, hget]
          intro he
          rw [← he, hget] at hfree
          cases hfree
  · rw [writeWhole_of_makeDirs hdirs]
    exact .inr ⟨⟨f, rfl⟩, .refl d₁⟩

/-- A file that was written is found at its path, if the path still leads to its directory. -/
theorem Gains.locate_child (h : d.Gains (there ++ [name]) content d') (hname : name ≠ (".." : Text))
    (hshort : (encode name).length ≤ longestName) (hdir : d.get? (there ++ [name]) ≠ some .directory)
    (hway : d.descendTo p = .ok there)
    (hstill : d'.isDirectory p = true ∨ ∀ target, d.get? (there ++ [name]) ≠ some (.link target))
    (follow : Bool) :
    d'.locate follow (p.child name) = .ok (.found (there ++ [name]) (.file content)) := by
  have hkeeps : d.Keeps (· = there ++ [name]) d' := .of_gains h hdir rfl
  have hway' : d'.descendTo p = .ok there := by
    obtain hstill | hlink := hstill
    · obtain ⟨there', hway'⟩ := exists_descendTo_of_isDirectory hstill
      rw [hway', hkeeps.descendTo_eq hway hway']
    · refine hkeeps.descendTo_ok ?_ hway
      intro other target hget he
      subst he
      exact hlink target hget
  have hlook : d'.lookAt name there = .ok (.found (there ++ [name]) (.file content)) := by
    rw [lookAt, if_neg (Nat.not_lt.2 hshort), h.file]
  cases follow with
  | false =>
    rw [Disk.locate_child hname, hway']
    exact hlook
  | true =>
    rw [locate_child_followed hname hway' (.inr (by simp [h.file])), hlook]

end Disk
end Componentry.Files
