import Componentry.Files.RealPath
import Componentry.Proofs.Files.Listing

/-!
The real path of a file on a tree: what is read there is what is read at any path to it, and above it lies
a directory.
-/
namespace Componentry.Files
open Componentry.Text

namespace Disk
variable {d : Disk} {p : Path} {place : Place} {name : Text} {content : Bytes}

theorem descendTo_ofPlace (h : d.IsTree) (hget : d.get? place = some .directory) :
    d.descendTo (ofPlace place) = .ok place := by
  have hbelow : d.get? ([] ++ place) = some .directory := hget
  have hroot : d.descend mostLinks [] [] = .ok [] := rfl
  exact h.descend_down hbelow hroot

theorem locate_ofPlace_directory (h : d.IsTree) (hget : d.get? place = some .directory) :
    d.locate true (ofPlace place) = .ok (.found place .directory) :=
  walk_of_descend hget (descendTo_ofPlace h hget)

theorem locate_ofPlace_file (h : d.IsTree) (hget : d.get? (place ++ [name]) = some (.file content)) :
    d.locate true (ofPlace (place ++ [name])) = .ok (.found (place ++ [name]) (.file content)) := by
  obtain ⟨hdots, hshort⟩ := h.name hget
  have habove : d.get? place = some .directory := by
    have hparent := h.parent hget
    rwa [List.dropLast_concat] at hparent
  have hstop : d.StopsAt true name place := .inr fun target hlink => by
    rw [hget] at hlink
    cases hlink
  have hchild : ofPlace (place ++ [name]) = (ofPlace place).child name := rfl
  rw [hchild, locate_child_followed hdots (descendTo_ofPlace h habove) hstop, lookAt,
    if_neg (Nat.not_lt.2 hshort), hget]

theorem exists_of_readBytes (h : d.readBytes p = .ok content) :
    ∃ place, d.locate true p = .ok (.found place (.file content)) := by
  unfold readBytes at h
  split at h
  · cases h
  · cases h
  · next place _ hlocate =>
    cases h
    exact ⟨place, hlocate⟩
  · cases h

/-- A file that can be read has a real path: the place where it lies. -/
theorem realPath_of_readBytes (hread : d.readBytes p = .ok content) :
    ∃ place name, d.realPath p = .ok (ofPlace (place ++ [name])) ∧
      d.get? (place ++ [name]) = some (.file content) := by
  obtain ⟨place, hlocate⟩ := exists_of_readBytes hread
  have hget := get?_of_locate_found hlocate
  obtain ⟨above, name, rfl⟩ : ∃ above name, place = above ++ [name] :=
    ⟨_, _, (List.dropLast_concat_getLast (place_ne_nil_of_file hget)).symm⟩
  refine ⟨above, name, ?_, hget⟩
  rw [realPath, realPlace, hlocate]
  rfl

end Disk
end Componentry.Files
