import Componentry.Proofs.Files.Tree
import Componentry.Proofs.Files.Writing

/-!
Two disks that differ in one place, where one has an entry and the other has nothing. What is found on
the second is found on the first; what only the first finds lies behind the entry.
-/
namespace Componentry.Files
open Componentry.Text

namespace Disk

/-- The second disk is the first without what is at a place. -/
structure LacksAt (q : Place) (d d' : Disk) : Prop where
  cwd : d'.cwd = d.cwd
  get? : ∀ place, place ≠ q → d'.get? place = d.get? place
  gone : d'.get? q = none
  isSome : d.get? q ≠ none

theorem lacksAt_erase {d : Disk} {q : Place} {e : Entry} (h : d.get? q = some e) (hroot : q ≠ []) :
    LacksAt q d (d.erase q) where
  cwd := rfl
  get? := fun _ hne => get?_erase_of_ne hne
  gone := get?_erase_self hroot
  isSome := by simp [h]

namespace LacksAt
variable {q here there place : Place} {d d' : Disk} {follow : Bool} {links : Nat} {names : List Text}

theorem get?_of_some (h : LacksAt q d d') {e : Entry} (hget : d'.get? place = some e) :
    d.get? place = some e := by
  rw [← h.get? place, hget]
  intro he
  subst he
  rw [h.gone] at hget
  cases hget

theorem ne_of_none (h : LacksAt q d d') (hget : d.get? place = none) : place ≠ q := by
  intro he
  subst he
  exact h.isSome hget

/-! ### What the second disk finds -/

theorem walkNames_found (h : LacksAt q d d') {jump jump' : Place → List Text → Except Failure Spot}
    {e : Entry}
    (hjump : ∀ here names, jump' here names = .ok (.found place e) → jump here names = .ok (.found place e))
    (hwalk : d'.walkNames follow jump' here names = .ok (.found place e)) :
    d.walkNames follow jump here names = .ok (.found place e) := by
  induction here, names using d'.names_induction with
  | nil here =>
    rw [walkNames] at hwalk ⊢
    cases hget : d'.get? here with
    | none => simp [hget] at hwalk
    | some e' =>
      rw [h.get?_of_some hget]
      simpa only [hget] using hwalk
  | dots here rest ih =>
    rw [walkNames_dots] at hwalk ⊢
    exact ih hwalk
  | long here name rest hname hlong =>
    rw [walkNames_long hname hlong] at hwalk
    cases hwalk
  | missing here name rest hname hget =>
    rw [walkNames_missing hname hget] at hwalk
    split at hwalk <;> cases hwalk
  | file here name rest content hname hget =>
    rw [walkNames_file hname hget] at hwalk
    rw [walkNames_file hname (h.get?_of_some hget)]
    exact hwalk
  | directory here name rest hname hget ih =>
    rw [walkNames_directory hname hget] at hwalk
    rw [walkNames_directory hname (h.get?_of_some hget)]
    exact ih hwalk
  | link here name rest target hname hget =>
    rw [walkNames_link hname hget] at hwalk
    rw [walkNames_link hname (h.get?_of_some hget)]
    split at hwalk
    · next hend =>
      rw [if_pos hend]
      exact hwalk
    · next hend =>
      rw [if_neg hend]
      exact hjump _ _ hwalk

theorem walk_found (h : LacksAt q d d') {e : Entry}
    (hwalk : d'.walk follow links here names = .ok (.found place e)) :
    d.walk follow links here names = .ok (.found place e) := by
  induction links generalizing here names with
  | zero => exact h.walkNames_found (fun _ _ hstop => by cases hstop) hwalk
  | succ links ih => exact h.walkNames_found (fun _ _ hwalk => ih hwalk) hwalk

theorem locate_found (h : LacksAt q d d') {p : Path} {e : Entry}
    (hlocate : d'.locate follow p = .ok (.found place e)) : d.locate follow p = .ok (.found place e) := by
  rw [locate] at hlocate ⊢
  rw [h.cwd] at hlocate
  exact h.walk_found hlocate

theorem descendNames_ok (h : LacksAt q d d') {jump jump' : Place → List Text → Except Failure Place}
    (hjump : ∀ here names, jump' here names = .ok there → jump here names = .ok there)
    (hway : d'.descendNames jump' here names = .ok there) : d.descendNames jump here names = .ok there := by
  induction here, names using d'.names_induction with
  | nil here => exact hway
  | dots here rest ih =>
    rw [descendNames_dots] at hway ⊢
    exact ih hway
  | long here name rest hname hlong =>
    rw [descendNames_long hname hlong] at hway
    cases hway
  | missing here name rest hname hget =>
    rw [descendNames_missing hname hget] at hway
    cases hway
  | file here name rest content hname hget =>
    rw [descendNames_file hname hget] at hway
    cases hway
  | directory here name rest hname hget ih =>
    rw [descendNames_directory hname hget] at hway
    rw [descendNames_directory hname (h.get?_of_some hget)]
    exact ih hway
  | link here name rest target hname hget =>
    rw [descendNames_link hname hget] at hway
    rw [descendNames_link hname (h.get?_of_some hget)]
    exact hjump _ _ hway

theorem descend_ok (h : LacksAt q d d') (hway : d'.descend links here names = .ok there) :
    d.descend links here names = .ok there := by
  induction links generalizing here names with
  | zero => exact h.descendNames_ok (fun _ _ hstop => by cases hstop) hway
  | succ links ih => exact h.descendNames_ok (fun _ _ hway => ih hway) hway

theorem descendTo_ok (h : LacksAt q d d') {p : Path} (hway : d'.descendTo p = .ok there) :
    d.descendTo p = .ok there := by
  rw [descendTo] at hway ⊢
  rw [h.cwd] at hway
  exact h.descend_ok hway

/-- A path whose last name was the entry leads to no file without it. -/
theorem isFile_eq_false (h : LacksAt q d d') {p : Path} {name : Text} (hname : name ≠ (".." : Text))
    {e : Entry} (hlocate : d.locate false (p.child name) = .ok (.found q e)) :
    d'.isFile (p.child name) = false := by
  obtain ⟨there', hway', hshort, rfl, -⟩ := locate_child_found hname hlocate
  unfold isFile entry?
  cases hway : d'.descendTo p with
  | error f => rw [locate_child_error hname hway]
  | ok there =>
    have hthere := h.descendTo_ok hway
    rw [hway'] at hthere
    cases hthere
    have hstop : d'.StopsAt true name there' := by
      refine .inr fun target hlink => ?_
      rw [h.gone] at hlink
      cases hlink
    rw [locate_child_followed hname hway hstop, lookAt, if_neg (Nat.not_lt.2 hshort), h.gone]

/-! ### What only the first disk finds -/

/-- A way that goes through the entry: to it, or on from it if it is a link. -/
def Through (q : Place) (d : Disk) (place : Place) (e : Entry) : Prop :=
  place = q ∨ ∃ target links names, d.get? q = some (.link target) ∧
    d.walk true links (linkBase q target) ((Path.ofText target).parts ++ names) = .ok (.found place e)

theorem walkNames_through (h : LacksAt q d d') {jump jump' : Place → List Text → Except Failure Spot}
    {e : Entry}
    (hjump : ∀ here names, jump here names = .ok (.found place e) →
      jump' here names = .ok (.found place e) ∨ Through q d place e)
    (hlast : ∀ here names, jump here names = .ok (.found place e) →
      ∃ links, d.walk true links here names = .ok (.found place e))
    (hq : d.get? q ≠ some .directory)
    (hwalk : d.walkNames true jump here names = .ok (.found place e)) :
    d'.walkNames true jump' here names = .ok (.found place e) ∨ Through q d place e := by
  induction here, names using d.names_induction with
  | nil here =>
    by_cases hhere : here = q
    · subst hhere
      rw [walkNames] at hwalk
      cases hget : d.get? here with
      | none => exact absurd hget h.isSome
      | some e' =>
        simp only [hget, Except.ok.injEq, Spot.found.injEq] at hwalk
        exact .inr (.inl hwalk.1.symm)
    · left
      rw [walkNames] at hwalk ⊢
      rwa [h.get? here hhere]
  | dots here rest ih =>
    rw [walkNames_dots] at hwalk ⊢
    exact ih hwalk
  | long here name rest hname hlong =>
    rw [walkNames_long hname hlong] at hwalk
    cases hwalk
  | missing here name rest hname hget =>
    rw [walkNames_missing hname hget] at hwalk
    split at hwalk <;> cases hwalk
  | file here name rest content hname hget =>
    by_cases hnext : here ++ [name] = q
    · rw [walkNames_file hname hget] at hwalk
      split at hwalk
      · cases hwalk
        exact .inr (.inl hnext)
      · cases hwalk
    · left
      rw [walkNames_file hname hget] at hwalk
      rw [walkNames_file hname ((h.get? _ hnext).trans hget)]
      exact hwalk
  | directory here name rest hname hget ih =>
    by_cases hnext : here ++ [name] = q
    · rw [hnext] at hget
      exact absurd hget hq
    · rw [walkNames_directory hname hget] at hwalk
      rw [walkNames_directory hname ((h.get? _ hnext).trans hget)]
      exact ih hwalk
  | link here name rest target hname hget =>
    rw [walkNames_followed hname hget] at hwalk
    by_cases hnext : here ++ [name] = q
    · obtain ⟨links, hlinks⟩ := hlast _ _ hwalk
      have hbase : linkBase q target = if (Path.ofText target).isAbsolute then [] else here := by
        rw [linkBase, ← hnext, List.dropLast_concat]
      rw [hnext] at hget
      rw [← hbase] at hlinks
      exact .inr (.inr ⟨target, links, rest, hget, hlinks⟩)
    · rw [walkNames_followed hname ((h.get? _ hnext).trans hget)]
      exact hjump _ _ hwalk

theorem walk_through (h : LacksAt q d d') {e : Entry} (hq : d.get? q ≠ some .directory)
    (hwalk : d.walk true links here names = .ok (.found place e)) :
    d'.walk true links here names = .ok (.found place e) ∨ Through q d place e := by
  induction links generalizing here names with
  | zero =>
    exact h.walkNames_through (fun _ _ hstop => by cases hstop) (fun _ _ hstop => by cases hstop) hq hwalk
  | succ links ih =>
    exact h.walkNames_through (fun _ _ hwalk => ih hwalk) (fun _ _ hwalk => ⟨links, hwalk⟩) hq hwalk

end LacksAt

/-! ### Names of one file -/

variable {q : Place} {d d' : Disk}

/-- Where a path leads whose last name is an entry: to it, or where it leads if it is a link. -/
theorem locate_of_last {p : Path} {name : Text} (hname : name ≠ (".." : Text)) {e : Entry}
    (hlocate : d.locate false (p.child name) = .ok (.found q e)) {s : Spot}
    (hs : d.locate true (p.child name) = .ok s) :
    (∃ target links, e = .link target ∧
      d.walk true links (linkBase q target) (Path.ofText target).parts = .ok s) ∨
    s = .found q e := by
  obtain ⟨there, hway, hshort, rfl, hget⟩ := locate_child_found hname hlocate
  by_cases hlink : ∃ target, e = .link target
  · obtain ⟨target, rfl⟩ := hlink
    obtain ⟨links, hlinks⟩ := walk_link_last hname hget hway hs
    exact .inl ⟨target, links, rfl, hlinks⟩
  · have hstop : d.StopsAt true name there := by
      refine .inr fun target htarget => hlink ⟨target, ?_⟩
      rw [hget] at htarget
      exact Option.some.inj htarget
    rw [locate_child_followed hname hway hstop, lookAt, if_neg (Nat.not_lt.2 hshort), hget] at hs
    exact .inr (Except.ok.inj hs).symm

/-- An entry that is or leads to a file is no directory. -/
theorem get?_ne_directory {p : Path} {name : Text} (hname : name ≠ (".." : Text)) {e : Entry}
    (hlocate : d.locate false (p.child name) = .ok (.found q e))
    (hfile : d.isFile (p.child name) = true) : d.get? q ≠ some .directory := by
  obtain ⟨place, content, hplace⟩ := exists_of_isFile hfile
  rw [get?_of_locate_found hlocate]
  rintro ⟨⟩
  obtain ⟨_, _, he, -⟩ | he := locate_of_last hname hlocate hplace
  · cases he
  · cases he

/-- Without an entry that is or leads to a file, a path leads where it did, unless that is this file. -/
theorem IsTree.locate_of_lacksAt (htree : d.IsTree) (h : LacksAt q d d') {p r : Path} {name : Text}
    (hname : name ≠ (".." : Text)) {e : Entry}
    (hlocate : d.locate false (p.child name) = .ok (.found q e))
    (hfile : d.isFile (p.child name) = true) {place' : Place} {e' : Entry}
    (hr : d.locate true r = .ok (.found place' e')) (hlink : ∀ target, e' ≠ .link target) :
    d'.locate true r = .ok (.found place' e') ∨ d.locate true r = d.locate true (p.child name) := by
  obtain ⟨place, content, hplace⟩ := exists_of_isFile hfile
  have hget : d.get? q = some e := get?_of_locate_found hlocate
  have hlast := locate_of_last hname hlocate hplace
  obtain hfound | rfl | ⟨target, links, names, htarget, hwalk⟩ :=
      h.walk_through (get?_ne_directory hname hlocate hfile) hr
  · left
    rw [locate]
    rw [h.cwd]
    exact hfound
  · right
    have hget' := get?_of_locate_found hr
    rw [hget] at hget'
    cases hget'
    obtain ⟨target, _, he, -⟩ | he := hlast
    · exact absurd he (hlink target)
    · rw [hr, hplace, he]
  · right
    rw [hget] at htarget
    cases htarget
    obtain ⟨_, links', he, hwalk'⟩ | he := hlast
    · cases he
      have hbase : d.get? (linkBase q target) = some .directory := by
        rw [linkBase]
        split
        · rfl
        · exact htree.parent hget
      rw [hr, hplace, (htree.walk_file hbase hwalk' hwalk).2]
    · cases he

end Disk
end Componentry.Files
