import Componentry.Proofs.Files.Descend

/-!
Disks whose entries form a tree. On such a disk a way does not depend on how many links may be followed,
and a way that ends at a file goes no further.
-/
namespace Componentry.Files
open Componentry.Text

namespace Disk
variable {d : Disk} {follow : Bool} {here there place : Place} {names : List Text}

/-- What is above an entry is a directory, and entries have names that can be looked up. -/
def IsTree (d : Disk) : Prop :=
  ∀ x ∈ d.entries, d.get? x.1.dropLast = some .directory ∧
    ∀ name ∈ x.1.getLast?, name ≠ (".." : Text) ∧ (encode name).length ≤ longestName

instance (d : Disk) : Decidable d.IsTree := by
  unfold IsTree
  infer_instance

theorem mem_entries_of_get? {e : Entry} (h : d.get? place = some e) (hroot : place ≠ []) :
    (place, e) ∈ d.entries := by
  rw [get?] at h
  rw [if_neg hroot] at h
  obtain ⟨before, after, hentries, -⟩ := List.lookup_eq_some_iff.1 h
  simp [hentries]

theorem IsTree.parent (h : d.IsTree) {e : Entry} (hget : d.get? place = some e) :
    d.get? place.dropLast = some .directory := by
  by_cases hroot : place = []
  · subst hroot
    rfl
  · exact (h _ (mem_entries_of_get? hget hroot)).1

theorem IsTree.name (h : d.IsTree) {name : Text} {e : Entry}
    (hget : d.get? (here ++ [name]) = some e) :
    name ≠ (".." : Text) ∧ (encode name).length ≤ longestName :=
  (h _ (mem_entries_of_get? hget (by simp))).2 name (by simp)

/-! ### How many links may be followed -/

theorem walkNames_mono {jump jump' : Place → List Text → Except Failure Spot}
    (hjump : ∀ here names s, jump here names = .ok s → jump' here names = .ok s) {s : Spot}
    (h : d.walkNames follow jump here names = .ok s) :
    d.walkNames follow jump' here names = .ok s := by
  induction here, names using d.names_induction with
  | nil here => exact h
  | dots here rest ih =>
    rw [walkNames_dots] at h ⊢
    exact ih h
  | long here name rest hname hlong =>
    rw [walkNames_long hname hlong] at h
    cases h
  | missing here name rest hname hget =>
    rw [walkNames_missing hname hget] at h ⊢
    exact h
  | file here name rest content hname hget =>
    rw [walkNames_file hname hget] at h ⊢
    exact h
  | directory here name rest hname hget ih =>
    rw [walkNames_directory hname hget] at h ⊢
    exact ih h
  | link here name rest target hname hget =>
    rw [walkNames_link hname hget] at h ⊢
    split at h
    · next hend =>
      rw [if_pos hend]
      exact h
    · next hend =>
      rw [if_neg hend]
      exact hjump _ _ _ h

theorem walk_succ {links : Nat} {s : Spot} (h : d.walk follow links here names = .ok s) :
    d.walk follow (links + 1) here names = .ok s := by
  induction links generalizing here names s with
  | zero => exact walkNames_mono (fun _ _ _ hstop => by cases hstop) h
  | succ links ih => exact walkNames_mono (fun _ _ _ hjump => ih hjump) h

theorem walk_mono {links links' : Nat} (hle : links ≤ links') {s : Spot}
    (h : d.walk follow links here names = .ok s) : d.walk follow links' here names = .ok s := by
  induction hle with
  | refl => exact h
  | step _ ih => exact walk_succ ih

/-! ### Nothing lies below a file -/

theorem IsTree.eq_nil_of_walkNames_file (h : d.IsTree) {jump : Place → List Text → Except Failure Spot}
    {content : Bytes} {s : Spot} {more : List Text}
    (hjump : ∀ here names, d.get? here = some .directory →
      jump here names = .ok (.found there (.file content)) → jump here (names ++ more) = .ok s → more = [])
    (hhere : d.get? here = some .directory)
    (hfile : d.walkNames true jump here names = .ok (.found there (.file content)))
    (hmore : d.walkNames true jump here (names ++ more) = .ok s) : more = [] := by
  induction here, names using d.names_induction with
  | nil here =>
    rw [walkNames, hhere] at hfile
    cases hfile
  | dots here rest ih =>
    rw [walkNames_dots] at hfile
    rw [List.cons_append, walkNames_dots] at hmore
    exact ih (h.parent hhere) hfile hmore
  | long here name rest hname hlong =>
    rw [walkNames_long hname hlong] at hfile
    cases hfile
  | missing here name rest hname hget =>
    rw [walkNames_missing hname hget] at hfile
    split at hfile <;> cases hfile
  | file here name rest content' hname hget =>
    rw [List.cons_append, walkNames_file hname hget] at hmore
    split at hmore
    · next hend => exact (List.append_eq_nil_iff.1 hend).2
    · cases hmore
  | directory here name rest hname hget ih =>
    rw [walkNames_directory hname hget] at hfile
    rw [List.cons_append, walkNames_directory hname hget] at hmore
    exact ih hget hfile hmore
  | link here name rest target hname hget =>
    rw [walkNames_followed hname hget] at hfile
    rw [List.cons_append, walkNames_followed hname hget, ← List.append_assoc] at hmore
    refine hjump _ _ ?_ hfile hmore
    split
    · rfl
    · exact hhere

/-- A way that leads to a file leads to nothing else with more names. -/
theorem IsTree.walk_file (h : d.IsTree) {links links' : Nat} {content : Bytes} {s : Spot}
    {more : List Text} (hhere : d.get? here = some .directory)
    (hfile : d.walk true links here names = .ok (.found there (.file content)))
    (hmore : d.walk true links' here (names ++ more) = .ok s) :
    more = [] ∧ s = .found there (.file content) := by
  have hsame : ∀ (n : Nat) (here : Place) (names : List Text), d.get? here = some .directory →
      d.walk true n here names = .ok (.found there (.file content)) →
      d.walk true n here (names ++ more) = .ok s → more = [] := by
    intro n
    induction n with
    | zero => exact fun here names hhere => h.eq_nil_of_walkNames_file (fun _ _ _ hstop => by cases hstop) hhere
    | succ n ih => exact fun here names hhere => h.eq_nil_of_walkNames_file ih hhere
  have hfile' := walk_mono (Nat.le_max_left links links') hfile
  have hmore' := walk_mono (Nat.le_max_right links links') hmore
  have hnil := hsame _ here names hhere hfile' hmore'
  subst hnil
  rw [List.append_nil, hfile'] at hmore'
  cases hmore'
  exact ⟨rfl, rfl⟩

/-! ### A link at the end -/

/-- The directory from which the target of a link is followed. -/
def linkBase (link : Place) (target : Text) : Place :=
  if (Path.ofText target).isAbsolute then [] else link.dropLast

theorem walkNames_link_last {jump : Place → List Text → Except Failure Spot}
    {jumpTo : Place → List Text → Except Failure Place} {name target : Text}
    (hname : name ≠ (".." : Text)) (hlink : d.get? (there ++ [name]) = some (.link target)) {s : Spot}
    (hjump : ∀ here names, jumpTo here names = .ok there → jump here (names ++ [name]) = .ok s →
      ∃ links, d.walk true links (linkBase (there ++ [name]) target) (Path.ofText target).parts = .ok s)
    (hlast : ∀ here names, jump here names = .ok s → ∃ links, d.walk true links here names = .ok s)
    (hway : d.descendNames jumpTo here names = .ok there)
    (h : d.walkNames true jump here (names ++ [name]) = .ok s) :
    ∃ links, d.walk true links (linkBase (there ++ [name]) target) (Path.ofText target).parts =
      .ok s := by
  induction here, names using d.names_induction with
  | nil here =>
    cases hway
    have hisName : IsName name := by
      refine ⟨hname, Nat.le_of_not_lt fun hlong => ?_⟩
      rw [List.nil_append, walkNames_long hname hlong] at h
      cases h
    rw [List.nil_append, walkNames_followed hisName hlink, List.append_nil] at h
    obtain ⟨links, hlinks⟩ := hlast _ _ h
    refine ⟨links, ?_⟩
    rw [linkBase, List.dropLast_concat]
    exact hlinks
  | dots here rest ih =>
    rw [descendNames_dots] at hway
    rw [List.cons_append, walkNames_dots] at h
    exact ih hway h
  | long here first rest hfirst hlong =>
    rw [descendNames_long hfirst hlong] at hway
    cases hway
  | missing here first rest hfirst hget =>
    rw [descendNames_missing hfirst hget] at hway
    cases hway
  | file here first rest content hfirst hget =>
    rw [descendNames_file hfirst hget] at hway
    cases hway
  | directory here first rest hfirst hget ih =>
    rw [descendNames_directory hfirst hget] at hway
    rw [List.cons_append, walkNames_directory hfirst hget] at h
    exact ih hway h
  | link here first rest target' hfirst hget =>
    rw [descendNames_link hfirst hget] at hway
    rw [List.cons_append, walkNames_followed hfirst hget, ← List.append_assoc] at h
    exact hjump _ _ hway h

/-- Following a path to a link at its end is following the link. -/
theorem walk_link_last {links : Nat} {name target : Text} (hname : name ≠ (".." : Text))
    (hlink : d.get? (there ++ [name]) = some (.link target)) {s : Spot}
    (hway : d.descend links here names = .ok there)
    (h : d.walk true links here (names ++ [name]) = .ok s) :
    ∃ links', d.walk true links' (linkBase (there ++ [name]) target) (Path.ofText target).parts =
      .ok s := by
  induction links generalizing here names with
  | zero =>
    refine walkNames_link_last hname hlink ?_ ?_ hway h
    · exact fun _ _ hstop => by cases hstop
    · exact fun _ _ hstop => by cases hstop
  | succ links ih =>
    refine walkNames_link_last hname hlink ?_ ?_ hway h
    · exact fun _ _ hway h => ih hway h
    · exact fun _ _ h => ⟨links, h⟩

end Disk
end Componentry.Files
