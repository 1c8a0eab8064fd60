import Componentry.Proofs.Files.Writing

/-!
A disk after a part of its tree has been taken away. A way on which nothing of the part is looked up
leads where it led before, and any other leads nowhere.
-/
namespace Componentry.Files
open Componentry.Text

namespace Disk
variable {part : Place → Bool} {d d' : Disk} {p q here there place : Place}

/-! ### Taking away -/

/-- The second disk is the first without a part of its places. -/
structure Without (part : Place → Bool) (d d' : Disk) : Prop where
  cwd : d'.cwd = d.cwd
  get? : ∀ place, part place = false → d'.get? place = d.get? place
  gone : ∀ place, part place = true → d'.get? place = none

def isBelow (p place : Place) : Bool := p.isPrefixOf place && place ≠ p

def isWithin (p place : Place) : Bool := p.isPrefixOf place

theorem isWithin_iff : isWithin p place = true ↔ p <+: place := List.isPrefixOf_iff_prefix

theorem isWithin_cases (h : isWithin p place = true) : place = p ∨ isBelow p place = true := by
  by_cases heq : place = p
  · exact .inl heq
  · exact .inr (by rw [isBelow, Bool.and_eq_true]; exact ⟨h, decide_eq_true heq⟩)

theorem isWithin_self (p : Place) : isWithin p p = true := isWithin_iff.2 List.prefix_rfl

theorem isBelow_eq_false (h : isWithin p place = false) : isBelow p place = false := by
  rw [isBelow, ← isWithin, h, Bool.false_and]

theorem isWithin_concat (p : Place) (name : Text) : isWithin (p ++ [name]) p = false := by
  rw [← Bool.not_eq_true, isWithin_iff]
  intro hprefix
  have hle := hprefix.length_le
  rw [List.length_append, List.length_singleton] at hle
  omega

theorem lookup_filter_of_drop (keep : Place → Bool) (es : List (Place × Entry)) (h : keep q = false) :
    (es.filter fun e => keep e.1).lookup q = none := by
  rw [List.lookup_eq_none_iff]
  intro e he
  rw [bne_iff_ne]
  rintro rfl
  have hkeep := (List.mem_filter.1 he).2
  rw [h] at hkeep
  cases hkeep

theorem without_removeBelow (d : Disk) (p : Place) : Without (isBelow p) d (d.removeBelow p) where
  cwd := rfl
  get? := by
    intro place hplace
    unfold get? removeBelow
    split
    · rfl
    · exact lookup_filter_of_keep (fun q => !isBelow p q) d.entries (by simpa using hplace)
  gone := by
    intro place hplace
    have hroot : place ≠ [] := by
      rintro rfl
      cases p with
      | nil => simp [isBelow] at hplace
      | cons name p => simp [isBelow] at hplace
    unfold get? removeBelow
    rw [if_neg hroot]
    exact lookup_filter_of_drop (fun q => !isBelow p q) d.entries (by simpa using hplace)

/-- Emptied and then taken away itself, a directory is gone with all below it. -/
theorem without_erase (hroot : p ≠ []) : Without (isWithin p) d ((d.removeBelow p).erase p) where
  cwd := rfl
  get? := by
    intro place hplace
    have hne : place ≠ p := by
      rintro rfl
      rw [isWithin_self] at hplace
      cases hplace
    rw [get?_erase_of_ne hne]
    exact (without_removeBelow d p).get? place (isBelow_eq_false hplace)
  gone := by
    intro place hplace
    by_cases hne : place = p
    · subst hne
      exact get?_erase_self hroot
    · rw [get?_erase_of_ne hne]
      exact (without_removeBelow d p).gone place ((isWithin_cases hplace).resolve_left hne)

/-! ### Ways that look something up -/

/-- Some name that is looked up on the way is of the part; `jump` tells it of the ways that go on
where a link leads. -/
@[grind =]
def looksUpNames (d : Disk) (part : Place → Bool) (jump : Place → List Text → Bool) (here : Place) :
    List Text → Bool
  | [] => false
  | name :: rest =>
    if name = (".." : Text) then d.looksUpNames part jump here.dropLast rest
    else
      part (here ++ [name]) ||
        match d.get? (here ++ [name]) with
        | some .directory => d.looksUpNames part jump (here ++ [name]) rest
        | some (.link target) =>
          let path := Path.ofText target
          jump (if path.isAbsolute then [] else here) (path.parts ++ rest)
        | _ => false

def looksUp (d : Disk) (part : Place → Bool) : Nat → Place → List Text → Bool
  | 0 => d.looksUpNames part fun _ _ => false
  | links + 1 => d.looksUpNames part (d.looksUp part links)

/-- A path leads over a part of the places. -/
def LeadsOver (d : Disk) (part : Place → Bool) (p : Path) : Prop :=
  d.looksUp part mostLinks (if p.isAbsolute then [] else d.cwd) p.parts = true

instance (d : Disk) (part : Place → Bool) (p : Path) : Decidable (d.LeadsOver part p) :=
  inferInstanceAs (Decidable (_ = true))

section Way
variable {jump : Place → List Text → Bool} {jumpTo jumpTo' : Place → List Text → Except Failure Place}
  {links : Nat} {names : List Text}

theorem Without.descendNames_eq (h : Without part d d')
    (hjump : ∀ here names, jump here names = false → jumpTo' here names = jumpTo here names)
    (hway : d.looksUpNames part jump here names = false) :
    d'.descendNames jumpTo' here names = d.descendNames jumpTo here names := by
  induction here, names using d.names_induction with
  | nil here => rfl
  | dots here rest ih =>
    rw [looksUpNames, if_pos rfl] at hway
    rw [descendNames_dots, descendNames_dots]
    exact ih hway
  | long here name rest hname hlong => rw [descendNames_long hname hlong, descendNames_long hname hlong]
  | missing here name rest hname hget =>
    rw [looksUpNames, if_neg hname.1, hget, Bool.or_false] at hway
    rw [descendNames_missing hname hget, descendNames_missing hname ((h.get? _ hway).trans hget)]
  | file here name rest content hname hget =>
    rw [looksUpNames, if_neg hname.1, hget, Bool.or_false] at hway
    rw [descendNames_file hname hget, descendNames_file hname ((h.get? _ hway).trans hget)]
  | directory here name rest hname hget ih =>
    rw [looksUpNames, if_neg hname.1, hget, Bool.or_eq_false_iff] at hway
    rw [descendNames_directory hname hget, descendNames_directory hname ((h.get? _ hway.1).trans hget)]
    exact ih hway.2
  | link here name rest target hname hget =>
    rw [looksUpNames, if_neg hname.1, hget, Bool.or_eq_false_iff] at hway
    rw [descendNames_link hname hget, descendNames_link hname ((h.get? _ hway.1).trans hget)]
    exact hjump _ _ hway.2

theorem Without.descend_eq (h : Without part d d') (hway : d.looksUp part links here names = false) :
    d'.descend links here names = d.descend links here names := by
  induction links generalizing here names with
  | zero => exact h.descendNames_eq (fun _ _ _ => rfl) hway
  | succ links ih => exact h.descendNames_eq (fun _ _ hway => ih hway) hway

/-- A way that leads over nothing of the part leads where it led. -/
theorem Without.descendTo_eq (h : Without part d d') {p : Path} (hway : ¬ d.LeadsOver part p) :
    d'.descendTo p = d.descendTo p := by
  rw [descendTo, h.cwd]
  exact h.descend_eq (Bool.not_eq_true _ ▸ hway)

theorem Without.descendNames_error (h : Without part d d')
    (hjump : ∀ here names, jump here names = true → ∃ f, jumpTo' here names = .error f)
    (hway : d.looksUpNames part jump here names = true) :
    ∃ f, d'.descendNames jumpTo' here names = .error f := by
  induction here, names using d.names_induction with
  | nil here => cases hway
  | dots here rest ih =>
    rw [looksUpNames, if_pos rfl] at hway
    rw [descendNames_dots]
    exact ih hway
  | long here name rest hname hlong => exact ⟨_, descendNames_long hname hlong⟩
  | missing here name rest hname hget =>
    rw [looksUpNames, if_neg hname.1, hget, Bool.or_false] at hway
    exact ⟨_, descendNames_missing hname (h.gone _ hway)⟩
  | file here name rest content hname hget =>
    rw [looksUpNames, if_neg hname.1, hget, Bool.or_false] at hway
    exact ⟨_, descendNames_missing hname (h.gone _ hway)⟩
  | directory here name rest hname hget ih =>
    by_cases hpart : part (here ++ [name]) = true
    · exact ⟨_, descendNames_missing hname (h.gone _ hpart)⟩
    · rw [Bool.not_eq_true] at hpart
      rw [looksUpNames, if_neg hname.1, hget, hpart, Bool.false_or] at hway
      rw [descendNames_directory hname ((h.get? _ hpart).trans hget)]
      exact ih hway
  | link here name rest target hname hget =>
    by_cases hpart : part (here ++ [name]) = true
    · exact ⟨_, descendNames_missing hname (h.gone _ hpart)⟩
    · rw [Bool.not_eq_true] at hpart
      rw [looksUpNames, if_neg hname.1, hget, hpart, Bool.false_or] at hway
      rw [descendNames_link hname ((h.get? _ hpart).trans hget)]
      exact hjump _ _ hway

theorem Without.descend_error (h : Without part d d') (hway : d.looksUp part links here names = true) :
    ∃ f, d'.descend links here names = .error f := by
  induction links generalizing here names with
  | zero => exact h.descendNames_error (fun _ _ hstop => by cases hstop) hway
  | succ links ih => exact h.descendNames_error (fun _ _ hway => ih hway) hway

theorem Without.descendTo_error (h : Without part d d') {p : Path} (hway : d.LeadsOver part p) :
    ∃ f, d'.descendTo p = .error f := by
  rw [descendTo, h.cwd]
  exact h.descend_error hway

/-- What is still led to was led to before. -/
theorem Without.descendTo_ok (h : Without part d d') {p : Path} (hway : d'.descendTo p = .ok there) :
    d.descendTo p = .ok there := by
  by_cases hover : d.LeadsOver part p
  · obtain ⟨f, hlost⟩ := h.descendTo_error hover
    rw [hlost] at hway
    cases hway
  · rwa [h.descendTo_eq hover] at hway

end Way

/-! ### Directories and what is in them -/

/-- A directory that is not of the part is still led to exactly if nothing of the part is on the way. -/
theorem Without.isDirectory_iff (h : Without part d d') {p : Path} (hway : d.descendTo p = .ok there)
    (hdir : d.get? there = some .directory) (hthere : part there = false) :
    d'.isDirectory p = true ↔ ¬ d.LeadsOver part p := by
  constructor
  · intro hstill hover
    obtain ⟨f, hlost⟩ := h.descendTo_error hover
    obtain ⟨place, hfound⟩ := exists_descendTo_of_isDirectory hstill
    rw [hlost] at hfound
    cases hfound
  · intro hover
    exact isDirectory_of_descendTo ((h.get? there hthere).trans hdir) ((h.descendTo_eq hover).trans hway)

theorem isDirectory_child_eq_false {p : Path} {name : Text} (hname : name ≠ (".." : Text))
    (h : ∀ there, d.descendTo p = .ok there → d.get? (there ++ [name]) = none) :
    d.isDirectory (p.child name) = false := by
  rw [← Bool.not_eq_true]
  intro hdir
  obtain ⟨place, hlocate⟩ := exists_of_isDirectory hdir
  cases hway : d.descendTo p with
  | error f =>
    rw [locate_child_error hname hway] at hlocate
    cases hlocate
  | ok there =>
    have hnone := h there hway
    rw [locate_child_followed hname hway (.inr (by simp [hnone])), lookAt, hnone] at hlocate
    split at hlocate <;> cases hlocate

end Disk
end Componentry.Files
