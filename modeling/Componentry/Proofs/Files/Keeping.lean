import Componentry.Proofs.Files.Writing

/-!
A disk on which links give way to files still leads a path to the same directory, if it leads to one.
-/
namespace Componentry.Files
open Componentry.Text

namespace Disk

/-- Directories stay. Links stay too, unless a file comes to stay in their place, which happens only at
places where files may come. There are no new links. -/
structure Keeps (mayCome : Place → Prop) (d d' : Disk) : Prop where
  cwd : d'.cwd = d.cwd
  directory : ∀ place, d.get? place = some .directory → d'.get? place = some .directory
  link : ∀ place target, d.get? place = some (.link target) →
    d'.get? place = some (.link target) ∨ (mayCome place ∧ ∃ content, d'.get? place = some (.file content))
  file : ∀ place content, mayCome place → d.get? place = some (.file content) →
    ∃ content', d'.get? place = some (.file content')
  oldLink : ∀ place target, d'.get? place = some (.link target) → d.get? place = some (.link target)

/-- No link is at a place where a file may come. -/
def NoLinkAt (mayCome : Place → Prop) (d : Disk) : Prop :=
  ∀ place target, d.get? place = some (.link target) → ¬mayCome place

/-- One place holds a file now, and every other place the same. -/
structure Gains (d : Disk) (place : Place) (content : Bytes) (d' : Disk) : Prop where
  cwd : d'.cwd = d.cwd
  file : d'.get? place = some (.file content)
  others : ∀ other, other ≠ place → d'.get? other = d.get? other

theorem gains_put {place : Place} (hroot : place ≠ []) (d : Disk) (content : Bytes) :
    d.Gains place content (d.put place (.file content)) :=
  ⟨rfl, get?_put_self hroot, fun _ hother => get?_put_of_ne hother⟩

namespace Keeps
variable {mayCome : Place → Prop} {d d' d'' : Disk}

theorem refl (d : Disk) : d.Keeps mayCome d where
  cwd := rfl
  directory := fun _ h => h
  link := fun _ _ h => .inl h
  file := fun _ content _ h => ⟨content, h⟩
  oldLink := fun _ _ h => h

theorem trans (h : d.Keeps mayCome d') (h' : d'.Keeps mayCome d'') : d.Keeps mayCome d'' where
  cwd := h'.cwd.trans h.cwd
  directory := fun place hget => h'.directory place (h.directory place hget)
  link := by
    intro place target hget
    obtain hlink | ⟨hmay, content, hfile⟩ := h.link place target hget
    · exact h'.link place target hlink
    · exact .inr ⟨hmay, h'.file place content hmay hfile⟩
  file := by
    intro place content hmay hget
    obtain ⟨content', hfile⟩ := h.file place content hmay hget
    exact h'.file place content' hmay hfile
  oldLink := fun place target hget => h.oldLink place target (h'.oldLink place target hget)

theorem of_grows (h : d.Grows d') : d.Keeps mayCome d' where
  cwd := h.cwd
  directory := fun _ hget => h.of_some hget
  link := fun _ _ hget => .inl (h.of_some hget)
  file := fun _ content _ hget => ⟨content, h.of_some hget⟩
  oldLink := by
    intro place target hget
    obtain hsame | ⟨-, hdir⟩ := h.get? place
    · rw [← hsame, hget]
    · rw [hdir] at hget
      cases hget

/-- A directory is where there was no link: a link gives way to a file only. -/
theorem ne_link_of_directory (h : d.Keeps mayCome d') {place : Place}
    (hget : d'.get? place = some .directory) (target : Text) : d.get? place ≠ some (.link target) := by
  intro hlink
  obtain hstays | ⟨-, content, hfile⟩ := h.link place target hlink
  · rw [hstays] at hget
    cases hget
  · rw [hfile] at hget
    cases hget

theorem put_free {place : Place} (hfree : d.get? place = none) (content : Bytes) :
    d.Keeps mayCome (d.put place (.file content)) := by
  have hstays : ∀ other e, d.get? other = some e →
      (d.put place (.file content)).get? other = some e := by
    intro other e hget
    have hne : other ≠ place := by
      intro he
      subst he
      rw [hfree] at hget
      cases hget
    rw [get?_put_of_ne hne, hget]
  refine ⟨rfl, fun _ hget => hstays _ _ hget, fun _ _ hget => .inl (hstays _ _ hget),
    fun _ content' _ hget => ⟨content', hstays _ _ hget⟩, ?_⟩
  intro other target hget
  by_cases hother : other = place
  · subst hother
    rw [get?_put_self (place_ne_nil_of_free hfree)] at hget
    cases hget
  · rwa [get?_put_of_ne hother] at hget

/-- An unfinished file may go. -/
theorem erase_file {place : Place} {content : Bytes} (hfile : d.get? place = some (.file content))
    (hmay : ¬mayCome place) : d.Keeps mayCome (d.erase place) where
  cwd := rfl
  directory := by
    intro other hget
    rw [get?_erase_of_ne, hget]
    intro he
    subst he
    rw [hfile] at hget
    cases hget
  link := by
    intro other target hget
    rw [get?_erase_of_ne]
    · exact .inl hget
    · intro he
      subst he
      rw [hfile] at hget
      cases hget
  file := by
    intro other content' hother hget
    rw [get?_erase_of_ne]
    · exact ⟨content', hget⟩
    · intro he
      subst he
      exact hmay hother
  oldLink := by
    intro other target hget
    by_cases hother : other = place
    · subst hother
      rw [get?_erase_self (place_ne_nil_of_file hfile)] at hget
      cases hget
    · rwa [get?_erase_of_ne hother] at hget

theorem of_gains {place : Place} {content : Bytes} (h : d.Gains place content d')
    (hdir : d.get? place ≠ some .directory) (hmay : mayCome place) : d.Keeps mayCome d' where
  cwd := h.cwd
  directory := by
    intro other hget
    rw [h.others other, hget]
    intro he
    subst he
    exact hdir hget
  link := by
    intro other target hget
    by_cases hother : other = place
    · subst hother
      exact .inr ⟨hmay, content, h.file⟩
    · exact .inl (by rw [h.others other hother, hget])
  file := by
    intro other content' _ hget
    by_cases hother : other = place
    · subst hother
      exact ⟨content, h.file⟩
    · exact ⟨content', by rw [h.others other hother, hget]⟩
  oldLink := by
    intro other target hget
    by_cases hother : other = place
    · subst hother
      rw [h.file] at hget
      cases hget
    · rwa [h.others other hother] at hget

theorem put_file {place : Place} (hdir : d.get? place ≠ some .directory) (hmay : mayCome place)
    (content : Bytes) : d.Keeps mayCome (d.put place (.file content)) := by
  have hroot : place ≠ [] := by
    intro he
    subst he
    exact hdir rfl
  exact .of_gains (gains_put hroot d content) hdir hmay

/-! ### Ways to directories -/

theorem descendNames_eq (h : d.Keeps mayCome d') {jump jump' : Place → List Text → Except Failure Place}
    (hjump : ∀ here names there there', jump here names = .ok there → jump' here names = .ok there' →
      there = there')
    {here there there' : Place} {names : List Text} (hway : d.descendNames jump here names = .ok there)
    (hway' : d'.descendNames jump' here names = .ok there') : there = there' := by
  induction here, names using d.names_induction with
  | nil here =>
    cases hway
    cases hway'
    rfl
  | dots here rest ih =>
    rw [descendNames_dots] at hway hway'
    exact ih hway hway'
  | long here name rest hname hlong =>
    rw [descendNames_long hname hlong] at hway
    cases hway
  | missing here name rest hname hget =>
    rw [descendNames_missing hname hget] at hway
    cases hway
  | file here name rest content hname hget =>
    rw [descendNames_file hname hget] at hway
    cases hway
  | directory here name rest hname hget ih =>
    rw [descendNames_directory hname hget] at hway
    rw [descendNames_directory hname (h.directory _ hget)] at hway'
    exact ih hway hway'
  | link here name rest target hname hget =>
    rw [descendNames_link hname hget] at hway
    obtain hlink | ⟨-, content, hfile⟩ := h.link _ _ hget
    · rw [descendNames_link hname hlink] at hway'
      exact hjump _ _ _ _ hway hway'
    · rw [descendNames_file hname hfile] at hway'
      cases hway'

theorem descend_eq (h : d.Keeps mayCome d') {links : Nat} {here there there' : Place}
    {names : List Text} (hway : d.descend links here names = .ok there)
    (hway' : d'.descend links here names = .ok there') : there = there' := by
  induction links generalizing here names there there' with
  | zero =>
    refine h.descendNames_eq ?_ hway hway'
    intro _ _ _ _ hstop
    cases hstop
  | succ links ih => exact h.descendNames_eq (fun _ _ _ _ h h' => ih h h') hway hway'

/-- A path leads to the same directory before and after. -/
theorem descendTo_eq (h : d.Keeps mayCome d') {p : Path} {there there' : Place}
    (hway : d.descendTo p = .ok there) (hway' : d'.descendTo p = .ok there') : there = there' := by
  rw [descendTo] at hway hway'
  rw [h.cwd] at hway'
  exact h.descend_eq hway hway'

/-! ### Several disks

A way that stays on each of several disks stays on one where no other link gave way. -/

variable (others : Disk → Prop)

theorem descendNames_of_each (h : d.Keeps mayCome d') (hothers : ∀ x, others x → d.Keeps mayCome x)
    (hgave : ∀ place target, d.get? place = some (.link target) →
      d'.get? place = some (.link target) ∨
        ∃ x, others x ∧ ∃ content, x.get? place = some (.file content))
    {jump jump' : Place → List Text → Except Failure Place}
    (jumpOn : Disk → Place → List Text → Except Failure Place)
    (hjump : ∀ here names there, (∀ x, others x → ∃ t, jumpOn x here names = .ok t) →
      jump here names = .ok there → jump' here names = .ok there)
    {here there : Place} {names : List Text}
    (heach : ∀ x, others x → ∃ t, x.descendNames (jumpOn x) here names = .ok t)
    (hway : d.descendNames jump here names = .ok there) :
    d'.descendNames jump' here names = .ok there := by
  induction here, names using d.names_induction with
  | nil here => exact hway
  | dots here rest ih =>
    rw [descendNames_dots] at hway ⊢
    simp only [descendNames_dots] at heach
    exact ih heach hway
  | long here name rest hname hlong =>
    rw [descendNames_long hname hlong] at hway
    cases hway
  | missing here name rest hname hget =>
    rw [descendNames_missing hname hget] at hway
    cases hway
  | file here name rest content hname hget =>
    rw [descendNames_file hname hget] at hway
    cases hway
  | directory here name rest hname hget ih =>
    rw [descendNames_directory hname hget] at hway
    rw [descendNames_directory hname (h.directory _ hget)]
    refine ih (fun x hx => ?_) hway
    obtain ⟨t, ht⟩ := heach x hx
    rw [descendNames_directory hname ((hothers x hx).directory _ hget)] at ht
    exact ⟨t, ht⟩
  | link here name rest target hname hget =>
    -- no file is here on a disk on which the way stays
    have hlinked : ∀ x, others x → x.get? (here ++ [name]) = some (.link target) := by
      intro x hx
      obtain hlink | ⟨-, content, hfile⟩ := (hothers x hx).link _ _ hget
      · exact hlink
      · obtain ⟨t, ht⟩ := heach x hx
        rw [descendNames_file hname hfile] at ht
        cases ht
    rw [descendNames_link hname hget] at hway
    obtain hlink | ⟨x, hx, content, hfile⟩ := hgave _ _ hget
    · rw [descendNames_link hname hlink]
      refine hjump _ _ _ (fun x hx => ?_) hway
      obtain ⟨t, ht⟩ := heach x hx
      rw [descendNames_link hname (hlinked x hx)] at ht
      exact ⟨t, ht⟩
    · rw [hlinked x hx] at hfile
      cases hfile

theorem descend_of_each (h : d.Keeps mayCome d') (hothers : ∀ x, others x → d.Keeps mayCome x)
    (hgave : ∀ place target, d.get? place = some (.link target) →
      d'.get? place = some (.link target) ∨
        ∃ x, others x ∧ ∃ content, x.get? place = some (.file content))
    {links : Nat} {here there : Place} {names : List Text}
    (heach : ∀ x, others x → ∃ t, x.descend links here names = .ok t)
    (hway : d.descend links here names = .ok there) : d'.descend links here names = .ok there := by
  induction links generalizing here names there with
  | zero =>
    exact h.descendNames_of_each others hothers hgave (fun _ _ _ => .error .tooManyLinks)
      (fun _ _ _ _ hstop => hstop) heach hway
  | succ links ih =>
    exact h.descendNames_of_each others hothers hgave (fun x => x.descend links)
      (fun _ _ _ heach hway => ih heach hway) heach hway

theorem descendTo_of_each (h : d.Keeps mayCome d') (hothers : ∀ x, others x → d.Keeps mayCome x)
    (hgave : ∀ place target, d.get? place = some (.link target) →
      d'.get? place = some (.link target) ∨
        ∃ x, others x ∧ ∃ content, x.get? place = some (.file content))
    {p : Path} {there : Place} (heach : ∀ x, others x → ∃ t, x.descendTo p = .ok t)
    (hway : d.descendTo p = .ok there) : d'.descendTo p = .ok there := by
  rw [descendTo] at hway ⊢
  rw [h.cwd]
  refine h.descend_of_each others hothers hgave (fun x hx => ?_) hway
  obtain ⟨t, ht⟩ := heach x hx
  rw [descendTo] at ht
  rw [(hothers x hx).cwd] at ht
  exact ⟨t, ht⟩

/-- A path still leads to its directory if no link can have given way. -/
theorem descendTo_ok (h : d.Keeps mayCome d') (hlinks : NoLinkAt mayCome d) {p : Path} {there : Place}
    (hway : d.descendTo p = .ok there) : d'.descendTo p = .ok there := by
  refine h.descendTo_of_each (fun _ => False) (fun _ hx => hx.elim) ?_ (fun _ hx => hx.elim) hway
  intro place target hget
  obtain hlink | ⟨hmay, -⟩ := h.link place target hget
  · exact .inl hlink
  · exact absurd hmay (hlinks place target hget)

theorem noLinkAt (h : d.Keeps mayCome d') (hlinks : NoLinkAt mayCome d) : NoLinkAt mayCome d' :=
  fun place target hget => hlinks place target (h.oldLink place target hget)

end Keeps
end Disk
end Componentry.Files
