import Componentry.Proofs.Files.Writing

/-!
Making a directory with the directories above it. What is new is on the way to it, it is there
afterwards, and making it once more changes nothing.
-/
namespace Componentry.Files
open Componentry.Text

namespace Disk
variable {d d' d'' : Disk} {follow : Bool} {links : Nat} {here there place : Place} {names : List Text}
  {p : Path} {e : Entry}

/-! ### Ways on a disk that grows -/

theorem Grows.walkNames_found (h : d.Grows d') {jump jump' : Place → List Text → Except Failure Spot}
    (hjump : ∀ here names, jump here names = .ok (.found place e) →
      jump' here names = .ok (.found place e))
    (hway : d.walkNames follow jump here names = .ok (.found place e)) :
    d'.walkNames follow jump' here names = .ok (.found place e) := by
  induction here, names using d.names_induction with
  | nil here =>
    rw [walkNames] at hway ⊢
    cases hget : d.get? here with
    | none => simp [hget] at hway
    | some old =>
      rw [hget] at hway
      rw [h.of_some hget]
      exact hway
  | dots here rest ih =>
    rw [walkNames_dots] at hway ⊢
    exact ih hway
  | long here name rest hname hlong =>
    rw [walkNames_long hname hlong] at hway
    cases hway
  | missing here name rest hname hget =>
    rw [walkNames_missing hname hget] at hway
    split at hway <;> cases hway
  | file here name rest content hname hget =>
    rw [walkNames_file hname hget] at hway
    rw [walkNames_file hname (h.of_some hget)]
    exact hway
  | directory here name rest hname hget ih =>
    rw [walkNames_directory hname hget] at hway
    rw [walkNames_directory hname (h.of_some hget)]
    exact ih hway
  | link here name rest target hname hget =>
    rw [walkNames_link hname hget] at hway
    rw [walkNames_link hname (h.of_some hget)]
    split at hway
    · next hend => rwa [if_pos hend]
    · next hend =>
      rw [if_neg hend]
      exact hjump _ _ hway

theorem Grows.walk_found (h : d.Grows d') (hway : d.walk follow links here names = .ok (.found place e)) :
    d'.walk follow links here names = .ok (.found place e) := by
  induction links generalizing here names with
  | zero => exact h.walkNames_found (fun _ _ hstop => by cases hstop) hway
  | succ links ih => exact h.walkNames_found (fun _ _ hway => ih hway) hway

/-- What a path leads to is found again after new directories came. -/
theorem Grows.locate_found (h : d.Grows d') (hlocate : d.locate follow p = .ok (.found place e)) :
    d'.locate follow p = .ok (.found place e) := by
  rw [locate] at hlocate ⊢
  rw [h.cwd]
  exact h.walk_found hlocate

theorem walkNames_put_directory {jump jump' : Place → List Text → Except Failure Spot}
    (hfree : d.get? place = none)
    (hjump : ∀ here names, jump here names = .ok (.free place) →
      jump' here names = .ok (.found place .directory))
    (hway : d.walkNames false jump here names = .ok (.free place)) :
    (d.put place .directory).walkNames true jump' here names = .ok (.found place .directory) := by
  have hgrows := grows_put_directory hfree
  induction here, names using d.names_induction with
  | nil here =>
    rw [walkNames] at hway
    cases hget : d.get? here with
    | none => simp [hget] at hway
    | some old => simp [hget] at hway
  | dots here rest ih =>
    rw [walkNames_dots] at hway ⊢
    exact ih hway
  | long here name rest hname hlong =>
    rw [walkNames_long hname hlong] at hway
    cases hway
  | missing here name rest hname hget =>
    rw [walkNames_missing hname hget] at hway
    split at hway
    · next hend =>
      subst hend
      cases hway
      have hput : (d.put (here ++ [name]) .directory).get? (here ++ [name]) = some .directory :=
        get?_put_self (by simp)
      rw [walkNames_directory hname hput, walkNames, hput]
    · cases hway
  | file here name rest content hname hget =>
    rw [walkNames_file hname hget] at hway
    split at hway <;> cases hway
  | directory here name rest hname hget ih =>
    rw [walkNames_directory hname hget] at hway
    rw [walkNames_directory hname (hgrows.of_some hget)]
    exact ih hway
  | link here name rest target hname hget =>
    rw [walkNames_link hname hget] at hway
    rw [walkNames_followed hname (hgrows.of_some hget)]
    split at hway
    · cases hway
    · exact hjump _ _ hway

theorem walk_put_directory (hfree : d.get? place = none)
    (hway : d.walk false links here names = .ok (.free place)) :
    (d.put place .directory).walk true links here names = .ok (.found place .directory) := by
  induction links generalizing here names with
  | zero => exact walkNames_put_directory hfree (fun _ _ hstop => by cases hstop) hway
  | succ links ih => exact walkNames_put_directory hfree (fun _ _ hway => ih hway) hway

/-- A path leads to the directory that was made at it. -/
theorem exists_of_makeDir (h : d.makeDir p = .ok d') :
    ∃ place, d.get? place = none ∧ d' = d.put place .directory ∧
      d'.locate true p = .ok (.found place .directory) := by
  rw [makeDir] at h
  split at h
  · cases h
  · cases h
  · next place hlocate =>
    cases h
    exact ⟨place, get?_of_locate_free hlocate, rfl,
      walk_put_directory (get?_of_locate_free hlocate) hlocate⟩

/-! ### New directories on the way -/

/-- The path, or one that it begins with, leads to a directory at the place. -/
def OnWay (d : Disk) (p : Path) (place : Place) : Prop :=
  ∃ names, names <+: p.parts ∧ d.locate true ⟨p.root, names⟩ = .ok (.found place .directory)

/-- Directories may have come in on the way to a path; all else is as before. -/
structure GrowsAlong (d : Disk) (p : Path) (d' : Disk) : Prop where
  cwd : d'.cwd = d.cwd
  get? : ∀ place, d'.get? place = d.get? place ∨
    (d.get? place = none ∧ d'.get? place = some .directory ∧ d'.OnWay p place)

namespace GrowsAlong

theorem refl (d : Disk) (p : Path) : d.GrowsAlong p d := ⟨rfl, fun _ => .inl rfl⟩

theorem grows (h : d.GrowsAlong p d') : d.Grows d' where
  cwd := h.cwd
  get? := by
    intro place
    obtain hsame | ⟨hnone, hdir, -⟩ := h.get? place
    · exact .inl hsame
    · exact .inr ⟨hnone, hdir⟩

theorem of_makeDir (h : d.makeDir p = .ok d') : d.GrowsAlong p d' := by
  obtain ⟨place, hfree, rfl, hlocate⟩ := exists_of_makeDir h
  refine ⟨rfl, fun other => ?_⟩
  by_cases hother : other = place
  · subst hother
    exact .inr ⟨hfree, get?_put_self (place_ne_nil_of_free hfree), p.parts, List.prefix_rfl, hlocate⟩
  · exact .inl (get?_put_of_ne hother)

theorem trans (h : d.GrowsAlong p d') (h' : d'.GrowsAlong p d'') : d.GrowsAlong p d'' where
  cwd := h'.cwd.trans h.cwd
  get? := by
    intro place
    obtain hsame | ⟨hnone, hdir, names, hbegin, hlocate⟩ := h.get? place
    · rw [← hsame]
      exact h'.get? place
    · exact .inr ⟨hnone, h'.grows.of_some hdir, names, hbegin, h'.grows.locate_found hlocate⟩

/-- What is on the way to the directory above is on the way to a path. -/
theorem of_beginning {root : Text} (hbegin : names <+: p.parts) (hroot : p.root = root)
    (h : d.GrowsAlong ⟨root, names⟩ d') : d.GrowsAlong p d' where
  cwd := h.cwd
  get? := by
    intro place
    obtain hsame | ⟨hnone, hdir, before, hbefore, hlocate⟩ := h.get? place
    · exact .inl hsame
    · rw [← hroot] at hlocate
      exact .inr ⟨hnone, hdir, before, hbefore.trans hbegin, hlocate⟩

end GrowsAlong

theorem ensureDir_growsAlong (d : Disk) (p : Path) : d.GrowsAlong p (d.ensureDir p).1 := by
  rw [ensureDir]
  cases hmake : d.makeDir p with
  | ok d' => exact .of_makeDir hmake
  | error f =>
    dsimp only
    split
    · exact .refl d p
    · rw [settle_fst]
      exact .refl d p

theorem makeDirsFrom_growsAlong (d : Disk) (root : Text) (names : List Text) :
    d.GrowsAlong ⟨root, names.reverse⟩ (d.makeDirsFrom root names).1 := by
  induction names generalizing d with
  | nil => exact ensureDir_growsAlong d _
  | cons name above ih =>
    have hbegin : above.reverse <+: (name :: above).reverse := by simp
    rw [makeDirsFrom]
    cases hmake : d.makeDir ⟨root, (name :: above).reverse⟩ with
    | ok d' => exact .of_makeDir hmake
    | error f =>
      dsimp only
      split
      · have habove := GrowsAlong.of_beginning (p := ⟨root, (name :: above).reverse⟩) hbegin rfl (ih d)
        rcases hrest : d.makeDirsFrom root above with ⟨d', none | f'⟩
        · rw [hrest] at habove
          exact habove.trans (ensureDir_growsAlong d' _)
        · rw [hrest] at habove
          exact habove
      · rw [settle_fst]
        exact .refl d _

theorem makeDirs_growsAlong (d : Disk) (p : Path) : d.GrowsAlong p (d.makeDirs p).1 := by
  have h := makeDirsFrom_growsAlong d p.root p.parts.reverse
  rwa [List.reverse_reverse] at h

/-! ### The directory is there -/

theorem isDirectory_of_makeDir (h : d.makeDir p = .ok d') : d'.isDirectory p = true := by
  obtain ⟨place, -, -, hlocate⟩ := exists_of_makeDir h
  exact isDirectory_of_locate hlocate

theorem isDirectory_of_settle {f : FileError} (h : (d.settle p f).2 = none) :
    (d.settle p f).1.isDirectory p = true := by
  rw [settle] at h ⊢
  split at h
  · next hdir => rwa [if_pos hdir]
  · cases h

theorem isDirectory_of_ensureDir (h : (d.ensureDir p).2 = none) :
    (d.ensureDir p).1.isDirectory p = true := by
  rw [ensureDir] at h ⊢
  cases hmake : d.makeDir p with
  | ok d' => exact isDirectory_of_makeDir hmake
  | error f =>
    simp only [hmake] at h
    dsimp only
    split at h
    · cases h
    · next hmissing =>
      rw [if_neg hmissing]
      exact isDirectory_of_settle h

theorem isDirectory_of_makeDirsFrom {root : Text} (h : (d.makeDirsFrom root names).2 = none) :
    (d.makeDirsFrom root names).1.isDirectory ⟨root, names.reverse⟩ = true := by
  cases names with
  | nil => exact isDirectory_of_ensureDir h
  | cons name above =>
    rw [makeDirsFrom] at h ⊢
    cases hmake : d.makeDir ⟨root, (name :: above).reverse⟩ with
    | ok d' => exact isDirectory_of_makeDir hmake
    | error f =>
      simp only [hmake] at h
      dsimp only
      by_cases hmissing : f.failure = .missing
      · rw [if_pos hmissing] at h ⊢
        rcases hrest : d.makeDirsFrom root above with ⟨d', none | f'⟩
        · rw [hrest] at h
          exact isDirectory_of_ensureDir h
        · rw [hrest] at h
          cases h
      · rw [if_neg hmissing] at h ⊢
        exact isDirectory_of_settle h

theorem isDirectory_of_makeDirs (h : (d.makeDirs p).2 = none) : (d.makeDirs p).1.isDirectory p = true := by
  have hdir := isDirectory_of_makeDirsFrom h
  rwa [List.reverse_reverse] at hdir

/-! ### Once more -/

theorem walkNames_found_false {jump jump' : Place → List Text → Except Failure Spot}
    (hjump : ∀ here names, jump here names = .ok (.found place e) →
      ∃ place' e', jump' here names = .ok (.found place' e'))
    (hway : d.walkNames true jump here names = .ok (.found place e)) :
    ∃ place' e', d.walkNames false jump' here names = .ok (.found place' e') := by
  induction here, names using d.names_induction with
  | nil here =>
    rw [walkNames] at hway ⊢
    exact ⟨place, e, hway⟩
  | dots here rest ih =>
    rw [walkNames_dots] at hway ⊢
    exact ih hway
  | long here name rest hname hlong =>
    rw [walkNames_long hname hlong] at hway
    cases hway
  | missing here name rest hname hget =>
    rw [walkNames_missing hname hget] at hway
    split at hway <;> cases hway
  | file here name rest content hname hget =>
    rw [walkNames_file hname hget] at hway ⊢
    exact ⟨place, e, hway⟩
  | directory here name rest hname hget ih =>
    rw [walkNames_directory hname hget] at hway ⊢
    exact ih hway
  | link here name rest target hname hget =>
    rw [walkNames_followed hname hget] at hway
    rw [walkNames_link hname hget]
    split
    · exact ⟨_, _, rfl⟩
    · exact hjump _ _ hway

/-- If a path leads to something, there is something at its end, maybe a link. -/
theorem locate_found_false (h : d.locate true p = .ok (.found place e)) :
    ∃ place' e', d.locate false p = .ok (.found place' e') := by
  have hwalk : ∀ (n : Nat) (here : Place) (names : List Text),
      d.walk true n here names = .ok (.found place e) →
      ∃ place' e', d.walk false n here names = .ok (.found place' e') := by
    intro n
    induction n with
    | zero => exact fun here names => walkNames_found_false (fun _ _ hstop => by cases hstop)
    | succ n ih => exact fun here names => walkNames_found_false ih
  exact hwalk _ _ _ h

theorem makeDir_of_isDirectory (h : d.isDirectory p = true) : d.makeDir p = failed p .exists := by
  obtain ⟨place, hlocate⟩ := exists_of_isDirectory h
  obtain ⟨place', e', hthere⟩ := locate_found_false hlocate
  rw [makeDir, hthere]

theorem makeDirs_of_isDirectory (h : d.isDirectory p = true) : d.makeDirs p = (d, none) := by
  have hsettle : ∀ f, d.settle p f = (d, none) := fun f => by rw [settle, if_pos h]
  have hmake : ∀ q, q = p → d.makeDir q = failed q .exists := by
    intro q he
    subst he
    exact makeDir_of_isDirectory h
  rw [makeDirs]
  cases hparts : p.parts.reverse with
  | nil =>
    have hp : (⟨p.root, []⟩ : Path) = p := by
      rw [← List.reverse_eq_nil_iff.1 hparts]
    rw [makeDirsFrom, ensureDir, hmake _ hp, hp]
    exact hsettle _
  | cons name above =>
    have hp : (⟨p.root, (name :: above).reverse⟩ : Path) = p := by
      rw [← hparts, List.reverse_reverse]
    rw [makeDirsFrom, hmake _ hp, hp]
    exact hsettle _

end Disk
end Componentry.Files
