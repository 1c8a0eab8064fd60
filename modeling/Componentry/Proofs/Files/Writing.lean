import Componentry.Files.Change
import Componentry.Proofs.Files.Descend

/-!
What the stages of writing a file do to the disk: new directories, an unfinished file in a free place,
and its move to the place of the file.
-/
namespace Componentry.Files
open Componentry.Text

namespace Disk
variable {d d' d'' : Disk} {p : Path} {place : Place} {e : Entry}

theorem place_ne_nil_of_free (h : d.get? place = none) : place ≠ [] := by
  intro he
  subst he
  simp [get?] at h

theorem place_ne_nil_of_file {content : Bytes} (h : d.get? place = some (.file content)) :
    place ≠ [] := by
  intro he
  subst he
  simp [get?] at h

theorem get?_erase_self (h : place ≠ []) : (d.erase place).get? place = none := by
  rw [get?, erase]
  rw [if_neg h, List.lookup_eq_none_iff]
  intro entry hentry
  have hne : entry.1 ≠ place := by simpa using (List.mem_filter.1 hentry).2
  simpa using Ne.symm hne

/-! ### New directories -/

/-- Directories may have come in where nothing was; all else is as before. -/
structure Grows (d d' : Disk) : Prop where
  cwd : d'.cwd = d.cwd
  get? : ∀ place, d'.get? place = d.get? place ∨
    (d.get? place = none ∧ d'.get? place = some .directory)

theorem Grows.refl (d : Disk) : d.Grows d := ⟨rfl, fun _ => .inl rfl⟩

theorem Grows.of_some (h : d.Grows d') (hget : d.get? place = some e) : d'.get? place = some e := by
  obtain hsame | ⟨hnone, -⟩ := h.get? place
  · rw [hsame, hget]
  · rw [hget] at hnone
    cases hnone

theorem Grows.trans (h : d.Grows d') (h' : d'.Grows d'') : d.Grows d'' where
  cwd := h'.cwd.trans h.cwd
  get? := by
    intro place
    obtain hsame | ⟨hnone, hdir⟩ := h.get? place
    · rw [← hsame]
      exact h'.get? place
    · exact .inr ⟨hnone, h'.of_some hdir⟩

theorem grows_put_directory (h : d.get? place = none) : d.Grows (d.put place .directory) where
  cwd := rfl
  get? := by
    intro other
    by_cases hother : other = place
    · subst hother
      exact .inr ⟨h, get?_put_self (place_ne_nil_of_free h)⟩
    · exact .inl (get?_put_of_ne hother)

theorem makeDir_grows (h : d.makeDir p = .ok d') : d.Grows d' := by
  rw [makeDir] at h
  split at h
  · cases h
  · cases h
  · next hlocate =>
    cases h
    exact grows_put_directory (get?_of_locate_free hlocate)

theorem settle_fst (d : Disk) (p : Path) (f : FileError) : (d.settle p f).1 = d := by
  rw [settle]
  split <;> rfl

theorem ensureDir_grows (d : Disk) (p : Path) : d.Grows (d.ensureDir p).1 := by
  rw [ensureDir]
  cases hmake : d.makeDir p with
  | ok d' => exact makeDir_grows hmake
  | error f =>
    dsimp only
    split
    · exact .refl d
    · rw [settle_fst]
      exact .refl d

theorem makeDirsFrom_grows (d : Disk) (root : Text) (names : List Text) :
    d.Grows (d.makeDirsFrom root names).1 := by
  induction names generalizing d with
  | nil => exact ensureDir_grows d _
  | cons name above ih =>
    rw [makeDirsFrom]
    cases hmake : d.makeDir ⟨root, (name :: above).reverse⟩ with
    | ok d' => exact makeDir_grows hmake
    | error f =>
      dsimp only
      split
      · have habove := ih d
        rcases hrest : d.makeDirsFrom root above with ⟨d', none | f'⟩
        · rw [hrest] at habove
          exact habove.trans (ensureDir_grows d' _)
        · rw [hrest] at habove
          exact habove
      · rw [settle_fst]
        exact .refl d

theorem makeDirs_grows (d : Disk) (p : Path) : d.Grows (d.makeDirs p).1 :=
  makeDirsFrom_grows d p.root p.parts.reverse

/-! ### Unfinished files -/

theorem isDigit_of_mem_ofNat {c : Char} {n : Nat} (h : c ∈ ofNat n) : c.isDigit = true := by
  rw [ofNat] at h
  rw [Nat.toString_eq_ofList_toDigits, String.toList_ofList] at h
  exact Nat.isDigit_of_mem_toDigits (by decide) (by decide) h

/-- What ends the name of an unfinished file. -/
def serial (n : Nat) : Text := List.replicate (8 - (ofNat n).length) '0' ++ ofNat n

theorem temporaryName_eq (name : Text) (n : Nat) :
    temporaryName name n = '.' :: (name ++ '.' :: serial n) := by
  simp [temporaryName, serial]

theorem isDigit_of_mem_serial {c : Char} {n : Nat} (h : c ∈ serial n) : c.isDigit = true := by
  obtain h | h := List.mem_append.1 h
  · rw [List.eq_of_mem_replicate h]
    rfl
  · exact isDigit_of_mem_ofNat h

theorem serial_ne_nil (n : Nat) : serial n ≠ [] := by
  rw [serial, ofNat]
  rw [Nat.toString_eq_ofList_toDigits, String.toList_ofList]
  exact List.append_ne_nil_of_right_ne_nil _ Nat.toDigits_ne_nil

/-- The name of an unfinished file ends in a digit. -/
theorem temporaryName_ne_append (name : Text) (n : Nat) (s : Text) {c : Char}
    (hc : c.isDigit = false) : temporaryName name n ≠ s ++ [c] := by
  intro he
  have hlast := congrArg List.getLast? he
  rw [temporaryName_eq, List.getLast?_concat, List.getLast?_cons, List.getLast?_append,
    List.getLast?_cons, List.getLast?_eq_some_getLast (serial_ne_nil n)] at hlast
  have hdigit := isDigit_of_mem_serial (List.getLast_mem (serial_ne_nil n))
  simp only [Option.getD_some, Option.some_or, Option.some.injEq] at hlast
  rw [hlast, hc] at hdigit
  cases hdigit

theorem temporaryName_ne_dots (name : Text) (n : Nat) : temporaryName name n ≠ (".." : Text) :=
  temporaryName_ne_append name n ['.'] rfl

/-- One try at an unfinished file; the name may be taken. -/
def tryTemporary (d : Disk) (dir : Path) (name : Text) (content : Bytes) (n : Nat) :
    Option (Except FileError (Disk × Place × Path)) :=
  let p := (d.absolute dir).child (temporaryName name n)
  match d.locate false p with
  | .error f => some (.error ⟨f, p.toText, none⟩)
  | .ok (.found _ _) => none
  | .ok (.free place) => some (.ok (d.put place (.file content), place, p))

theorem createTemporary_eq (d : Disk) (dir : Path) (name : Text) (content : Bytes) :
    d.createTemporary dir name content =
      ((List.range (d.entries.length + 1)).findSome? (d.tryTemporary dir name content)).getD
        (failed dir .exists) := by
  rw [createTemporary]
  dsimp only
  rw [List.findSome?_map]
  rfl

theorem tryTemporary_ok {dir shown : Path} {name : Text} {content : Bytes} {n : Nat}
    (h : d.tryTemporary dir name content n = some (.ok (d', place, shown))) :
    d.get? place = none ∧ d' = d.put place (.file content) ∧
      ∃ there, d.descendTo (d.absolute dir) = .ok there ∧ place = there ++ [temporaryName name n] := by
  unfold tryTemporary at h
  dsimp only at h
  rw [locate_child (temporaryName_ne_dots name n)] at h
  cases hway : d.descendTo (d.absolute dir) with
  | error f => simp [hway, Except.bind] at h
  | ok there =>
    simp only [hway, Except.bind, lookAt] at h
    split at h
    · cases h
    · cases h
    · next hlook =>
      split at hlook
      · cases hlook
      · split at hlook
        · next hget =>
          cases hlook
          cases h
          exact ⟨hget, rfl, there, rfl, rfl⟩
        · cases hlook

theorem createTemporary_ok {dir shown : Path} {name : Text} {content : Bytes}
    (h : d.createTemporary dir name content = .ok (d', place, shown)) :
    d.get? place = none ∧ d' = d.put place (.file content) ∧
      ∃ there n, d.descendTo (d.absolute dir) = .ok there ∧ place = there ++ [temporaryName name n] := by
  rw [createTemporary_eq] at h
  cases hfirst : (List.range (d.entries.length + 1)).findSome? (d.tryTemporary dir name content) with
  | none =>
    rw [hfirst] at h
    cases h
  | some r =>
    rw [hfirst] at h
    obtain ⟨n, -, htry⟩ := List.exists_of_findSome?_eq_some hfirst
    have hr : r = .ok (d', place, shown) := h
    rw [hr] at htry
    obtain ⟨hfree, hput, there, hway, hplace⟩ := tryTemporary_ok htry
    exact ⟨hfree, hput, there, n, hway, hplace⟩

theorem absolute_congr (h : d'.cwd = d.cwd) (p : Path) : d'.absolute p = d.absolute p := by
  unfold absolute
  rw [h]

/-! ### Moving a file into place -/

theorem moveOver_child {source : Place} {shown : Path} {name : Text} (hname : name ≠ (".." : Text))
    (h : d.moveOver source shown (p.child name) = .ok d') :
    ∃ e there, d.get? source = some e ∧ d.descendTo p = .ok there ∧
      (encode name).length ≤ longestName ∧ d.get? (there ++ [name]) ≠ some .directory ∧
      d' = (d.erase source).put (there ++ [name]) e := by
  rw [moveOver] at h
  rw [locate_child hname] at h
  cases hsource : d.get? source with
  | none => simp [hsource] at h
  | some e =>
    cases hway : d.descendTo p with
    | error f => simp [hsource, hway, Except.bind] at h
    | ok there =>
      by_cases hlong : (encode name).length > longestName
      · simp [hsource, hway, Except.bind, lookAt, hlong] at h
      · cases hget : d.get? (there ++ [name]) with
        | none =>
          simp only [hsource, hway, Except.bind, lookAt, if_neg hlong, hget, Except.ok.injEq] at h
          exact ⟨e, there, rfl, rfl, Nat.le_of_not_lt hlong, by simp [hget], h.symm⟩
        | some old =>
          cases old with
          | directory => simp [hsource, hway, Except.bind, lookAt, hlong, hget] at h
          | file content =>
            simp only [hsource, hway, Except.bind, lookAt, if_neg hlong, hget, Except.ok.injEq] at h
            exact ⟨e, there, rfl, rfl, Nat.le_of_not_lt hlong, by simp [hget], h.symm⟩
          | link target =>
            simp only [hsource, hway, Except.bind, lookAt, if_neg hlong, hget, Except.ok.injEq] at h
            exact ⟨e, there, rfl, rfl, Nat.le_of_not_lt hlong, by simp [hget], h.symm⟩

end Disk
end Componentry.Files
