import Componentry.Proofs.Files.Avoiding
import Componentry.Proofs.Files.FreeName

/-!
The stages of writing on two disks that differ in one place. If the path does not lead over the place,
they go alike: both fail with the same error, or both succeed and the disks still differ there only.
-/
namespace Componentry.Files
open Componentry.Text

namespace Disk

/-- Two outcomes of a change. -/
inductive Alike {α : Type} (related : α → α → Prop) : Except FileError α → Except FileError α → Prop
  | error (e : FileError) : Alike related (.error e) (.error e)
  | ok {a a' : α} (h : related a a') : Alike related (.ok a) (.ok a')

/-! ### Directories

Two disks on which single directories are made alike, and each is there on both or on none. -/

section Directories
variable {related : Disk → Disk → Prop} {d d' : Disk} {p : Path} {root : Text} {names : List Text}

theorem settle_related (h : related d d') (hdir : d'.isDirectory p = d.isDirectory p) (e : FileError) :
    related (d.settle p e).1 (d'.settle p e).1 ∧ (d'.settle p e).2 = (d.settle p e).2 := by
  unfold settle
  rw [hdir]
  split
  · exact ⟨h, rfl⟩
  · exact ⟨h, rfl⟩

theorem ensureDir_related (h : related d d') (hdir : d'.isDirectory p = d.isDirectory p)
    (hmake : Alike related (d.makeDir p) (d'.makeDir p)) :
    related (d.ensureDir p).1 (d'.ensureDir p).1 ∧ (d'.ensureDir p).2 = (d.ensureDir p).2 := by
  unfold ensureDir
  revert hmake
  generalize d.makeDir p = x
  generalize d'.makeDir p = x'
  rintro (e | hmade)
  · by_cases hmissing : e.failure = .missing
    · simp only [if_pos hmissing]
      exact ⟨h, trivial⟩
    · simp only [if_neg hmissing]
      exact settle_related h hdir e
  · exact ⟨hmade, rfl⟩

theorem makeDirsFrom_related (h : related d d')
    (hstep : ∀ {d d'} above, above <:+ names → related d d' →
      d'.isDirectory ⟨root, above.reverse⟩ = d.isDirectory ⟨root, above.reverse⟩ ∧
        Alike related (d.makeDir ⟨root, above.reverse⟩) (d'.makeDir ⟨root, above.reverse⟩)) :
    related (d.makeDirsFrom root names).1 (d'.makeDirsFrom root names).1 ∧
      (d'.makeDirsFrom root names).2 = (d.makeDirsFrom root names).2 := by
  induction names generalizing d d' with
  | nil =>
    obtain ⟨hdir, hmake⟩ := hstep [] List.suffix_rfl h
    exact ensureDir_related h hdir hmake
  | cons name above ih =>
    rw [makeDirsFrom, makeDirsFrom]
    obtain ⟨hdir, hmake⟩ := hstep (name :: above) List.suffix_rfl h
    revert hmake
    generalize d.makeDir ⟨root, (name :: above).reverse⟩ = x
    generalize d'.makeDir ⟨root, (name :: above).reverse⟩ = x'
    rintro (e | hmade)
    · by_cases hmissing : e.failure = .missing
      · simp only [if_pos hmissing]
        obtain ⟨habove, hsame⟩ :=
          ih h fun names hnames => hstep names (hnames.trans (List.suffix_cons name above))
        rcases hdirs : d.makeDirsFrom root above with ⟨d₁, none | e'⟩
        · rw [hdirs] at habove hsame
          rcases hdirs' : d'.makeDirsFrom root above with ⟨d₁', none | e''⟩
          · rw [hdirs'] at habove
            obtain ⟨hdir, hmake⟩ := hstep (name :: above) List.suffix_rfl habove
            exact ensureDir_related habove hdir hmake
          · rw [hdirs'] at hsame
            cases hsame
        · rw [hdirs] at habove hsame
          rcases hdirs' : d'.makeDirsFrom root above with ⟨d₁', none | e''⟩
          · rw [hdirs'] at hsame
            cases hsame
          · rw [hdirs'] at habove hsame
            exact ⟨habove, hsame⟩
      · simp only [if_neg hmissing]
        exact settle_related h hdir e
    · exact ⟨hmade, rfl⟩

theorem makeDirs_related (related : Disk → Disk → Prop) (h : related d d')
    (hstep : ∀ {d d'} names, names <+: p.parts → related d d' →
      d'.isDirectory ⟨p.root, names⟩ = d.isDirectory ⟨p.root, names⟩ ∧
        Alike related (d.makeDir ⟨p.root, names⟩) (d'.makeDir ⟨p.root, names⟩)) :
    related (d.makeDirs p).1 (d'.makeDirs p).1 ∧ (d'.makeDirs p).2 = (d.makeDirs p).2 := by
  refine makeDirsFrom_related h fun names hnames hrelated => hstep names.reverse ?_ hrelated
  rw [← List.reverse_suffix, List.reverse_reverse]
  exact hnames

end Directories

/-! ### Unfinished files -/

section Unfinished
variable {d d' : Disk} {dir : Path}

/-- If the same names are taken on both disks, both have an unfinished file in the same place, or none has
one, for the same reason. -/
theorem createTemporary_cases (name : Text) (content : Bytes) (hcwd : d'.cwd = d.cwd)
    (hway : d'.descendTo (d.absolute dir) = d.descendTo (d.absolute dir))
    (hfree : ∀ there n, d'.get? (there ++ [temporaryName name n]) = none ↔
      d.get? (there ++ [temporaryName name n]) = none) :
    (∃ e, d.createTemporary dir name content = .error e ∧ d'.createTemporary dir name content = .error e) ∨
    ∃ place shown, d.get? place = none ∧ d'.get? place = none ∧
      d.createTemporary dir name content = .ok (d.put place (.file content), place, shown) ∧
      d'.createTemporary dir name content = .ok (d'.put place (.file content), place, shown) := by
  have habsolute := absolute_congr hcwd dir
  rw [← habsolute] at hway
  cases hthere : d.descendTo (d.absolute dir) with
  | error f =>
    rw [habsolute, hthere, ← habsolute] at hway
    have hlost' := createTemporary_lost hway name content
    rw [habsolute] at hlost'
    exact .inl ⟨_, createTemporary_lost hthere name content, hlost'⟩
  | ok there =>
    rw [habsolute, hthere, ← habsolute] at hway
    obtain ⟨n, hends, hbefore, hcreate⟩ := createTemporary_found hthere name content
    obtain ⟨n', hends', hbefore', hcreate'⟩ := createTemporary_found hway name content
    have hiff : ∀ m, d'.EndsTries there name m ↔ d.EndsTries there name m :=
      fun m => or_congr_right (hfree there m)
    have hn : n' = n := by
      obtain hlt | heq | hlt := Nat.lt_trichotomy n' n
      · exact absurd ((hiff n').1 hends') (hbefore n' hlt)
      · exact heq
      · exact absurd ((hiff n).2 hends) (hbefore' n hlt)
    subst hn
    rw [habsolute] at hcreate'
    by_cases hlong : (encode (temporaryName name n')).length > longestName
    · rw [if_pos hlong] at hcreate hcreate'
      exact .inl ⟨_, hcreate, hcreate'⟩
    · rw [if_neg hlong] at hcreate hcreate'
      exact .inr ⟨_, _, hends.resolve_left hlong, hends'.resolve_left hlong, hcreate, hcreate'⟩

/-- The path of an unfinished file in a directory, as it is shown. -/
def IsUnfinishedIn (dir : Path) (shown : Text) : Prop :=
  ∃ name n, shown = (dir.child (temporaryName name n)).toText

/-- If more names are taken on the second disk, an unfinished file may get another number there, but both
disks have one or none has, as long as there are names that are equally long. -/
theorem createTemporary_renumbered (name : Text) (content : Bytes) (hcwd : d'.cwd = d.cwd)
    (hway : d'.descendTo (d.absolute dir) = d.descendTo (d.absolute dir)) {others : List Place}
    (htaken : ∀ there n, d'.get? (there ++ [temporaryName name n]) = d.get? (there ++ [temporaryName name n]) ∨
      there ++ [temporaryName name n] ∈ others)
    (hroom : d.entries.length + others.length < mostShortNames) :
    (∃ f shown shown', IsUnfinishedIn (d.absolute dir) shown ∧ IsUnfinishedIn (d.absolute dir) shown' ∧
      d.createTemporary dir name content = .error ⟨f, shown, none⟩ ∧
      d'.createTemporary dir name content = .error ⟨f, shown', none⟩) ∨
    ∃ place place' shown shown', d.get? place = none ∧ d'.get? place' = none ∧
      IsUnfinishedIn (d.absolute dir) shown.toText ∧ IsUnfinishedIn (d.absolute dir) shown'.toText ∧
      d.createTemporary dir name content = .ok (d.put place (.file content), place, shown) ∧
      d'.createTemporary dir name content = .ok (d'.put place' (.file content), place', shown') ∧
      ∃ there n, place' = there ++ [temporaryName name n] := by
  have habsolute := absolute_congr hcwd dir
  rw [← habsolute] at hway
  cases hthere : d.descendTo (d.absolute dir) with
  | error f =>
    rw [habsolute, hthere, ← habsolute] at hway
    have hlost' := createTemporary_lost hway name content
    rw [habsolute] at hlost'
    exact .inl ⟨f, _, _, ⟨name, 0, rfl⟩, ⟨name, 0, rfl⟩, createTemporary_lost hthere name content, hlost'⟩
  | ok there =>
    rw [habsolute, hthere, ← habsolute] at hway
    obtain ⟨n, hends, hbefore, hcreate⟩ := createTemporary_found hthere name content
    obtain ⟨n', hends', hbefore', hcreate'⟩ := createTemporary_found hway name content
    have hn : n ≤ d.entries.length + ([] : List Place).length :=
      le_of_taken there name fun m hm => .inl fun hfree => hbefore m hm (.inr hfree)
    have hn' : n' ≤ d.entries.length + others.length := by
      refine le_of_taken there name fun m hm => ?_
      obtain hsame | hother := htaken there m
      · exact .inl fun hfree => hbefore' m hm (.inr (hsame.trans hfree))
      · exact .inr hother
    have hlength : (encode (temporaryName name n')).length = (encode (temporaryName name n)).length := by
      rw [length_encode_temporaryName (by omega), length_encode_temporaryName (by rw [List.length_nil] at hn; omega)]
    rw [habsolute] at hcreate'
    by_cases hlong : (encode (temporaryName name n)).length > longestName
    · rw [if_pos hlong] at hcreate
      rw [if_pos (hlength ▸ hlong)] at hcreate'
      exact .inl ⟨.nameTooLong, _, _, ⟨name, n, rfl⟩, ⟨name, n', rfl⟩, hcreate, hcreate'⟩
    · have hlong' := hlength ▸ hlong
      rw [if_neg hlong] at hcreate
      rw [if_neg hlong'] at hcreate'
      exact .inr ⟨_, _, _, _, hends.resolve_left hlong, hends'.resolve_left hlong', ⟨name, n, rfl⟩,
        ⟨name, n', rfl⟩, hcreate, hcreate', there, n', rfl⟩

end Unfinished

namespace LacksAt
variable {mayCome : Place → Prop} {q place : Place} {first d d' : Disk} {p : Path} {root : Text}
  {names : List Text}

theorem put (h : LacksAt q d d') (hne : place ≠ q) (e : Entry) :
    LacksAt q (d.put place e) (d'.put place e) where
  cwd := h.cwd
  get? := by
    intro other hother
    by_cases hsame : other = place
    · subst hsame
      by_cases hroot : other = []
      · subst hroot
        rfl
      · rw [get?_put_self hroot, get?_put_self hroot]
    · rw [get?_put_of_ne hsame, get?_put_of_ne hsame, h.get? other hother]
  gone := by rw [get?_put_of_ne (Ne.symm hne), h.gone]
  isSome := by
    rw [get?_put_of_ne (Ne.symm hne)]
    exact h.isSome

theorem erase (h : LacksAt q d d') (hne : place ≠ q) :
    LacksAt q (d.erase place) (d'.erase place) where
  cwd := h.cwd
  get? := by
    intro other hother
    by_cases hsame : other = place
    · subst hsame
      by_cases hroot : other = []
      · subst hroot
        rfl
      · rw [get?_erase_self hroot, get?_erase_self hroot]
    · rw [get?_erase_of_ne hsame, get?_erase_of_ne hsame, h.get? other hother]
  gone := by rw [get?_erase_of_ne (Ne.symm hne), h.gone]
  isSome := by
    rw [get?_erase_of_ne (Ne.symm hne)]
    exact h.isSome

/-! ### New directories -/

theorem makeDir_alike (h : LacksAt q d d') (hkeeps : first.Keeps mayCome d) (havoids : first.Avoids q p) :
    Alike (LacksAt q) (d.makeDir p) (d'.makeDir p) := by
  unfold makeDir
  rw [h.locate_eq hkeeps havoids]
  cases hlocate : d.locate false p with
  | error f => exact .error _
  | ok s =>
    cases s with
    | found place e => exact .error _
    | free place => exact .ok (h.put (h.ne_of_none (get?_of_locate_free hlocate)) .directory)

theorem makeDirs_alike (h : LacksAt q d d') (hkeeps : first.Keeps mayCome d) (havoids : first.Avoids q p) :
    LacksAt q (d.makeDirs p).1 (d'.makeDirs p).1 ∧ (d'.makeDirs p).2 = (d.makeDirs p).2 := by
  have hrelated := makeDirs_related (p := p) (fun d d' => LacksAt q d d' ∧ first.Keeps mayCome d)
    ⟨h, hkeeps⟩ fun {d d'} names hnames hrelated => by
      obtain ⟨hlacks, hkeeps⟩ := hrelated
      obtain ⟨more, hmore⟩ := hnames
      have hbegin : first.Avoids q ⟨p.root, names⟩ := by
        have hlonger : first.Avoids q ⟨p.root, names ++ more⟩ := by
          rw [hmore]
          exact havoids
        exact hlonger.of_append
      refine ⟨?_, ?_⟩
      · unfold isDirectory entry?
        rw [hlacks.locate_eq hkeeps hbegin]
      · have hmake := hlacks.makeDir_alike hkeeps hbegin
        have hgrows : ∀ x, d.makeDir ⟨p.root, names⟩ = .ok x → first.Keeps mayCome x :=
          fun x hx => hkeeps.trans (.of_grows (makeDir_grows hx))
        revert hmake hgrows
        generalize d.makeDir ⟨p.root, names⟩ = x
        generalize d'.makeDir ⟨p.root, names⟩ = x'
        rintro (e | hmade) hgrows
        · exact .error e
        · exact .ok ⟨hmade, hgrows _ rfl⟩
  exact ⟨hrelated.1.1, hrelated.2⟩

variable {dir : Path} {name : Text} {content : Bytes}

/-- Disks after a new file, with the file's place and path. -/
def SameFile (q : Place) (x x' : Disk × Place × Path) : Prop := LacksAt q x.1 x'.1 ∧ x'.2 = x.2

theorem createTemporary_alike (h : LacksAt q d d') (hkeeps : first.Keeps mayCome d)
    (havoids : first.Avoids q (d.absolute dir)) (hq : ∀ there n, there ++ [temporaryName name n] ≠ q) :
    Alike (SameFile q) (d.createTemporary dir name content) (d'.createTemporary dir name content) := by
  obtain ⟨e, htemp, htemp'⟩ | ⟨place, shown, -, -, htemp, htemp'⟩ :=
    createTemporary_cases name content h.cwd (h.descendTo_eq hkeeps havoids)
      fun there n => by rw [h.get? _ (hq there n)]
  · rw [htemp, htemp']
    exact .error e
  · obtain ⟨-, -, there, n, -, rfl⟩ := createTemporary_ok htemp
    rw [htemp, htemp']
    exact .ok ⟨h.put (hq there n) _, rfl⟩

/-! ### Moving a file into place -/

theorem moveOver_alike (h : LacksAt q d d') (hkeeps : first.Keeps mayCome d) (havoids : first.Avoids q p)
    (hname : name ≠ (".." : Text)) (hq : ∀ there, there ++ [name] ≠ q) {source : Place} (shown : Path)
    (hsource : d'.get? source ≠ none) :
    Alike (LacksAt q) (d.moveOver source shown (p.child name))
      (d'.moveOver source shown (p.child name)) := by
  have hne : source ≠ q := by
    intro he
    subst he
    exact hsource h.gone
  have hlocate := h.locate_child_eq hkeeps havoids hname hq
  unfold moveOver
  rw [hlocate, h.get? source hne]
  cases hget : d.get? source with
  | none => exact .error _
  | some e =>
    rw [locate_child hname]
    cases d.descendTo p with
    | error f => exact .error _
    | ok there =>
      simp only [Except.bind, lookAt]
      by_cases hlong : (encode name).length > longestName
      · rw [if_pos hlong]
        exact .error _
      · rw [if_neg hlong]
        cases d.get? (there ++ [name]) with
        | none => exact .ok ((h.erase hne).put (hq there) e)
        | some old =>
          cases old with
          | directory => exact .error _
          | file content => exact .ok ((h.erase hne).put (hq there) e)
          | link target => exact .ok ((h.erase hne).put (hq there) e)

end LacksAt
end Disk
end Componentry.Files
