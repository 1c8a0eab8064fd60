import Componentry.Files.Path
import Componentry.Proofs.Text.Split

/-!
A path that was read from text reads back from its own text.
-/
namespace Componentry
open Componentry.Text

namespace Path

/-- What reading a path from text yields. -/
structure IsNormal (p : Path) : Prop where
  root : p.root = [] ∨ p.root = ['/'] ∨ p.root = ['/', '/']
  isPart : ∀ s ∈ p.parts, isPart s = true
  noSlash : ∀ s ∈ p.parts, '/' ∉ s

theorem isNormal_ofText (s : Text) : (ofText s).IsNormal where
  root := by
    rw [ofText, rootOf]
    dsimp only
    split
    · exact .inl rfl
    · exact .inr (.inr rfl)
    · exact .inr (.inl rfl)
  isPart := fun _ h => (List.mem_filter.1 h).2
  noSlash := fun _ h => not_mem_of_mem_splitOn (List.mem_filter.1 h).1

variable {p : Path}

@[simp] theorem parent_child (p : Path) (name : Text) : (p.child name).parent = p := by
  simp [Path.child, Path.parent]

@[simp] theorem name_child (p : Path) (name : Text) : (p.child name).name = name := by
  simp [Path.child, Path.name]

theorem IsNormal.child (h : p.IsNormal) {name : Text} (hpart : Path.isPart name = true)
    (hslash : '/' ∉ name) : (p.child name).IsNormal where
  root := h.root
  isPart := by
    intro s hs
    obtain hs | hs := List.mem_append.1 hs
    · exact h.isPart s hs
    · rwa [List.mem_singleton.1 hs]
  noSlash := by
    intro s hs
    obtain hs | hs := List.mem_append.1 hs
    · exact h.noSlash s hs
    · rwa [List.mem_singleton.1 hs]

theorem IsNormal.filter_splitOn (h : p.IsNormal) :
    (splitOn '/' (joinWith ['/'] p.parts)).filter Path.isPart = p.parts := by
  by_cases hnil : p.parts = []
  · rw [hnil]
    rfl
  · rw [splitOn_joinWith hnil h.noSlash]
    exact List.filter_eq_self.2 h.isPart

/-- The text of the names does not begin with a slash. -/
theorem IsNormal.head?_joinWith (h : p.IsNormal) :
    (joinWith ['/'] p.parts).head? ≠ some '/' := by
  cases hp : p.parts with
  | nil => simp [joinWith]
  | cons s rest =>
    have hmem : s ∈ p.parts := hp ▸ List.mem_cons_self
    cases s with
    | nil => exact absurd (h.isPart [] hmem) (by decide)
    | cons c s =>
      have hc : c ≠ '/' := fun he => h.noSlash _ hmem (by simp [he])
      cases rest <;> simpa [joinWith] using hc

theorem rootOf_append {root s : Text} (hroot : root = [] ∨ root = ['/'] ∨ root = ['/', '/'])
    (h : s.head? ≠ some '/') : rootOf (root ++ s) = root := by
  have hstop : s.takeWhile (· = '/') = [] := by
    cases s with
    | nil => rfl
    | cons c s =>
      have hc : c ≠ '/' := fun he => h (by simp [he])
      exact List.takeWhile_cons_of_neg (by simpa using hc)
  obtain rfl | rfl | rfl := hroot
  · simp [rootOf, hstop]
  · simp [rootOf, hstop]
  · simp [rootOf, hstop]

/-- The slashes of a root leave only empty names. -/
theorem filter_splitOn_append {root : Text} (hroot : root = [] ∨ root = ['/'] ∨ root = ['/', '/'])
    (s : Text) :
    (splitOn '/' (root ++ s)).filter Path.isPart = (splitOn '/' s).filter Path.isPart := by
  obtain rfl | rfl | rfl := hroot
  · rfl
  · rfl
  · rfl

theorem toText_eq (h : p.root ++ joinWith ['/'] p.parts ≠ []) :
    p.toText = p.root ++ joinWith ['/'] p.parts := by
  rw [toText]
  cases hs : p.root ++ joinWith ['/'] p.parts with
  | nil => exact absurd hs h
  | cons c s => rfl

theorem IsNormal.ofText_append (h : p.IsNormal) :
    ofText (p.root ++ joinWith ['/'] p.parts) = p := by
  rw [ofText, rootOf_append h.root h.head?_joinWith, filter_splitOn_append h.root,
    h.filter_splitOn]

theorem ofText_toText (h : p.IsNormal) : ofText p.toText = p := by
  by_cases hempty : p.root ++ joinWith ['/'] p.parts = []
  · have hp := h.ofText_append
    rw [hempty] at hp
    rw [toText, hempty, ← hp]
    rfl
  · rw [toText_eq hempty, h.ofText_append]

theorem ofText_name {name : Text} (hpart : Path.isPart name = true) (hslash : '/' ∉ name) :
    ofText name = ⟨[], [name]⟩ := by
  have hhead : name.head? ≠ some '/' := fun h => hslash (List.mem_of_head? h)
  have hroot := @rootOf_append [] name (.inl rfl) hhead
  rw [List.nil_append] at hroot
  rw [ofText, hroot, splitOn_eq_singleton hslash, List.filter_cons_of_pos hpart, List.filter_nil]

/-- Files of one directory with different names have different paths. -/
theorem toText_child_inj {p : Path} {name other : Text} (hname : name ≠ []) (hother : other ≠ [])
    (h : (p.child name).toText = (p.child other).toText) : name = other := by
  obtain ⟨before, hbefore⟩ : ∃ before, ∀ s, joinWith ['/'] (p.child s).parts = before ++ s := by
    by_cases hparts : p.parts = []
    · exact ⟨[], fun s => by rw [child, hparts]; rfl⟩
    · exact ⟨joinWith ['/'] p.parts ++ ['/'], fun s => by rw [child, joinWith_concat hparts, List.append_assoc]⟩
  have htext {s : Text} (hs : s ≠ []) : (p.child s).toText = p.root ++ (before ++ s) := by
    have hroot : (p.child s).root = p.root := rfl
    rw [toText_eq (by rw [hbefore]; simp [hs]), hbefore, hroot]
  rw [htext hname, htext hother] at h
  exact List.append_cancel_left (List.append_cancel_left h)

theorem join_name (p : Path) {name : Text} (hpart : Path.isPart name = true) (hslash : '/' ∉ name) :
    p.join (ofText name) = p.child name := by
  rw [ofText_name hpart hslash]
  rfl

end Path
end Componentry
