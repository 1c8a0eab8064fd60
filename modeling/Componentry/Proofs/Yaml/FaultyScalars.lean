import Componentry.Yaml.Document

/-!
A scalar fault in making the value of a document comes from a node of the document: one whose text has the
form of its kind, or a tag for it, but stands for nothing of that kind.
-/
namespace Componentry.Yaml
open Componentry.Text

/-! ### Faults of parts -/

theorem Levels.mem_flatten_beside {f : Fault} {fs gs : Levels} :
    f ∈ (fs.beside gs).flatten ↔ f ∈ fs.flatten ∨ f ∈ gs.flatten := by
  induction fs, gs using Levels.beside.induct with
  | case1 gs => simp [Levels.beside]
  | case2 fs hne => cases fs <;> simp [Levels.beside]
  | case3 f fs g gs ih =>
    simp only [Levels.beside, List.flatten_cons, List.mem_append, ih]
    exact or_or_or_comm

namespace Found
variable {α β γ : Type} {f : Fault}

/-- A fault is among those met. -/
def Meets (f : Fault) (x : Found α) : Prop := f ∈ x.faults.flatten

@[simp]
theorem not_meets_sound (a : α) : ¬Meets f (sound a) := by simp [Meets, sound]

@[simp]
theorem meets_fault {g : Fault} (a : α) : Meets f (fault g a) ↔ f = g := by simp [Meets, fault]

@[simp]
theorem meets_ofExcept {r : Except Fault α} (a : α) : Meets f (ofExcept r a) ↔ r = .error f := by
  cases r with
  | ok b => simp [ofExcept]
  | error g => simp [ofExcept, eq_comm]

@[simp]
theorem meets_map {h : α → β} {x : Found α} : Meets f (x.map h) ↔ Meets f x := Iff.rfl

@[simp]
theorem meets_both {h : α → β → γ} {x : Found α} {y : Found β} :
    Meets f (both h x y) ↔ Meets f x ∨ Meets f y := Levels.mem_flatten_beside

@[simp]
theorem meets_inside {x : Found α} : Meets f x.inside ↔ Meets f x := by simp [Meets, inside]

theorem meets_of_result {x : Found α} (h : x.result = .error f) : Meets f x := by
  unfold result at h
  split at h
  · cases h
  · next g gs hfaults =>
    cases h
    rw [Meets, hfaults]
    exact List.mem_cons_self

end Found

/-! ### Parts of a document -/

/-- A node stands in another, or is the other. -/
inductive Node.Within (m : Node) : Node → Prop
  | refl : m.Within m
  | item {tag : Option Text} {items : List Node} {n : Node} (hn : n ∈ items) (h : m.Within n) :
    m.Within (.list tag items)
  | key {tag : Option Text} {entries : List (Node × Node)} {e : Node × Node} (he : e ∈ entries)
    (h : m.Within e.1) : m.Within (.map tag entries)
  | value {tag : Option Text} {entries : List (Node × Node)} {e : Node × Node} (he : e ∈ entries)
    (h : m.Within e.2) : m.Within (.map tag entries)

/-- The text of a node stands for nothing of its kind. -/
def Node.IsFaulty (why : ScalarFault) (m : Node) : Prop := m.ofText m.kind = .error (.scalar why)

/-- Some node of a document is faulty. -/
def Node.HoldsFaulty (why : ScalarFault) (n : Node) : Prop := ∃ m : Node, m.Within n ∧ m.IsFaulty why

variable {why : ScalarFault}

theorem Node.IsFaulty.holds {n : Node} (h : n.IsFaulty why) : n.HoldsFaulty why := ⟨n, .refl, h⟩

theorem Node.HoldsFaulty.item {tag : Option Text} {items : List Node}
    (h : ∃ n ∈ items, n.HoldsFaulty why) : (Node.list tag items).HoldsFaulty why := by
  obtain ⟨n, hn, m, hm, hfaulty⟩ := h
  exact ⟨m, .item hn hm, hfaulty⟩

theorem Node.HoldsFaulty.entry {tag : Option Text} {entries : List (Node × Node)}
    (h : ∃ e ∈ entries, e.1.HoldsFaulty why ∨ e.2.HoldsFaulty why) :
    (Node.map tag entries).HoldsFaulty why := by
  obtain ⟨e, he, ⟨m, hm, hfaulty⟩ | ⟨m, hm, hfaulty⟩⟩ := h
  · exact ⟨m, .key he hm, hfaulty⟩
  · exact ⟨m, .value he hm, hfaulty⟩

theorem Node.ofText_text_ne (n : Node) : n.ofText .text ≠ .error (.scalar why) := by
  unfold Node.ofText
  split
  · simp
  · simp [scalarValue]
  · simp [scalarValue]

mutual
theorem Node.holdsFaulty_of_found :
    ∀ n : Node, n.found.Meets (.scalar why) → n.HoldsFaulty why
  | .scalar tag plain s, h => by
    rw [Node.found] at h
    split at h
    · simp at h
    · exact Node.IsFaulty.holds ((Found.meets_ofExcept _).1 h)
  | .list tag items, h => by
    rw [Node.found] at h
    split at h
    · exact .item (valuesOf_faulty items (by simpa using h))
    · exact .item (pairsOf_faulty items (by simpa using h))
    · exact .item (pairsOf_faulty items (by simpa using h))
    · simp at h
    · simp at h
    · exact Node.IsFaulty.holds ((Found.meets_ofExcept _).1 h)
  | .map tag entries, h => by
    rw [Node.found] at h
    split at h
    · next hgather => exact .entry (gather_faulty entries hgather (by simpa using h))
    · next hgather => exact .entry (gather_faulty entries hgather (by simpa using h))
    · simp at h
    · simp at h
    · simp at h
    · simp at h
    · simp at h
    · exact Node.IsFaulty.holds ((Found.meets_ofExcept _).1 h)
  | .cycle, h => by
    rw [Node.found] at h
    simp at h

theorem valuesOf_faulty :
    ∀ ns : List Node, (valuesOf ns).Meets (.scalar why) → ∃ n ∈ ns, n.HoldsFaulty why
  | [], h => by simp [valuesOf] at h
  | n :: ns, h => by
    rw [valuesOf, Found.meets_both] at h
    cases h with
    | inl h => exact ⟨n, List.mem_cons_self, n.holdsFaulty_of_found h⟩
    | inr h =>
      obtain ⟨m, hm, hfaulty⟩ := valuesOf_faulty ns h
      exact ⟨m, List.mem_cons_of_mem _ hm, hfaulty⟩

theorem pairsOf_faulty :
    ∀ ns : List Node, (pairsOf ns).Meets (.scalar why) → ∃ n ∈ ns, n.HoldsFaulty why
  | [], h => by simp [pairsOf] at h
  | .map tag [(k, v)] :: ns, h => by
    rw [pairsOf, Found.meets_both, Found.meets_both] at h
    obtain (h | h) | h := h
    · exact ⟨_, List.mem_cons_self, .entry ⟨(k, v), List.mem_cons_self, .inl (k.holdsFaulty_of_found h)⟩⟩
    · exact ⟨_, List.mem_cons_self, .entry ⟨(k, v), List.mem_cons_self, .inr (v.holdsFaulty_of_found h)⟩⟩
    · obtain ⟨m, hm, hfaulty⟩ := pairsOf_faulty ns h
      exact ⟨m, List.mem_cons_of_mem _ hm, hfaulty⟩
  | .map _ [] :: _, h => by simp [pairsOf] at h
  | .map _ (_ :: _ :: _) :: _, h => by simp [pairsOf] at h
  | .scalar .. :: _, h => by simp [pairsOf] at h
  | .list .. :: _, h => by simp [pairsOf] at h
  | .cycle :: _, h => by simp [pairsOf] at h

theorem gather_faulty : ∀ (es : List (Node × Node)) {merged own : Found Entries},
    gather es = some (merged, own) → merged.Meets (.scalar why) ∨ own.Meets (.scalar why) →
      ∃ e ∈ es, e.1.HoldsFaulty why ∨ e.2.HoldsFaulty why
  | [], merged, own, hgather, h => by
    rw [gather] at hgather
    cases hgather
    simp at h
  | (k, v) :: es, merged, own, hgather, h => by
    have hlater {merged' own' : Found Entries} (hrest : gather es = some (merged', own'))
        (h : merged'.Meets (.scalar why) ∨ own'.Meets (.scalar why)) :
        ∃ e ∈ (k, v) :: es, e.1.HoldsFaulty why ∨ e.2.HoldsFaulty why := by
      obtain ⟨e, he, hfaulty⟩ := gather_faulty es hrest h
      exact ⟨e, List.mem_cons_of_mem _ he, hfaulty⟩
    rw [gather] at hgather
    split at hgather
    · obtain ⟨taken, htaken, hgather⟩ := Option.bind_eq_some_iff.1 hgather
      obtain ⟨⟨merged', own'⟩, hrest, hgather⟩ := Option.bind_eq_some_iff.1 hgather
      cases hgather
      rw [Found.meets_both] at h
      obtain (h | h) | h := h
      · exact ⟨_, List.mem_cons_self, .inr (mergedOf_faulty v htaken h)⟩
      · exact hlater hrest (.inl h)
      · exact hlater hrest (.inr h)
    · obtain ⟨⟨merged', own'⟩, hrest, hgather⟩ := Option.bind_eq_some_iff.1 hgather
      cases hgather
      rw [Found.meets_both, Found.meets_both] at h
      obtain h | (h | h) | h := h
      · exact hlater hrest (.inl h)
      · split at h
        · simp at h
        · split at h
          · exact absurd ((Found.meets_ofExcept _).1 h) k.ofText_text_ne
          · exact ⟨_, List.mem_cons_self, .inl (k.holdsFaulty_of_found h)⟩
      · exact ⟨_, List.mem_cons_self, .inr (v.holdsFaulty_of_found h)⟩
      · exact hlater hrest (.inr h)

theorem mergedOf_faulty : ∀ (n : Node) {taken : Found Entries}, mergedOf n = some taken →
    taken.Meets (.scalar why) → n.HoldsFaulty why
  | .scalar .., taken, hmerged, h => by
    rw [mergedOf] at hmerged
    cases hmerged
  | .cycle, taken, hmerged, h => by
    rw [mergedOf] at hmerged
    cases hmerged
    simp at h
  | .list tag items, taken, hmerged, h => by
    rw [mergedOf] at hmerged
    exact .item (mergedOfAll_faulty items hmerged h)
  | .map tag entries, taken, hmerged, h => by
    rw [mergedOf] at hmerged
    obtain ⟨⟨merged, own⟩, hgather, hmerged⟩ := Option.bind_eq_some_iff.1 hmerged
    cases hmerged
    exact .entry (gather_faulty entries hgather (Found.meets_both.1 h))

theorem mergedOfAll_faulty : ∀ (ns : List Node) {taken : Found Entries}, mergedOfAll ns = some taken →
    taken.Meets (.scalar why) → ∃ n ∈ ns, n.HoldsFaulty why
  | [], taken, hmerged, h => by
    rw [mergedOfAll] at hmerged
    cases hmerged
    simp at h
  | .map tag entries :: ns, taken, hmerged, h => by
    rw [mergedOfAll] at hmerged
    obtain ⟨⟨merged, own⟩, hgather, hmerged⟩ := Option.bind_eq_some_iff.1 hmerged
    obtain ⟨rest, hrest, hmerged⟩ := Option.bind_eq_some_iff.1 hmerged
    cases hmerged
    rw [Found.meets_both, Found.meets_both] at h
    cases h with
    | inl h =>
      obtain ⟨m, hm, hfaulty⟩ := mergedOfAll_faulty ns hrest h
      exact ⟨m, List.mem_cons_of_mem _ hm, hfaulty⟩
    | inr h => exact ⟨_, List.mem_cons_self, .entry (gather_faulty entries hgather h)⟩
  | .cycle :: ns, taken, hmerged, h => by
    rw [mergedOfAll] at hmerged
    obtain ⟨m, hm, hfaulty⟩ := mergedOfAll_faulty ns hmerged h
    exact ⟨m, List.mem_cons_of_mem _ hm, hfaulty⟩
  | .scalar .. :: _, taken, hmerged, h => by simp [mergedOfAll] at hmerged
  | .list .. :: _, taken, hmerged, h => by simp [mergedOfAll] at hmerged
end

/-- If a text has no value for a scalar, it could not be read on, or its document holds a faulty node. -/
theorem load_eq_scalar {s : Text} (h : load s = .error (.scalar why)) :
    document (tokens s) = .error (.scalar why) ∨
      ∃ n, document (tokens s) = .ok (some n) ∧ n.HoldsFaulty why := by
  rw [load] at h
  cases hdocument : document (tokens s) with
  | error f =>
    rw [hdocument] at h
    cases h
    exact .inl rfl
  | ok n? =>
    rw [hdocument] at h
    cases n? with
    | none => cases h
    | some n => exact .inr ⟨n, rfl, n.holdsFaulty_of_found (Found.meets_of_result h)⟩

end Componentry.Yaml
