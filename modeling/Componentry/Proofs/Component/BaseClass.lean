import Mathlib.Data.Finset.Card
import Mathlib.Data.List.MinMax
import Componentry.Component.Spec
import Componentry.Proofs.Component.Tokens

/-!
The base class of a page is the stem that most different class tokens of the page have. Of several such
stems it is the one that the walk over the page meets first.
-/
namespace Componentry.Component
open Componentry.Markup Componentry.Text Componentry.Document

/-! ### First places -/

section Unique
variable {xs : List Text} {x y : Text}

theorem unique_filter (p : Text → Bool) (xs : List Text) : unique (xs.filter p) = (unique xs).filter p := by
  induction xs with
  | nil => rfl
  | cons x xs ih =>
    by_cases hx : p x = true
    · rw [List.filter_cons_of_pos hx, unique, unique, List.filter_cons_of_pos hx, ih, List.filter_comm]
    · have hgone : ((unique xs).filter (· ≠ x)).filter p = (unique xs).filter p := by
        rw [List.filter_filter]
        refine List.filter_congr fun y _ => ?_
        by_cases hy : y = x
        · subst hy
          simp [hx]
        · simp [hy]
      rw [List.filter_cons_of_neg hx, unique, List.filter_cons_of_neg hx, ih, hgone]

/-- What was listed once each before need not be so for the first places of something else. -/
theorem unique_map_unique (f : Text → Text) (xs : List Text) :
    unique ((unique xs).map f) = unique (xs.map f) := by
  induction xs with
  | nil => rfl
  | cons x xs ih =>
    have hsame : (((unique xs).filter (· ≠ x)).map f).filter (· ≠ f x) =
        ((unique xs).map f).filter (· ≠ f x) := by
      rw [List.filter_map, List.filter_map, List.filter_filter]
      congr 1
      refine List.filter_congr fun y _ => ?_
      by_cases hy : y = x
      · simp [hy]
      · simp [hy]
    rw [unique, List.map_cons, List.map_cons, unique, unique, ← unique_filter, hsame, unique_filter, ih]

/-- Of two values the one that comes first is listed first. -/
theorem idxOf_unique_le_iff (hx : x ∈ xs) (hy : y ∈ xs) :
    (unique xs).idxOf x ≤ (unique xs).idxOf y ↔ xs.idxOf x ≤ xs.idxOf y := by
  have hlt : ∀ {x y : Text}, x ∈ xs → y ∈ xs → (unique xs).idxOf x < (unique xs).idxOf y →
      xs.idxOf x < xs.idxOf y := by
    intro x y hx hy hlt
    have hx := List.idxOf_lt_length_iff.2 (mem_unique.2 hx)
    have hy := List.idxOf_lt_length_iff.2 (mem_unique.2 hy)
    have hpairs := List.pairwise_iff_getElem.1 (pairwise_idxOf_unique xs) _ _ hx hy hlt
    rwa [List.getElem_idxOf hx, List.getElem_idxOf hy] at hpairs
  constructor
  · intro hle
    obtain hbefore | hsame := Nat.lt_or_eq_of_le hle
    · exact Nat.le_of_lt (hlt hx hy hbefore)
    · rw [(List.idxOf_inj (mem_unique.2 hx)).1 hsame]
  · intro hle
    by_contra hafter
    exact absurd (hlt hy hx (Nat.lt_of_not_le hafter)) (Nat.not_lt.2 hle)

end Unique

/-! ### The largest of several -/

theorem firstMax_eq_none_iff {α : Type} {f : α → Int} {xs : List α} : firstMax f xs = none ↔ xs = [] := by
  cases xs with
  | nil => simp [firstMax]
  | cons x xs =>
    rw [firstMax]
    cases firstMax f xs with
    | none => simp
    | some y =>
      dsimp only
      split
      · simp
      · simp

theorem firstMax_eq_some_iff {f : Text → Int} {xs : List Text} {x : Text} :
    firstMax f xs = some x ↔
      x ∈ xs ∧ (∀ y ∈ xs, f y ≤ f x) ∧ ∀ y ∈ xs, f x ≤ f y → xs.idxOf x ≤ xs.idxOf y := by
  have hargmax : firstMax f xs = xs.argmax f := by
    induction xs with
    | nil => rfl
    | cons x xs ih =>
      rw [firstMax, List.argmax_cons, ih]
      cases xs.argmax f <;> rfl
  have hbeq : (instBEqOfDecidableEq : BEq Text) = List.instBEq := lawful_beq_subsingleton _ _
  rw [hargmax, List.argmax_eq_some_iff, hbeq]

/-! ### Stems -/

/-- How many different tokens have the stem. -/
def spread (walk : List Text) (s : Text) : Nat := (walk.toFinset.filter (stem · = s)).card

/-- The place of the first token that has the stem. -/
def firstPlace (walk : List Text) (s : Text) : Nat := walk.findIdx (stem · = s)

/-- The stem that most different tokens have, and of several such stems the first. -/
structure IsMainStem (walk : List Text) (s : Text) : Prop where
  isStem : ∃ t ∈ walk, stem t = s
  most : ∀ t ∈ walk, spread walk (stem t) ≤ spread walk s
  first : ∀ t ∈ walk, spread walk (stem t) = spread walk s → firstPlace walk s ≤ firstPlace walk (stem t)

theorem count_stems (walk : List Text) (s : Text) : ((unique walk).map stem).count s = spread walk s := by
  have hsame : (unique walk).toFinset = walk.toFinset := by
    ext t
    rw [List.mem_toFinset, List.mem_toFinset, mem_unique]
  have hcard : spread walk s = ((unique walk).filter (stem · = s)).length := by
    rw [spread, ← hsame, ← List.toFinset_card_of_nodup ((nodup_unique walk).filter _)]
    congr 1
    ext t
    simp
  rw [hcard, List.count, List.countP_map, ← List.countP_eq_length_filter]
  exact List.countP_congr fun t _ => by simp

theorem firstPlace_eq (walk : List Text) (s : Text) : firstPlace walk s = (walk.map stem).idxOf s := by
  rw [firstPlace, List.idxOf, List.findIdx_map]
  congr 1
  funext t
  rw [Bool.eq_iff_iff]
  simp

theorem baseClass?_eq_none_iff {tokens : List Text} : baseClass? tokens = none ↔ tokens = [] := by
  rw [baseClass?, firstMax_eq_none_iff]
  cases tokens with
  | nil => simp [unique]
  | cons t ts => simp [unique]

/-- The choice of the base class, from tokens that are listed once each. -/
theorem baseClass?_unique_iff {walk : List Text} {b : Text} :
    baseClass? (unique walk) = some b ↔ IsMainStem walk b := by
  rw [baseClass?, firstMax_eq_some_iff, unique_map_unique]
  simp only [count_stems, mem_unique, Int.ofNat_eq_natCast, Int.ofNat_le]
  constructor
  · intro h
    obtain ⟨hmem, hmost, hfirst⟩ := h
    refine ⟨by simpa using hmem, fun t ht => hmost _ (List.mem_map_of_mem ht), fun t ht hsame => ?_⟩
    rw [firstPlace_eq, firstPlace_eq, ← idxOf_unique_le_iff hmem (List.mem_map_of_mem ht)]
    exact hfirst _ (List.mem_map_of_mem ht) (Nat.le_of_eq hsame.symm)
  · intro h
    have hmem : b ∈ walk.map stem := by simpa using h.isStem
    refine ⟨hmem, fun s hs => ?_, fun s hs hle => ?_⟩
    · obtain ⟨t, ht, rfl⟩ := List.mem_map.1 hs
      exact h.most t ht
    · obtain ⟨t, ht, rfl⟩ := List.mem_map.1 hs
      rw [idxOf_unique_le_iff hmem hs, ← firstPlace_eq, ← firstPlace_eq]
      exact h.first t ht (Nat.le_antisymm (h.most t ht) hle)

-- both stems have two different tokens
example : baseClass? (unique ["card", "btn-sm", "card", "btn", "card-body"]) = some "card" := by decide

/-! ### Pages -/

theorem walkTokens_eq_nil_iff {ns : List Node} :
    walkTokens ns = [] ↔
      ∀ name attrs children, .element name attrs children ∈ forestPreorder ns → ownClasses attrs = [] := by
  rw [walkTokens, List.flatMap_eq_nil_iff]
  constructor
  · intro h name attrs children hmem
    exact h _ hmem
  · intro h n hn
    cases n with
    | element name attrs children => exact h name attrs children hn
    | text v => rfl
    | comment body => rfl

/-- A page has no base class just if no element on it has a class token. Otherwise it is the stem of most
different tokens, and of several such stems the one whose first token comes first in the walk. -/
theorem baseClass_of_walk (base : Text) (page : Page) :
    ((Spec.ofPage base page).baseClass = none ↔ ∀ name attrs children,
      .element name attrs children ∈ forestPreorder (Spec.pageNodes page) → ownClasses attrs = []) ∧
    ∀ b, (Spec.ofPage base page).baseClass = some b ↔
      IsMainStem (walkTokens (Spec.pageNodes page)) b := by
  have hbase : (Spec.ofPage base page).baseClass =
      baseClass? (unique (walkTokens (Spec.pageNodes page))) := by
    rw [← allClasses_eq_unique_walkTokens]
    rfl
  have hempty : unique (walkTokens (Spec.pageNodes page)) = [] ↔ walkTokens (Spec.pageNodes page) = [] := by
    simp only [List.eq_nil_iff_forall_not_mem, mem_unique]
  rw [hbase]
  refine ⟨?_, fun b => baseClass?_unique_iff⟩
  rw [baseClass?_eq_none_iff, hempty, walkTokens_eq_nil_iff]

end Componentry.Component
