import Componentry.Component.Classes
import Componentry.Proofs.Markup.Preorder
import Mathlib.Data.List.Basic

/-!
Listing the class tokens of a tree once each, level by level, leaves them in the order in which a
walk over the whole tree first meets them.
-/
namespace Componentry.Component
open Componentry.Markup Componentry.Text

/-! ### First places -/

section Unique
variable {xs xs' ys ys' : List Text}

theorem unique_append (xs ys : List Text) :
    unique (xs ++ ys) = unique xs ++ (unique ys).filter (· ∉ xs) := by
  induction xs with
  | nil => simp [unique, List.filter_eq_self.2]
  | cons x xs ih =>
    rw [List.cons_append, unique, ih, List.filter_append, unique, List.cons_append, List.filter_filter]
    congr 2
    refine List.filter_congr fun y _ => ?_
    by_cases hy : y = x <;> simp [hy]

theorem unique_eq_self (h : xs.Nodup) : unique xs = xs := by
  induction xs with
  | nil => rfl
  | cons x xs ih =>
    obtain ⟨hx, hxs⟩ := List.nodup_cons.1 h
    have hfilter : xs.filter (· ≠ x) = xs :=
      List.filter_eq_self.2 fun y hy => decide_eq_true fun he : y = x => hx (he ▸ hy)
    rw [unique, ih hxs, hfilter]

theorem unique_unique (xs : List Text) : unique (unique xs) = unique xs := unique_eq_self (nodup_unique xs)

theorem unique_append_congr (hx : unique xs = unique xs') (hy : unique ys = unique ys') :
    unique (xs ++ ys) = unique (xs' ++ ys') := by
  have hmem (y : Text) : y ∈ xs ↔ y ∈ xs' := by rw [← mem_unique, hx, mem_unique]
  rw [unique_append, unique_append, hx, hy]
  congr 1
  exact List.filter_congr fun y _ => by simp only [hmem]

/-- Values are listed in the order of their first places. -/
theorem pairwise_idxOf_unique (xs : List Text) :
    (unique xs).Pairwise fun x y => xs.idxOf x < xs.idxOf y := by
  induction xs with
  | nil => exact List.Pairwise.nil
  | cons x xs ih =>
    have hne {y : Text} (hy : y ∈ (unique xs).filter (· ≠ x)) : x ≠ y :=
      (of_decide_eq_true (List.mem_filter.1 hy).2).symm
    refine List.pairwise_cons.2 ⟨fun y hy => ?_, ?_⟩
    · rw [List.idxOf_cons_self, List.idxOf_cons_ne xs (hne hy)]
      exact Nat.succ_pos _
    · refine (ih.filter _).imp_of_mem fun {y z} hy hz hlt => ?_
      rw [List.idxOf_cons_ne xs (hne hy), List.idxOf_cons_ne xs (hne hz)]
      exact Nat.succ_lt_succ hlt

end Unique

/-! ### The walk -/

/-- The class tokens that a node itself carries. -/
def carried : Node → List Text
  | .element _ attrs _ => ownClasses attrs
  | _ => []

/-- Every class token of a forest as often as it is there, in the order of the walk. -/
def walkTokens (ns : List Node) : List Text := (forestPreorder ns).flatMap carried

theorem walkTokens_cons (n : Node) (ns : List Node) :
    walkTokens (n :: ns) = n.preorder.flatMap carried ++ walkTokens ns := by
  rw [walkTokens, forestPreorder, List.flatMap_append, walkTokens]

mutual
theorem unique_nodeClasses (n : Node) : unique (nodeClasses n) = unique (n.preorder.flatMap carried) := by
  cases n with
  | element name attrs children =>
    rw [nodeClasses, Node.preorder, List.flatMap_cons]
    refine unique_append_congr rfl ?_
    rw [unique_unique]
    exact unique_forestClasses children
  | text v => rfl
  | comment body => rfl
theorem unique_forestClasses (ns : List Node) : unique (forestClasses ns) = unique (walkTokens ns) := by
  cases ns with
  | nil => rfl
  | cons n ns =>
    rw [forestClasses, walkTokens_cons]
    exact unique_append_congr (unique_nodeClasses n) (unique_forestClasses ns)
end

/-- The listing of a forest's tokens keeps the walk's first places, however deep the tree. -/
theorem allClasses_eq_unique_walkTokens (ns : List Node) : allClasses ns = unique (walkTokens ns) :=
  unique_forestClasses ns

end Componentry.Component
