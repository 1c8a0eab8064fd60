import Componentry.Proofs.Markup.Escape
import Componentry.Proofs.Markup.Preorder
import Componentry.Proofs.Text.Split
import Componentry.Proofs.Text.Trim

/-!
A deeper level is a wider margin and nothing else: each layout of an element, moved to the right,
is its layout further in.
-/
namespace Componentry.Markup
open Componentry.Text

/-! ### Nodes whose parts stand on one line -/

/-- No line feed in what a node itself says, and no blank text. -/
def Node.IsFlat : Node → Prop
  | .element name attrs _ => '\n' ∉ name ∧ ∀ a ∈ attrs, '\n' ∉ a.1 ∧ '\n' ∉ a.2
  | .text v => '\n' ∉ v ∧ ¬ allBlank v
  | .comment body => '\n' ∉ body

instance Node.decidableIsFlat : (n : Node) → Decidable n.IsFlat
  | .element _ _ _ => inferInstanceAs (Decidable (_ ∧ _))
  | .text _ => inferInstanceAs (Decidable (_ ∧ _))
  | .comment _ => inferInstanceAs (Decidable (¬ _))

section Line
variable {name v : Text} {attrs : Attrs}

theorem lineFeed_not_mem_escapeText (h : '\n' ∉ v) : '\n' ∉ escapeText v := by
  have hentities : ∀ e ∈ entities, '\n' ∉ e.2 := by decide
  rw [escapeText_eq_flatMap, List.mem_flatMap]
  rintro ⟨c, hc, hin⟩
  rcases entityOf_cases c with he | ⟨-, hself⟩
  · exact hentities _ he hin
  · rw [hself, List.mem_singleton] at hin
    exact h (hin ▸ hc)

theorem escapeText_ne_nil (h : v ≠ []) : escapeText v ≠ [] := by
  have hentities : ∀ e ∈ entities, e.2 ≠ [] := by decide
  obtain ⟨c, s, rfl⟩ := List.exists_cons_of_ne_nil h
  rw [escapeText_eq_flatMap, List.flatMap_cons]
  rcases entityOf_cases c with he | ⟨-, hself⟩
  · exact fun hnil => hentities _ he (List.append_eq_nil_iff.1 hnil).1
  · rw [hself]
    exact List.cons_ne_nil c _

theorem lineFeed_not_mem_attrsToHeex (h : ∀ a ∈ attrs, '\n' ∉ a.1 ∧ '\n' ∉ a.2) : '\n' ∉ attrsToHeex attrs := by
  have hattr : ∀ s ∈ attrs.map attrToHeex, '\n' ∉ s := by
    intro s hs
    obtain ⟨a, ha, rfl⟩ := List.mem_map.1 hs
    obtain ⟨hkey, hvalue⟩ := h a ha
    rw [attrToHeex]
    split
    · exact hkey
    · simp only [List.mem_append, not_or]
      exact ⟨⟨⟨hkey, by decide⟩, not_mem_replace (by decide) hvalue⟩, by decide⟩
  rw [attrsToHeex]
  split
  · exact List.not_mem_nil
  · exact List.not_mem_cons_of_ne_of_not_mem (by decide) (not_mem_joinWith (by decide) hattr)

theorem lineFeed_not_mem_inlineHeex {ns : List Node} (h : ∀ n ∈ ns, n.IsFlat) : '\n' ∉ ns.flatMap Node.inlineHeex := by
  rw [List.mem_flatMap]
  rintro ⟨n, hn, hin⟩
  cases n with
  | text v => exact lineFeed_not_mem_escapeText (h _ hn).1 hin
  | _ => cases hin

end Line

/-! ### Margins -/

section Margin
variable {level : Int} {rest : Text}

theorem levelMargin_add (h : 0 ≤ level) (k : Nat) :
    levelMargin (level + k) = spaces (2 * k) ++ levelMargin level := by
  rw [levelMargin, levelMargin, spaces, spaces, spaces, List.replicate_append_replicate]
  congr 1
  omega

/-- A line further in. -/
theorem levelMargin_add_append (h : 0 ≤ level) (k : Nat) (hne : rest ≠ []) (hlf : '\n' ∉ rest) :
    levelMargin (level + k) ++ rest = indent (2 * k) (levelMargin level ++ rest) := by
  have hline : '\n' ∉ levelMargin level ++ rest := not_mem_spaces_append (by decide) hlf _
  rw [indent_line (by simp [hne]) hline, levelMargin_add h, List.append_assoc]

end Margin

mutual
theorem toHeex_add {level : Int} (h : 0 ≤ level) (k : Nat) (n : Node) (hn : ∀ m ∈ n.preorder, m.IsFlat) :
    n.toHeex (level + k) = indent (2 * k) (n.toHeex level) := by
  cases n with
  | comment body =>
    have hbody : '\n' ∉ body := hn _ (mem_preorder_self (.comment body))
    have hlf : '\n' ∉ ("<!-- " ++ body ++ " -->" : Text) := by
      simp only [List.mem_append, not_or]
      exact ⟨⟨by decide, hbody⟩, by decide⟩
    rw [Node.toHeex, Node.toHeex]
    simpa only [List.append_assoc] using levelMargin_add_append h k (by simp) hlf
  | text v =>
    obtain ⟨hlf, hblank⟩ : '\n' ∉ v ∧ ¬ allBlank v := hn _ (mem_preorder_self (.text v))
    have hne : trim v ≠ [] := by
      intro hnil
      rw [← allBlank_trim, hnil] at hblank
      exact hblank rfl
    rw [Node.toHeex, Node.toHeex]
    exact levelMargin_add_append h k (escapeText_ne_nil hne)
      (lineFeed_not_mem_escapeText fun hin => hlf (isInfix_trimWhere.subset hin))
  | element name attrs children =>
    obtain ⟨⟨hname, hattrs⟩, hchildren⟩ := forall_mem_preorder_element.1 hn
    have hhead : '\n' ∉ '<' :: name ++ attrsToHeex attrs := by
      simp [hname, lineFeed_not_mem_attrsToHeex hattrs]
    rw [Node.toHeex, Node.toHeex]
    generalize '<' :: name ++ attrsToHeex attrs = head at hhead
    split
    · rw [List.append_assoc, List.append_assoc]
      exact levelMargin_add_append h k (by simp) (by simp [hhead])
    · split
      · have hinline : '\n' ∉ children.flatMap Node.inlineHeex :=
          lineFeed_not_mem_inlineHeex fun n hn => hchildren n hn n (mem_preorder_self n)
        simp only [List.append_assoc]
        exact levelMargin_add_append h k (by simp) (by simp [hhead, hinline, hname])
      · have hopen : levelMargin (level + k) ++ head ++ ['>'] =
            indent (2 * k) (levelMargin level ++ head ++ ['>']) := by
          rw [List.append_assoc, List.append_assoc]
          exact levelMargin_add_append h k (by simp) (by simp [hhead])
        have hclose : levelMargin (level + k) ++ "</" ++ name ++ ['>'] =
            indent (2 * k) (levelMargin level ++ "</" ++ name ++ ['>']) := by
          simp only [List.append_assoc]
          exact levelMargin_add_append h k (by simp) (by simp [hname])
        have hinner : childrenToHeex (level + k + 1) children =
            (childrenToHeex (level + 1) children).map (indent (2 * k)) := by
          rw [Int.add_right_comm]
          exact childrenToHeex_add (Int.le_add_one h) k children hchildren
        rw [indent_unlines, List.map_append, List.map_cons, List.map_singleton, ← hopen, ← hclose, hinner]
theorem childrenToHeex_add {level : Int} (h : 0 ≤ level) (k : Nat) (ns : List Node)
    (hns : ∀ n ∈ ns, ∀ m ∈ n.preorder, m.IsFlat) :
    childrenToHeex (level + k) ns = (childrenToHeex level ns).map (indent (2 * k)) := by
  cases ns with
  | nil => rfl
  | cons n ns =>
    rw [childrenToHeex, childrenToHeex, List.map_cons, toHeex_add h k n (hns n List.mem_cons_self),
      childrenToHeex_add h k ns fun m hm => hns m (List.mem_cons_of_mem n hm)]
end

/-- The markup of a forest at some level is its markup at the outermost one with a margin of two
spaces for each level between. -/
theorem forestToHeex_eq_indent {ns : List Node} (h : ∀ n ∈ forestPreorder ns, n.IsFlat) (k : Nat) :
    forestToHeex k ns = indent (2 * k) (forestToHeex 0 ns) := by
  have hzero : (k : Int) = 0 + k := (Int.zero_add _).symm
  rw [forestPreorder_eq_flatMap, List.forall_mem_flatMap] at h
  rw [forestToHeex, forestToHeex, indent_unlines, hzero, childrenToHeex_add (Int.le_refl 0) k ns h]

def cardForest : List Node :=
  [.comment "card", .element "div" [("class", "card")] [.text "One & two", .element "br" [] [], .element "p" [] [.text "three"]]]

theorem forestToHeex_cardForest :
    (∀ n ∈ forestPreorder cardForest, n.IsFlat) ∧
      forestToHeex (2 : Nat) cardForest = indent (2 * 2) (forestToHeex 0 cardForest) := by
  have hflat : ∀ n ∈ forestPreorder cardForest, n.IsFlat := by decide
  exact ⟨hflat, forestToHeex_eq_indent hflat 2⟩

end Componentry.Markup
