import Componentry.Markup.Node

/-!
The nodes of a forest in the order in which a reader meets them: each before those inside it.
-/
namespace Componentry.Markup

mutual
/-- A node, then all that it holds. -/
def Node.preorder : Node → List Node
  | .element name attrs children => .element name attrs children :: forestPreorder children
  | .text v => [.text v]
  | .comment body => [.comment body]
def forestPreorder : List Node → List Node
  | [] => []
  | n :: ns => n.preorder ++ forestPreorder ns
end

theorem forestPreorder_eq_flatMap (ns : List Node) : forestPreorder ns = ns.flatMap Node.preorder := by
  induction ns with
  | nil => rfl
  | cons n ns ih => rw [forestPreorder, ih, List.flatMap_cons]

theorem mem_preorder_self (n : Node) : n ∈ n.preorder := by
  cases n <;> simp [Node.preorder]

/-- What holds of all of an element holds of itself and of all that its children hold. -/
theorem forall_mem_preorder_element {P : Node → Prop} {name : Text} {attrs : Attrs} {children : List Node} :
    (∀ m ∈ (Node.element name attrs children).preorder, P m) ↔
      P (.element name attrs children) ∧ ∀ n ∈ children, ∀ m ∈ n.preorder, P m := by
  rw [Node.preorder, forestPreorder_eq_flatMap, List.forall_mem_cons, List.forall_mem_flatMap]

end Componentry.Markup
