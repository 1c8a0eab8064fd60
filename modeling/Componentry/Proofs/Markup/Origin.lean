import Componentry.Proofs.Markup.Building
import Componentry.Proofs.Markup.Preorder

/-!
Where the nodes of a parsed forest come from: each element from a start tag among the tokens, each
comment from a comment; no text is blank.
-/
namespace Componentry.Markup
open Componentry.Text
variable {ts : List Token}

/-- What a node itself, whatever it holds, has from the tokens. -/
def Node.FromTokens (ts : List Token) : Node → Prop
  | .element name attrs _ => ∃ pairs, (.opening name pairs ∈ ts ∨ .selfClosed name pairs ∈ ts) ∧
      attrs = (Attrs.ofPairs pairs).map cleanAttr
  | .text v => allBlank v = false
  | .comment body => ∃ s, .comment s ∈ ts ∧ body = trim s

/-- The node and all that it holds are from the tokens. -/
def Node.Grown (ts : List Token) (n : Node) : Prop := ∀ m ∈ n.preorder, m.FromTokens ts

theorem Node.grown_element {name : Text} {attrs : Attrs} {children : List Node}
    (h : (Node.element name attrs []).FromTokens ts) (hc : ∀ n ∈ children, n.Grown ts) :
    (Node.element name attrs children).Grown ts := forall_mem_preorder_element.2 ⟨h, hc⟩

theorem builtBy_grown (ts : List Token) :
    BuiltBy ts (fun name attrs => (Node.element name attrs []).FromTokens ts) (Node.Grown ts) where
  text hv := List.forall_mem_singleton.2 hv
  comment hs := List.forall_mem_singleton.2 ⟨_, hs, rfl⟩
  alone htag := Node.grown_element ⟨_, htag.symm.imp_left (·.1), rfl⟩ (by simp)
  start htag _ := ⟨_, .inl htag, rfl⟩
  close htag hc := Node.grown_element htag hc

/-- Every node of a forest is made of the tokens that the forest is made of. -/
theorem fromTokens_of_mem_preorder {n : Node} (h : n ∈ forestPreorder (ofTokens ts)) : n.FromTokens ts := by
  rw [forestPreorder_eq_flatMap] at h
  obtain ⟨m, hm, hn⟩ := List.mem_flatMap.1 h
  exact (builtBy_grown ts).forall_mem m hm n hn

end Componentry.Markup
