import Componentry.Markup.Tree

/-!
Forests are built from the inside out: what tokens make at once, and what is kept when an open element
is closed over nodes that are complete, holds of every node of the forest.
-/
namespace Componentry.Markup
open Componentry.Text

/-- `P` comes to hold of all nodes that the tokens make: of texts, comments and elements without
content at once, of any other element when it closes, having `F` from its start tag on. -/
structure BuiltBy (ts : List Token) (F : Text → Attrs → Prop) (P : Node → Prop) : Prop where
  text : ∀ {v}, allBlank v = false → P (.text v)
  comment : ∀ {s}, .comment s ∈ ts → P (.comment (trim s))
  alone : ∀ {name pairs}, .selfClosed name pairs ∈ ts ∨ .opening name pairs ∈ ts ∧ name ∈ emptyNames →
    P (.element name ((Attrs.ofPairs pairs).map cleanAttr) [])
  start : ∀ {name pairs}, .opening name pairs ∈ ts → name ∉ emptyNames →
    F name ((Attrs.ofPairs pairs).map cleanAttr)
  close : ∀ {name attrs children}, F name attrs → (∀ n ∈ children, P n) → P (.element name attrs children)

namespace Builder
variable {ts : List Token} {F : Text → Attrs → Prop} {P : Node → Prop} {b : Builder}

/-- `F` holds of the start tag of an open element and `P` of the siblings on its left. -/
structure HoldsOfFrame (F : Text → Attrs → Prop) (P : Node → Prop) (f : Frame) : Prop where
  start : F f.name f.attrs
  left : ∀ n ∈ f.left, P n

/-- `P` holds of every complete node of a forest under construction, `F` of its open elements. -/
structure Holds (F : Text → Attrs → Prop) (P : Node → Prop) (b : Builder) : Prop where
  frames : ∀ f ∈ b.frames, HoldsOfFrame F P f
  nodes : ∀ n ∈ b.nodes, P n

/-- An element that is closed as soon as it is opened holds nothing. -/
theorem close_push (b : Builder) (name : Text) (pairs : List (Text × Text)) :
    (b.push name pairs).close name =
      ⟨b.frames, .element name ((Attrs.ofPairs pairs).map cleanAttr) [] :: b.flush.nodes, [], b.credits⟩ := by
  simp [push, close, popTo, flush, allBlank]

theorem holds_empty : Holds F P empty := ⟨by simp [empty], by simp [empty]⟩

section Steps
variable (hbuilt : BuiltBy ts F P)
include hbuilt

theorem holds_flush (h : Holds F P b) : Holds F P b.flush := by
  refine ⟨h.frames, fun n hn => ?_⟩
  rw [flush] at hn
  dsimp only at hn
  split at hn
  · exact h.nodes n hn
  · next hblank =>
    obtain rfl | hn := List.mem_cons.1 hn
    · exact hbuilt.text (Bool.eq_false_iff.2 hblank)
    · exact h.nodes n hn

theorem holds_close_push (h : Holds F P b) {name : Text} {pairs : List (Text × Text)}
    (htag : .selfClosed name pairs ∈ ts ∨ .opening name pairs ∈ ts ∧ name ∈ emptyNames) :
    Holds F P ((b.push name pairs).close name) := by
  rw [close_push]
  exact ⟨h.frames, List.forall_mem_cons.2 ⟨hbuilt.alone htag, (holds_flush hbuilt h).nodes⟩⟩

theorem holds_push (h : Holds F P b) {name : Text} {pairs : List (Text × Text)}
    (htag : .opening name pairs ∈ ts) (hname : name ∉ emptyNames) : Holds F P (b.push name pairs) :=
  ⟨List.forall_mem_cons.2 ⟨⟨hbuilt.start htag hname, (holds_flush hbuilt h).nodes⟩, h.frames⟩,
    fun _ hn => absurd hn List.not_mem_nil⟩

/-- The innermost element closes over nodes that are complete. -/
theorem holds_closed {f : Frame} {nodes : List Node} (hf : HoldsOfFrame F P f) (hn : ∀ n ∈ nodes, P n) :
    ∀ n ∈ .element f.name f.attrs nodes.reverse :: f.left, P n :=
  List.forall_mem_cons.2
    ⟨hbuilt.close hf.start fun n h => hn n (List.mem_reverse.1 h), hf.left⟩

theorem holds_popTo (name : Text) {frames : List Frame} {nodes : List Node}
    (hf : ∀ f ∈ frames, HoldsOfFrame F P f) (hn : ∀ n ∈ nodes, P n) :
    (∀ f ∈ (popTo name frames nodes).1, HoldsOfFrame F P f) ∧ ∀ n ∈ (popTo name frames nodes).2, P n := by
  induction frames generalizing nodes with
  | nil => exact ⟨hf, hn⟩
  | cons f frames ih =>
    obtain ⟨hframe, hrest⟩ := List.forall_mem_cons.1 hf
    have hclosed := holds_closed hbuilt hframe hn
    rw [popTo]
    split
    · exact ⟨hrest, hclosed⟩
    · exact ih hrest hclosed

theorem holds_close (h : Holds F P b) (name : Text) : Holds F P (b.close name) := by
  have hflush := holds_flush hbuilt h
  have hpop := holds_popTo hbuilt name hflush.frames hflush.nodes
  rw [close]
  dsimp only
  split
  · exact ⟨hpop.1, hpop.2⟩
  · exact hflush

theorem holds_endTag (h : Holds F P b) (name : Text) : Holds F P (b.endTag name) := by
  rw [endTag]
  split
  · exact ⟨h.frames, h.nodes⟩
  · exact holds_close hbuilt h name

theorem holds_add (h : Holds F P b) {t : Token} (ht : t ∈ ts) : Holds F P (b.add t) := by
  cases t with
  | data s => exact ⟨h.frames, h.nodes⟩
  | opening name pairs =>
    rw [add]
    dsimp only
    split
    · next hempty =>
      have hclosed := holds_close_push hbuilt h (.inr ⟨ht, hempty⟩)
      exact ⟨hclosed.frames, hclosed.nodes⟩
    · next hname => exact holds_push hbuilt h ht hname
  | selfClosed name pairs => exact holds_close_push hbuilt h (.inl ht)
  | closing name => exact holds_endTag hbuilt h name
  | comment s =>
    exact ⟨h.frames, List.forall_mem_cons.2 ⟨hbuilt.comment ht, (holds_flush hbuilt h).nodes⟩⟩
  | directive => exact holds_flush hbuilt h

theorem holds_foldl (h : Holds F P b) {us : List Token} (hus : ∀ t ∈ us, t ∈ ts) :
    Holds F P (us.foldl add b) := by
  induction us generalizing b with
  | nil => exact h
  | cons t us ih =>
    exact ih (holds_add hbuilt h (hus t List.mem_cons_self)) fun u hu => hus u (List.mem_cons_of_mem t hu)

theorem holds_closeAll {frames : List Frame} {nodes : List Node}
    (hf : ∀ f ∈ frames, HoldsOfFrame F P f) (hn : ∀ n ∈ nodes, P n) : ∀ n ∈ closeAll frames nodes, P n := by
  induction frames generalizing nodes with
  | nil => exact fun n h => hn n (List.mem_reverse.1 h)
  | cons f frames ih =>
    obtain ⟨hframe, hrest⟩ := List.forall_mem_cons.1 hf
    exact ih hrest (holds_closed hbuilt hframe hn)

end Steps

end Builder

/-- What holds of all nodes that the tokens make holds of the forest that they make. -/
theorem BuiltBy.forall_mem {ts : List Token} {F : Text → Attrs → Prop} {P : Node → Prop}
    (h : BuiltBy ts F P) : ∀ n ∈ ofTokens ts, P n := by
  have hread := Builder.holds_foldl h Builder.holds_empty (fun t ht => ht : ∀ t ∈ ts, t ∈ ts)
  have hend := Builder.holds_flush h hread
  exact Builder.holds_closeAll h hend.frames hend.nodes

/-- A parsed forest is that of the tokens of its text. -/
theorem tokens_of_parse {s : Text} {ns : List Node} (h : parse s = .ok ns) :
    ∃ ts, tokens s = .ok ts ∧ ofTokens ts = ns := by
  rw [parse] at h
  cases htokens : tokens s with
  | error why =>
    rw [htokens] at h
    cases h
  | ok ts =>
    rw [htokens] at h
    exact ⟨ts, rfl, Except.ok.inj h⟩

end Componentry.Markup
