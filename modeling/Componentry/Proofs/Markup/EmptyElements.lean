import Componentry.Elixir.Component
import Componentry.Markup.Heex
import Componentry.Proofs.Markup.Escape
import Componentry.Proofs.Markup.Origin
import Componentry.Proofs.Text.Join

/-!
Elements that hold no content have none in a parsed forest, however they are spelled, and the HEEx of
the forest opens and closes none of them.
-/
namespace Componentry.Markup
open Componentry.Elixir Componentry.Text

/-! ### The forest -/

/-- No children under a name that stands for no content. -/
def Node.IsHollow : Node → Prop
  | .element name _ children => name ∈ emptyNames → children = []
  | _ => True

/-- Such an element is never left open, so that nothing is put into it. -/
theorem builtBy_hollow (ts : List Token) :
    BuiltBy ts (fun name _ => name ∉ emptyNames) (fun n => ∀ m ∈ n.preorder, m.IsHollow) where
  text _ := List.forall_mem_singleton.2 trivial
  comment _ := List.forall_mem_singleton.2 trivial
  alone _ := forall_mem_preorder_element.2 ⟨fun _ => rfl, by simp⟩
  start _ hname := hname
  close hname hc := forall_mem_preorder_element.2 ⟨fun hempty => absurd hempty hname, hc⟩

theorem isHollow_of_parse {s : Text} {ns : List Node} (h : parse s = .ok ns) :
    ∀ n ∈ forestPreorder ns, n.IsHollow := by
  obtain ⟨ts, -, rfl⟩ := tokens_of_parse h
  rw [forestPreorder_eq_flatMap, List.forall_mem_flatMap]
  exact (builtBy_hollow ts).forall_mem

/-! ### Its HEEx -/

/-- The token as it stands in HEEx. -/
def Token.toHeex : Token → Text
  | .data s => s
  | .opening name attrs => '<' :: name ++ attrsToHeex attrs ++ ['>']
  | .selfClosed name attrs => '<' :: name ++ attrsToHeex attrs ++ " />"
  | .closing name => "</" ++ name ++ ['>']
  | .comment s => "<!-- " ++ s ++ " -->"
  | .directive => []

mutual
/-- The tokens that the HEEx of a node consists of. -/
def Node.heexTokens (level : Int) : Node → List Token
  | .comment body => [.data (levelMargin level), .comment body]
  | .text v => [.data (levelMargin level), .data (escapeText (trim v))]
  | .element name attrs children =>
    .data (levelMargin level) ::
      if children.isEmpty then [.selfClosed name attrs]
      else if children.all Node.isText then
        [.opening name attrs, .data (children.flatMap Node.inlineHeex), .closing name]
      else
        .opening name attrs :: .data ['\n'] :: (forestHeexTokens (level + 1) children ++
          [.data ['\n'], .data (levelMargin level), .closing name])
def forestHeexTokens (level : Int) : List Node → List Token
  | [] => []
  | n :: ns => n.heexTokens level ++ if ns.isEmpty then [] else .data ['\n'] :: forestHeexTokens level ns
end

mutual
theorem toHeex_eq_flatMap (level : Int) (n : Node) :
    n.toHeex level = (n.heexTokens level).flatMap Token.toHeex := by
  match n with
  | .comment body => simp [Node.toHeex, Node.heexTokens, Token.toHeex]
  | .text v => simp [Node.toHeex, Node.heexTokens, Token.toHeex]
  | .element name attrs children =>
    have hchildren := forestToHeex_eq_flatMap (level + 1) children
    rw [Node.toHeex, Node.heexTokens]
    split
    · simp [Token.toHeex]
    split
    · simp [Token.toHeex]
    · next hne _ =>
      have hlines : childrenToHeex (level + 1) children ≠ [] := by
        rw [childrenToHeex_eq_map]
        simpa using hne
      rw [forestToHeex, unlines] at hchildren
      rw [unlines, List.cons_append, joinWith_cons _ (by simp), joinWith_concat hlines, hchildren]
      simp [Token.toHeex]

theorem forestToHeex_eq_flatMap (level : Int) (ns : List Node) :
    forestToHeex level ns = (forestHeexTokens level ns).flatMap Token.toHeex := by
  match ns with
  | [] => rfl
  | [n] => simpa [forestHeexTokens, forestToHeex, childrenToHeex, unlines, joinWith] using toHeex_eq_flatMap level n
  | n :: m :: ns =>
    have hhead := toHeex_eq_flatMap level n
    have hrest := forestToHeex_eq_flatMap level (m :: ns)
    rw [forestToHeex, unlines] at hrest ⊢
    rw [childrenToHeex, joinWith_cons _ (by simp [childrenToHeex]), hrest, hhead, forestHeexTokens.eq_2 _ n]
    simp [Token.toHeex]
end

/-- Tags in pairs, of names in `held` only, or alone, and no bare bracket in the text between them: what
stands after a tag that closes itself is not inside it. -/
inductive Nested (held : Text → Prop) : List Token → Prop where
  | nil : Nested held []
  | data {s : Text} {ts : List Token} : '<' ∉ s → Nested held ts → Nested held (.data s :: ts)
  | comment {s : Text} {ts : List Token} : Nested held ts → Nested held (.comment s :: ts)
  | selfClosed {name : Text} {attrs : Attrs} {ts : List Token} :
      Nested held ts → Nested held (.selfClosed name attrs :: ts)
  | pair {name : Text} {attrs : Attrs} {ts us : List Token} :
      held name → Nested held ts → Nested held us →
      Nested held (.opening name attrs :: (ts ++ .closing name :: us))

section Nesting
variable {held : Text → Prop} {ts us : List Token}

theorem Nested.append (hts : Nested held ts) (hus : Nested held us) : Nested held (ts ++ us) := by
  induction hts with
  | nil => exact hus
  | data hs _ ih => exact .data hs ih
  | comment _ ih => exact .comment ih
  | selfClosed _ ih => exact .selfClosed ih
  | pair hname hts _ _ ih => rw [List.cons_append, List.append_assoc, List.cons_append]; exact .pair hname hts ih

theorem Nested.mono {kept : Text → Prop} (h : ∀ name, held name → kept name) (hts : Nested held ts) :
    Nested kept ts := by
  induction hts with
  | nil => exact .nil
  | data hs _ ih => exact .data hs ih
  | comment _ ih => exact .comment ih
  | selfClosed _ ih => exact .selfClosed ih
  | pair hname _ _ ih ih' => exact .pair (h _ hname) ih ih'

theorem Nested.held_of_closing_mem (hts : Nested held ts) {name : Text} (h : .closing name ∈ ts) :
    held name := by
  induction hts with
  | nil => exact absurd h List.not_mem_nil
  | data _ _ ih => exact ih (List.mem_of_ne_of_mem (by simp) h)
  | comment _ ih => exact ih (List.mem_of_ne_of_mem (by simp) h)
  | selfClosed _ ih => exact ih (List.mem_of_ne_of_mem (by simp) h)
  | pair hname _ _ ih ih' =>
    obtain h | h := List.mem_append.1 (List.mem_of_ne_of_mem (by simp) h)
    · exact ih h
    obtain h | h := List.mem_cons.1 h
    · rw [Token.closing.inj h]
      exact hname
    · exact ih' h

end Nesting

theorem bracket_not_mem_levelMargin (level : Int) : '<' ∉ levelMargin level := fun h =>
  absurd (List.eq_of_mem_replicate h) (by decide)

mutual
theorem nested_heexTokens (level : Int) (n : Node) (h : ∀ m ∈ n.preorder, m.IsHollow) :
    Nested (· ∉ emptyNames) (n.heexTokens level) := by
  have hmargin := bracket_not_mem_levelMargin level
  have hbracket : '<' ∈ ['<', '>', '"'] := List.mem_cons_self
  match n with
  | .comment body => exact .data hmargin (.comment .nil)
  | .text v => exact .data hmargin (.data (mark_not_mem_escapeText hbracket _) .nil)
  | .element name attrs children =>
    obtain ⟨hname, hchildren⟩ := List.forall_mem_cons.1 h
    have hlines := nested_forestHeexTokens (level + 1) children hchildren
    rw [Node.heexTokens]
    refine .data hmargin ?_
    split
    · exact .selfClosed .nil
    · next hne =>
      have hheld : name ∉ emptyNames := fun hempty => hne (by rw [hname hempty]; rfl)
      split
      · have hbody : Nested (· ∉ emptyNames) [.data (children.flatMap Node.inlineHeex)] :=
          .data (mark_not_mem_inlineHeex hbracket _) .nil
        exact .pair hheld hbody .nil
      · have hfeed : '<' ∉ ['\n'] := by decide
        have hbody := Nested.data hfeed (hlines.append (.data hfeed (.data hmargin .nil)))
        simpa using hbody.pair hheld .nil

theorem nested_forestHeexTokens (level : Int) (ns : List Node) (h : ∀ m ∈ forestPreorder ns, m.IsHollow) :
    Nested (· ∉ emptyNames) (forestHeexTokens level ns) := by
  match ns with
  | [] => exact .nil
  | n :: ns =>
    rw [forestPreorder, List.forall_mem_append] at h
    have hrest := nested_forestHeexTokens level ns h.2
    refine (nested_heexTokens level n h.1).append ?_
    split
    · exact .nil
    · exact .data (by decide) hrest
end

theorem isEmptyName_of_isVoidTag {name : Text} (h : isVoidTag name) : name ∈ emptyNames := by
  have hsub : ∀ tag ∈ voidTags, tag ∈ emptyNames := by decide
  exact hsub name (of_decide_eq_true h)

/-- Elements without content have no children at any depth of a parsed forest. Its HEEx consists of
tags in pairs, tags that close themselves, comments and text, and no pair is of such an element: none
of them is closed by a tag of its own, and nothing that follows one is moved into it. -/
theorem void_elements_of_parse {s : Text} {ns : List Node} (h : parse s = .ok ns) :
    (∀ name attrs children, .element name attrs children ∈ forestPreorder ns → isVoidTag name →
      children = []) ∧
    ∀ level, forestToHeex level ns = (forestHeexTokens level ns).flatMap Token.toHeex ∧
      Nested (fun name => ¬ isVoidTag name) (forestHeexTokens level ns) ∧
      ∀ name, isVoidTag name → .closing name ∉ forestHeexTokens level ns := by
  have hhollow := isHollow_of_parse h
  refine ⟨fun name attrs children hin hvoid => hhollow _ hin (isEmptyName_of_isVoidTag hvoid), fun level => ?_⟩
  have hnested := nested_forestHeexTokens level ns hhollow
  have hpairs := hnested.mono fun name hname hvoid => hname (isEmptyName_of_isVoidTag hvoid)
  exact ⟨forestToHeex_eq_flatMap level ns, hpairs,
    fun name hvoid hclosing => hpairs.held_of_closing_mem hclosing hvoid⟩

/-- Line breaks in three spellings, and an end tag too many. -/
def mixedSpellings : Text := "<p>a<br>b<br/>c<br></br>d</p></br><hr>e"

def spelledForest : List Node := [
    .element "p" [] [.text "a", .element "br" [] [], .text "b", .element "br" [] [], .text "c",
      .element "br" [] [], .text "d"],
    .element "hr" [] [], .text "e"]

theorem parse_mixedSpellings : parse mixedSpellings = .ok spelledForest := by with_unfolding_all rfl

theorem void_elements_of_parse_mixedSpellings :
    parse mixedSpellings = .ok spelledForest ∧
    (∀ attrs children, .element "br" attrs children ∈ forestPreorder spelledForest → children = []) ∧
    .closing "br" ∉ forestHeexTokens 0 spelledForest :=
  have h := void_elements_of_parse parse_mixedSpellings
  have hvoid : isVoidTag "br" := by decide
  ⟨parse_mixedSpellings, fun attrs children hin => h.1 "br" attrs children hin hvoid, (h.2 0).2.2 "br" hvoid⟩

end Componentry.Markup
