import Componentry.Proofs.Markup.Keys
import Componentry.Proofs.Markup.Origin
import Componentry.Proofs.Text.Replace
import Componentry.Proofs.Text.Trim
import Mathlib.Data.List.SplitBy

/-!
Parsed forests are clean: no text is blank, no comment has blanks at its ends, the keys of an element
differ, and no class holds a runtime marker. Taking the markers out of a class halves its runs of dollars.
-/
namespace Componentry.Markup
open Componentry.Text

/-! ### Markers in classes -/

section Dollars
variable {s : Text}

theorem marker_prefix_iff {c : Char} : runtimeMarker <+: c :: s ↔ c = '$' ∧ s.head? = some '$' := by
  cases s with
  | nil => simp [runtimeMarker, List.cons_prefix_cons]
  | cons d s => simp [runtimeMarker, List.cons_prefix_cons, eq_comm]

theorem cleanClass_pair (s : Text) : cleanClass ('$' :: '$' :: s) = cleanClass s :=
  replace_append (by decide) [] s

theorem cleanClass_cons {c : Char} (h : ¬ (c = '$' ∧ s.head? = some '$')) :
    cleanClass (c :: s) = c :: cleanClass s := by
  rw [← marker_prefix_iff, ← startsWith_iff, Bool.not_eq_true] at h
  exact replace_cons h []

theorem head?_cleanClass (hs : s.head? ≠ some '$') : (cleanClass s).head? ≠ some '$' := by
  cases s with
  | nil => decide
  | cons c s =>
    have hc : c ≠ '$' := fun he => hs (by rw [he]; rfl)
    rw [cleanClass_cons fun h => hc h.1]
    exact hs

/-- No marker comes together from what stands on both sides of one that is taken out. -/
theorem contains_cleanClass (s : Text) : contains runtimeMarker (cleanClass s) = false := by
  have hfrom (skip : Nat) : contains runtimeMarker (replaceFrom runtimeMarker [] skip s) = false := by
    fun_induction replaceFrom runtimeMarker [] skip s with
    | case1 => decide
    | case2 skip c s ih => exact ih
    | case3 c s hstarts ih => exact ih
    | case4 c s hstarts ih =>
      rw [startsWith_iff, marker_prefix_iff] at hstarts
      have hno : ¬ (c = '$' ∧ (cleanClass s).head? = some '$') := fun h =>
        head?_cleanClass (fun hs => hstarts ⟨h.1, hs⟩) h.2
      rw [contains, ih, Bool.or_false, ← Bool.not_eq_true, startsWith_iff, marker_prefix_iff]
      exact hno
  exact hfrom 0

/-- Of a run of dollars one is left if their number is odd. -/
theorem cleanClass_dollars (n : Nat) (hs : s.head? ≠ some '$') :
    cleanClass (List.replicate n '$' ++ s) = List.replicate (n % 2) '$' ++ cleanClass s := by
  induction n using Nat.twoStepInduction with
  | zero => rfl
  | one => exact cleanClass_cons fun h => hs h.2
  | more n ih _ =>
    rw [List.replicate_succ, List.replicate_succ, List.cons_append, List.cons_append, cleanClass_pair, ih,
      Nat.add_mod_right]

theorem cleanClass_others {c : Char} (hc : c ≠ '$') (n : Nat) (s : Text) :
    cleanClass (List.replicate n c ++ s) = List.replicate n c ++ cleanClass s := by
  induction n with
  | zero => rfl
  | succ n ih => rw [List.replicate_succ, List.cons_append, cleanClass_cons fun h => hc h.1, ih, List.cons_append]

end Dollars

/-! ### Runs -/

/-- The longest runs of one character each that the text consists of. -/
def runs (s : Text) : List Text := s.splitBy (· == ·)

/-- What a class keeps of a run: of dollars none if their number is even, else one. -/
def keptOfRun (run : Text) : Text :=
  if run.head? = some '$' then List.replicate (run.length % 2) '$' else run

/-- Whatever follows a run of dollars starts with another character, so the run is cleaned alone. -/
theorem cleanClass_run {r s : Text} (hrun : r.IsChain fun c d => (c == d) = true)
    (hnext : r.getLast? = some '$' → s.head? ≠ some '$') : cleanClass (r ++ s) = keptOfRun r ++ cleanClass s := by
  cases r with
  | nil => rfl
  | cons c r =>
    simp only [beq_iff_eq] at hrun
    rw [List.isChain_cons_eq_iff_eq_replicate] at hrun
    have hwhole : c :: r = List.replicate (r.length + 1) c := by rw [List.replicate_succ, ← hrun]
    by_cases hc : c = '$'
    · subst hc
      have hs : s.head? ≠ some '$' := hnext (by simp [hwhole, List.getLast?_replicate])
      have hkept : keptOfRun ('$' :: r) = List.replicate ((r.length + 1) % 2) '$' := if_pos rfl
      rw [hkept, hwhole, cleanClass_dollars _ hs]
    · have hkept : keptOfRun (c :: r) = c :: r := if_neg fun h => hc (Option.some.inj h)
      rw [hkept, hwhole, cleanClass_others hc]

theorem cleanClass_flatten {rs : List Text} (hrun : ∀ r ∈ rs, r.IsChain fun c d => (c == d) = true)
    (hnext : rs.IsChain fun r r' => ∃ h h', (r.getLast h == r'.head h') = false) :
    cleanClass rs.flatten = rs.flatMap keptOfRun := by
  induction rs with
  | nil => rfl
  | cons r rs ih =>
    obtain ⟨hr, hrs⟩ := List.forall_mem_cons.1 hrun
    have hend : r.getLast? = some '$' → rs.flatten.head? ≠ some '$' := by
      cases rs with
      | nil => simp
      | cons r' rs =>
        obtain ⟨⟨hne, hne', hdiff⟩, -⟩ := List.isChain_cons_cons.1 hnext
        rw [List.getLast?_eq_some_getLast hne, List.flatten_cons, List.head?_append_of_ne_nil _ hne',
          List.head?_eq_some_head hne']
        simp only [beq_eq_false_iff_ne] at hdiff
        exact fun h h' => hdiff (Option.some.inj (h.trans h'.symm))
    rw [List.flatten_cons, cleanClass_run hr hend, ih hrs hnext.tail, List.flatMap_cons]

theorem cleanClass_eq_flatMap (s : Text) : cleanClass s = (runs s).flatMap keptOfRun := by
  have hclean := cleanClass_flatten (fun r hr => List.isChain_of_mem_splitBy hr)
    (List.isChain_getLast_head_splitBy (· == ·) s)
  rwa [List.flatten_splitBy] at hclean

theorem marker_not_infix_cleanClass (s : Text) : ¬ runtimeMarker <:+: cleanClass s := by
  rw [← contains_iff, contains_cleanClass]
  exact Bool.false_ne_true

theorem cleanClass_cleanClass (s : Text) : cleanClass (cleanClass s) = cleanClass s :=
  replace_eq_self (contains_cleanClass s)

/-! ### Forests -/

/-- What the rest of the program counts on in a node itself, whatever it holds. -/
def Node.IsClean : Node → Prop
  | .element _ attrs _ => (attrs.map (·.1)).Nodup ∧
      ∀ a ∈ attrs, a.1 = ("class" : Text) → ¬ runtimeMarker <:+: a.2
  | .text v => ∃ c ∈ v, isBlank c = false
  | .comment body => (∀ c, body.head? = some c → isBlank c = false) ∧
      ∀ c, body.getLast? = some c → isBlank c = false

theorem isClean_of_fromTokens {ts : List Token} {n : Node} (h : n.FromTokens ts) : n.IsClean := by
  cases n with
  | element name attrs children =>
    obtain ⟨pairs, -, rfl⟩ := h
    constructor
    · rw [List.map_map]
      exact nodup_keys_ofPairs pairs
    · intro a ha hclass
      obtain ⟨b, -, rfl⟩ := List.mem_map.1 ha
      rw [cleanAttr, if_pos (show b.1 = ("class" : Text) from hclass)]
      exact marker_not_infix_cleanClass b.2
  | text v => simpa [Node.FromTokens, Node.IsClean, allBlank] using h
  | comment body =>
    obtain ⟨s, -, rfl⟩ := h
    exact ⟨fun _ => head?_trimWhere, fun _ => getLast?_trimWhere⟩

/-- Every node of a parsed forest is clean. Cleaning a class leaves no marker behind, so that it has
nothing to do a second time, and keeps of each run of dollars what is left when they go in pairs. -/
theorem clean_of_parse :
    (∀ s ns, parse s = .ok ns → ∀ n ∈ forestPreorder ns, n.IsClean) ∧
    ∀ s, ¬ runtimeMarker <:+: cleanClass s ∧ cleanClass (cleanClass s) = cleanClass s ∧
      cleanClass s = (runs s).flatMap keptOfRun := by
  constructor
  · intro s ns h n hn
    obtain ⟨ts, -, rfl⟩ := tokens_of_parse h
    exact isClean_of_fromTokens (fromTokens_of_mem_preorder hn)
  · exact fun s => ⟨marker_not_infix_cleanClass s, cleanClass_cleanClass s, cleanClass_eq_flatMap s⟩

/-- A key given twice, markers beside a dollar that stays, and blanks in every place. -/
def markedParagraph : Text := "<p id=a class='b$$$ $$c' id=d> <!-- e --> <b> f</b></p>"

def clearedForest : List Node := [
    .element "p" [("id", "d"), ("class", "b$ c")] [.comment "e", .element "b" [] [.text " f"]]]

theorem parse_markedParagraph : parse markedParagraph = .ok clearedForest := by with_unfolding_all rfl

theorem clean_of_parse_markedParagraph :
    parse markedParagraph = .ok clearedForest ∧ (∀ n ∈ forestPreorder clearedForest, n.IsClean) ∧
    cleanClass "b$$$ $$c" = (["b", "$", " ", "", "c"] : List Text).flatten :=
  ⟨parse_markedParagraph, clean_of_parse.1 _ _ parse_markedParagraph,
    (clean_of_parse.2 _).2.2.trans (by with_unfolding_all rfl)⟩

end Componentry.Markup
