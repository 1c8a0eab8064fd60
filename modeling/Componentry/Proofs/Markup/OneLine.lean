import Componentry.Proofs.Markup.Keys
import Componentry.Proofs.Markup.Origin
import Componentry.Proofs.Text.Case
import Mathlib.Data.List.TakeWhile

/-!
Names of elements and keys of attributes are text of one line, in the tokens and in the forest.
-/
namespace Componentry.Markup
open Componentry.Text

/-! ### Tokens -/

/-- No line feed in the name or in a key of a start tag. -/
@[grind =]
def Token.OneLine : Token → Prop
  | .opening name attrs | .selfClosed name attrs => '\n' ∉ name ∧ ∀ a ∈ attrs, '\n' ∉ a.1
  | _ => True

theorem lineFeed_not_mem_attributes (before : Char) (s : Text) :
    ∀ a ∈ (attributes before s).1, '\n' ∉ a.1 := by
  have hkey {c : Char} {t : Text} (hc : isAttrStart c = true) : '\n' ∉ c :: t.takeWhile isAttrChar := by
    intro hin
    obtain rfl | hin := List.mem_cons.1 hin
    · exact absurd hc (by decide)
    · exact absurd (List.mem_takeWhile_imp hin) (by decide)
  fun_induction attributes before s with
  | case1 => simp
  | case2 before c t hstart name afterName value last r hvalue more ih =>
    intro a ha
    obtain rfl | ha := List.mem_cons.1 ha
    · exact hkey (Bool.and_eq_true_iff.1 hstart).2
    · exact ih a ha
  | case3 before c t hstart name afterName hvalue last more ih =>
    intro a ha
    obtain rfl | ha := List.mem_cons.1 ha
    · exact hkey (Bool.and_eq_true_iff.1 hstart).2
    · exact ih a ha
  | case4 => simp

theorem lineFeed_not_mem_resolveAttrs {attrs resolved : List (Text × Text)}
    (hattrs : ∀ a ∈ attrs, '\n' ∉ a.1) (h : resolveAttrs attrs = .ok resolved) :
    ∀ a ∈ resolved, '\n' ∉ a.1 := by
  induction attrs generalizing resolved with
  | nil =>
    obtain rfl : [] = resolved := Except.ok.inj h
    simp
  | cons a attrs ih =>
    rw [resolveAttrs, List.mapM_cons] at h
    cases hvalue : resolveValue a.2 with
    | error digits =>
      rw [hvalue] at h
      exact absurd h (by simp [bind, Except.bind])
    | ok value =>
      cases hrest : resolveAttrs attrs with
      | error digits =>
        rw [hvalue, ← resolveAttrs, hrest] at h
        exact absurd h (by simp [bind, Except.bind, pure, Except.pure])
      | ok rest =>
        rw [hvalue, ← resolveAttrs, hrest] at h
        obtain rfl : (lower a.1, value) :: rest = resolved := Except.ok.inj h
        intro b hb
        obtain rfl | hb := List.mem_cons.1 hb
        · exact mark_not_mem_lower (by decide) (hattrs a List.mem_cons_self)
        · exact ih (fun c hc => hattrs c (List.mem_cons_of_mem a hc)) hrest b hb

section Reading
variable {s rest : Text} {ts : List Token} {raw raw' : Option Text}

theorem oneLine_startTag (h : startTag s = .read ts raw rest) : ∀ t ∈ ts, t.OneLine := by
  have hname : '\n' ∉ lower (TagText.ofText s).name := by
    refine mark_not_mem_lower (by decide) fun hin => ?_
    exact absurd (List.mem_takeWhile_imp hin) (by decide)
  unfold startTag at h
  simp only at h
  split at h
  · cases h
  · split at h
    · cases h
    · next hattrs =>
      have hkeys := lineFeed_not_mem_resolveAttrs (lineFeed_not_mem_attributes _ _) hattrs
      split at h
      · cases h
        exact List.forall_mem_singleton.2 ⟨hname, hkeys⟩
      · cases h
        simp [Token.OneLine]
      · cases h
        exact List.forall_mem_singleton.2 ⟨hname, hkeys⟩

theorem oneLine_endTag (h : endTag raw s = .read ts raw' rest) : ∀ t ∈ ts, t.OneLine := by
  unfold endTag at h
  split at h
  · cases h
  · split at h
    · cases h
      simp [Token.OneLine]
    · split at h <;> cases h <;> simp [Token.OneLine]
    · cases h
      simp [Token.OneLine]
    · cases h
      simp
    · split at h <;> cases h <;> simp [Token.OneLine]

theorem oneLine_markedSection (h : markedSection s = .read ts raw rest) : ∀ t ∈ ts, t.OneLine := by
  unfold markedSection at h
  split at h
  · cases h
  · simp only at h
    split at h
    · split at h
      · cases h
      · split at h
        · cases h
        · split at h
          · cases h
            simp [Token.OneLine]
          · cases h
    · cases h

theorem oneLine_declaration (h : declaration s = .read ts raw rest) : ∀ t ∈ ts, t.OneLine := by
  unfold declaration at h
  split at h
  · split at h <;> cases h
    simp [Token.OneLine]
  · exact oneLine_markedSection h
  · split at h
    · split at h <;> cases h
      simp [Token.OneLine]
    · split at h <;> cases h
      simp [Token.OneLine]

theorem oneLine_markup (h : markup raw s = .read ts raw' rest) : ∀ t ∈ ts, t.OneLine := by
  unfold markup at h
  split at h
  · cases h
  · exact oneLine_endTag h
  · exact oneLine_declaration h
  · split at h <;> cases h
    simp [Token.OneLine]
  · split at h
    · exact oneLine_startTag h
    · cases h
      simp [Token.OneLine]

end Reading

theorem oneLine_markupStep {final : Bool} {s rest : Text} {ts : List Token} {raw raw' : Option Text}
    (h : markupStep final raw s = .go ts raw' rest ∨ markupStep final raw s = .halt ts rest) :
    ∀ t ∈ ts, t.OneLine := by
  unfold markupStep at h
  split at h
  · next hm =>
    obtain h | h := h
    · cases h
      exact oneLine_markup hm
    · cases h
  · obtain h | h := h <;> cases h
  · split at h
    · obtain h | h := h
      · cases h
        simp [Token.OneLine]
      · cases h
    · obtain h | h := h
      · cases h
      · cases h
        simp

/-- One step over a text makes tags of one line only. -/
theorem oneLine_step {final : Bool} {s rest : Text} {ts : List Token} {raw raw' : Option Text}
    (h : step final raw s = .go ts raw' rest ∨ step final raw s = .halt ts rest) :
    ∀ t ∈ ts, t.OneLine := by
  unfold step at h
  split at h
  · obtain h | h := h <;> cases h
    simp
  · split at h
    · obtain h | h := h <;> cases h
      simp
    · exact oneLine_markupStep h
    · obtain h | h := h <;> cases h
      simp [Token.OneLine]
  · exact oneLine_markupStep h
  · split at h <;> obtain h | h := h <;> cases h <;> simp [Token.OneLine]
  · obtain h | h := h <;> cases h
    simp [Token.OneLine]

theorem oneLine_pass {final : Bool} {raw : Option Text} {s : Text} {p : Pass}
    (h : pass final raw s = .ok p) : ∀ t ∈ p.tokens, t.OneLine := by
  induction raw, s using pass.induct final generalizing p with
  | case1 raw s tokens raw' rest hstep ih =>
    rw [pass_eq, hstep] at h
    dsimp only at h
    cases hrest : pass final raw' rest with
    | error why =>
      rw [hrest] at h
      cases h
    | ok q =>
      rw [hrest] at h
      cases h
      intro t ht
      obtain ht | ht := List.mem_append.1 ht
      · exact oneLine_step (.inl hstep) t ht
      · exact ih hrest t ht
  | case2 raw s tokens rest hstep =>
    rw [pass_eq, hstep] at h
    cases h
    have hstop : step final raw s = .go tokens none rest ∨ step final raw s = .halt tokens rest := .inr hstep
    exact oneLine_step hstop
  | case3 raw s why hstep =>
    rw [pass_eq, hstep] at h
    cases h

/-- All tags among the tokens of a text are of one line. -/
theorem oneLine_tokens {s : Text} {ts : List Token} (h : tokens s = .ok ts) : ∀ t ∈ ts, t.OneLine := by
  rw [tokens] at h
  cases hfirst : pass false none s with
  | error why =>
    rw [hfirst] at h
    cases h
  | ok first =>
    cases hsecond : pass true first.raw first.rest with
    | error why =>
      simp only [hfirst, hsecond, bind, Except.bind] at h
      cases h
    | ok second =>
      simp only [hfirst, hsecond, bind, Except.bind, pure, Except.pure] at h
      cases h
      intro t ht
      rw [List.append_assoc] at ht
      obtain ht | ht := List.mem_append.1 ht
      · exact oneLine_pass hfirst t ht
      obtain ht | ht := List.mem_append.1 ht
      · exact oneLine_pass hsecond t ht
      · split at ht
        · rw [List.mem_singleton.1 ht]
          trivial
        · exact absurd ht List.not_mem_nil

/-! ### Forests -/

/-- No line feed in the name of an element or in its keys. -/
def Node.OneLine : Node → Prop
  | .element name attrs _ => '\n' ∉ name ∧ ∀ a ∈ attrs, '\n' ∉ a.1
  | _ => True

/-- Every element of a parsed forest is of one line. -/
theorem oneLine_of_parse {s : Text} {ns : List Node} (h : parse s = .ok ns) :
    ∀ n ∈ forestPreorder ns, n.OneLine := by
  obtain ⟨ts, htokens, rfl⟩ := tokens_of_parse h
  intro n hn
  have hfrom := fromTokens_of_mem_preorder hn
  cases n with
  | element name attrs children =>
    obtain ⟨pairs, htag, rfl⟩ := hfrom
    have htag : '\n' ∉ name ∧ ∀ a ∈ pairs, '\n' ∉ a.1 := by
      obtain htag | htag := htag
      · exact oneLine_tokens htokens _ htag
      · exact oneLine_tokens htokens _ htag
    refine ⟨htag.1, fun a ha => ?_⟩
    obtain ⟨b, hb, rfl⟩ := List.mem_map.1 ha
    obtain ⟨c, hc, hkey⟩ := mem_keys_ofPairs hb
    exact hkey ▸ htag.2 c hc
  | text v => trivial
  | comment body => trivial

end Componentry.Markup
