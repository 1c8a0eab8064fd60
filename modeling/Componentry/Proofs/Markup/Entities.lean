import Componentry.Proofs.Markup.Escape

/-!
Escaped text holds ampersands only where entities begin, and reading the entities gives the text back.
-/
namespace Componentry.Markup
open Componentry.Text

/-! ### Reading entities -/

/-- Leaves out the next `skip` characters, which belong to an entity already read. -/
def readEntitiesFrom : Nat → Text → Text
  | _, [] => []
  | skip + 1, _ :: s => readEntitiesFrom skip s
  | 0, c :: s =>
    match entities.find? fun e => startsWith e.2 (c :: s) with
    | some e => e.1 :: readEntitiesFrom (e.2.length - 1) s
    | none => c :: readEntitiesFrom 0 s

/-- Each of the four entities, found from left to right, becomes its character. -/
def readEntities (s : Text) : Text := readEntitiesFrom 0 s

theorem readEntitiesFrom_append (skip s : Text) :
    readEntitiesFrom skip.length (skip ++ s) = readEntitiesFrom 0 s := by
  induction skip with
  | nil => rfl
  | cons c skip ih => exact ih

/-- An entity is told from what follows it. -/
theorem find?_entity {e : Char × Text} (he : e ∈ entities) (s : Text) :
    (entities.find? fun e' => startsWith e'.2 (e.2 ++ s)) = some e := by
  simp only [entities, List.mem_cons, List.not_mem_nil, or_false] at he
  obtain rfl | rfl | rfl | rfl := he
  all_goals rfl

/-- What begins with no ampersand begins with no entity. -/
theorem find?_entity_eq_none {c : Char} (hc : c ≠ '&') (s : Text) :
    (entities.find? fun e => startsWith e.2 (c :: s)) = none := by
  simp [entities, startsWith, after?, hc.symm]

theorem exists_entity_eq_cons {e : Char × Text} (he : e ∈ entities) :
    ∃ w, e.2 = '&' :: w ∧ '&' ∉ w := by
  simp only [entities, List.mem_cons, List.not_mem_nil, or_false] at he
  obtain rfl | rfl | rfl | rfl := he
  · exact ⟨"amp;", rfl, by decide⟩
  · exact ⟨"lt;", rfl, by decide⟩
  · exact ⟨"gt;", rfl, by decide⟩
  · exact ⟨"quot;", rfl, by decide⟩

theorem readEntitiesFrom_entityOf (c : Char) (s : Text) :
    readEntitiesFrom 0 (entityOf c ++ s) = c :: readEntitiesFrom 0 s := by
  obtain he | ⟨hc, hself⟩ := entityOf_cases c
  · obtain ⟨w, hw, -⟩ := exists_entity_eq_cons he
    have hfind := find?_entity he s
    dsimp only at hw hfind
    rw [hw, List.cons_append] at hfind ⊢
    rw [readEntitiesFrom, hfind]
    simp [readEntitiesFrom_append]
  · rw [hself, List.singleton_append, readEntitiesFrom, find?_entity_eq_none hc]

theorem readEntities_escapeText (t : Text) : readEntities (escapeText t) = t := by
  rw [escapeText_eq_flatMap, readEntities]
  induction t with
  | nil => rfl
  | cons c t ih => rw [List.flatMap_cons, readEntitiesFrom_entityOf, ih]

/-! ### Ampersands -/

theorem exists_entity_prefix (t : Text) {r : Text} (h : '&' :: r <:+ escapeText t) :
    ∃ e ∈ entities, e.2 <+: '&' :: r := by
  rw [escapeText_eq_flatMap] at h
  induction t with
  | nil => exact absurd h (by simp)
  | cons c t ih =>
    rw [List.flatMap_cons] at h
    obtain he | ⟨hc, hself⟩ := entityOf_cases c
    · obtain ⟨w, hw, hno⟩ := exists_entity_eq_cons he
      dsimp only at hw
      rw [hw, List.cons_append, List.suffix_cons_iff, cons_suffix_append_iff hno] at h
      obtain heq | hrest := h
      · exact ⟨_, he, by rw [heq, hw, ← List.cons_append]; exact List.prefix_append _ _⟩
      · exact ih hrest
    · rw [hself, cons_suffix_append_iff (by simpa using hc.symm)] at h
      exact ih h

/-- Escaped text is the same whether or not it was found to need escaping: each of the four characters is
written as its entity, one by one, and no other is changed. It has no bracket and no quote, an ampersand
only where an entity begins, and reads back. -/
theorem escapeText_exact (t : Text) :
    escapeText t = escape t ∧ escapeText t = t.flatMap entityOf ∧
    (∀ s, escapeText (t ++ s) = escapeText t ++ escapeText s) ∧
    (∀ c ∈ ['<', '>', '"'], c ∉ escapeText t) ∧
    (∀ r, '&' :: r <:+ escapeText t → ∃ e ∈ entities, e.2 <+: '&' :: r) ∧
    readEntities (escapeText t) = t := by
  refine ⟨?_, escapeText_eq_flatMap t, fun s => ?_, fun c hc => mark_not_mem_escapeText hc t,
    fun r => exists_entity_prefix t, readEntities_escapeText t⟩
  · rw [escapeText_eq_flatMap, escape_eq_flatMap]
  · simp only [escapeText_eq_flatMap, List.flatMap_append]

-- the entity in the text is not taken for one that was written
example : escapeText "a &lt; \"b\"" = "a &amp;lt; &quot;b&quot;" := by decide

end Componentry.Markup
