import Componentry.Markup.Node
import Mathlib.Data.List.Nodup

/-!
The keys of attributes: those that were put, each once, in the order of their first places.
-/
namespace Componentry.Markup
open Componentry.Text
variable {attrs done : Attrs} {pairs : List (Text × Text)} {a : Text × Text} {key : Text}

theorem keys_put (attrs : Attrs) (key value : Text) :
    (attrs.put key value).map (·.1) =
      if key ∈ attrs.map (·.1) then attrs.map (·.1) else attrs.map (·.1) ++ [key] := by
  have hhas : attrs.any (·.1 = key) = true ↔ key ∈ attrs.map (·.1) := by simp
  rw [Attrs.put]
  by_cases h : key ∈ attrs.map (·.1)
  · rw [if_pos (hhas.2 h), if_pos h, List.map_map]
    exact List.map_congr_left fun a _ => by grind
  · rw [if_neg (mt hhas.1 h), if_neg h, List.map_append, List.map_singleton]

theorem nodup_keys_put (h : (attrs.map (·.1)).Nodup) (key value : Text) :
    ((attrs.put key value).map (·.1)).Nodup := by
  rw [keys_put]
  split
  · exact h
  · next hnew =>
    rw [List.perm_append_comm.nodup_iff]
    exact List.nodup_cons.2 ⟨hnew, h⟩

theorem nodup_keys_ofPairs (pairs : List (Text × Text)) : ((Attrs.ofPairs pairs).map (·.1)).Nodup := by
  have hfold : ∀ attrs : Attrs, (attrs.map (·.1)).Nodup →
      ((pairs.foldl (fun attrs a => attrs.put a.1 a.2) attrs).map (·.1)).Nodup := by
    induction pairs with
    | nil => exact fun attrs h => h
    | cons a pairs ih => exact fun attrs h => ih _ (nodup_keys_put h a.1 a.2)
  exact hfold [] List.nodup_nil

theorem mem_keys_put {value : Text} (h : a ∈ attrs.put key value) : a.1 = key ∨ ∃ b ∈ attrs, b.1 = a.1 := by
  have hkey : a.1 ∈ (attrs.put key value).map (·.1) := List.mem_map_of_mem h
  rw [keys_put] at hkey
  split at hkey
  · exact .inr (List.mem_map.1 hkey)
  · obtain hold | hnew := List.mem_append.1 hkey
    · exact .inr (List.mem_map.1 hold)
    · exact .inl (List.mem_singleton.1 hnew)

/-- Attributes have no keys but those of the pairs that they are made of. -/
theorem mem_keys_ofPairs (h : a ∈ Attrs.ofPairs pairs) : ∃ b ∈ pairs, b.1 = a.1 := by
  have hfold : ∀ attrs : Attrs, a ∈ pairs.foldl (fun attrs b => attrs.put b.1 b.2) attrs →
      (∃ b ∈ attrs, b.1 = a.1) ∨ ∃ b ∈ pairs, b.1 = a.1 := by
    clear h
    induction pairs with
    | nil => exact fun attrs h => .inl ⟨a, h, rfl⟩
    | cons p pairs ih =>
      intro attrs h
      obtain ⟨b, hb, hkey⟩ | ⟨b, hb, hkey⟩ := ih _ h
      · obtain hp | ⟨c, hc, hcb⟩ := mem_keys_put hb
        · exact .inr ⟨p, List.mem_cons_self, hp.symm.trans hkey⟩
        · exact .inl ⟨c, hc, hcb.trans hkey⟩
      · exact .inr ⟨b, List.mem_cons_of_mem p hb, hkey⟩
  obtain ⟨b, hb, -⟩ | hpairs := hfold [] h
  · exact absurd hb List.not_mem_nil
  · exact hpairs

theorem put_of_new (h : a.1 ∉ attrs.map (·.1)) : attrs.put a.1 a.2 = attrs ++ [a] := by
  rw [Attrs.put, if_neg]
  rw [List.any_eq_true]
  intro hpair
  obtain ⟨b, hb, heq⟩ := hpair
  exact h (of_decide_eq_true heq ▸ List.mem_map_of_mem hb)

theorem foldl_put (h : ((done ++ attrs).map (·.1)).Nodup) :
    attrs.foldl (fun as a => Attrs.put as a.1 a.2) done = done ++ attrs := by
  induction attrs generalizing done with
  | nil => simp
  | cons a attrs ih =>
    have hnew : a.1 ∉ done.map (·.1) := by
      rw [List.map_append, List.map_cons, List.nodup_append] at h
      exact fun hm => h.2.2 _ hm _ (by simp) rfl
    rw [List.foldl_cons, put_of_new hnew, ih (by simpa using h)]
    simp

theorem ofPairs_of_nodup (h : (attrs.map (·.1)).Nodup) : Attrs.ofPairs attrs = attrs :=
  @foldl_put attrs [] h

end Componentry.Markup
