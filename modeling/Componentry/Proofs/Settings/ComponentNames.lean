import Componentry.Proofs.Text.LowerCase
import Componentry.Proofs.Text.Trim
import Componentry.Settings.Value

/-!
The names of a component filter have one form each, however they were written.
-/
namespace Componentry.Settings
open Componentry.Text

/-- A name in the form in which names are compared. -/
structure IsName (s : Text) : Prop where
  ne_nil : s ≠ []
  starts : ∀ c, s.head? = some c → isBlank c = false
  ends : ∀ c, s.getLast? = some c → isBlank c = false
  lowered : lower s = s

theorem isName_lower_trim {s : Text} (h : lower (trim s) ≠ []) : IsName (lower (trim s)) where
  ne_nil := h
  starts _ := isBlank_head_lowerFrom fun _ => head?_trimWhere
  ends _ := isBlank_getLast_lowerFrom fun _ => getLast?_trimWhere
  lowered := lower_lower _

theorem IsName.lower_trim {s : Text} (h : IsName s) : lower (trim s) = s := by
  rw [trim, trimWhere_eq_self_of_ends h.starts h.ends, h.lowered]

namespace Value

/-- A list of texts, as a filter is written that has its names apart. -/
def texts (ts : List Text) : Value := .list (ts.map .text)

section Names
variable {v : Value} {name : Text} {ts : List Text}

theorem isName_of_mem_asNames (h : name ∈ v.asNames) : IsName name := by
  obtain ⟨hmem, hne⟩ := List.mem_filter.1 h
  obtain ⟨s, -, rfl⟩ := List.mem_map.1 hmem
  exact isName_lower_trim (by simpa using hne)

theorem asTexts_texts (ts : List Text) : (texts ts).asTexts = ts := by
  have hitem : itemText ∘ Value.text = some := rfl
  rw [texts, asTexts, List.filterMap_map, hitem, List.filterMap_some]

theorem asNames_texts (ts : List Text) :
    (texts ts).asNames = (ts.map fun s => lower (trim s)).filter (· ≠ []) := by
  have hpieces : (texts ts).asNames = ((texts ts).asTexts.map fun s => lower (trim s)).filter (· ≠ []) := rfl
  rw [hpieces, asTexts_texts]

/-- Exactly the lists of names are left as they are. -/
theorem asNames_texts_eq_self_iff : (texts ts).asNames = ts ↔ ∀ name ∈ ts, IsName name := by
  constructor
  · intro h name hname
    exact isName_of_mem_asNames (v := texts ts) (by rwa [h])
  · intro h
    have hself : (ts.map fun s => lower (trim s)) = ts.map id :=
      List.map_congr_left fun name hname => (h name hname).lower_trim
    rw [asNames_texts, hself, List.map_id, List.filter_eq_self]
    exact fun name hname => decide_eq_true (h name hname).ne_nil

theorem holdsLong_texts (ts : List Text) : (texts ts).holdsLong = false := by
  rw [texts, holdsLong, List.any_map, List.any_eq_false]
  exact fun _ _ => Bool.false_ne_true

end Names

/-- Of any value the names come out in the form in which they are compared, and no list of such
names is changed by reading it again; a text is read as the list of its pieces is. -/
theorem asNames_normal (v : Value) :
    (∀ name ∈ v.asNames, IsName name) ∧
      (texts v.asNames).asNames = v.asNames ∧
      (∀ ts, (texts ts).holdsLong = false ∧ ((texts ts).asNames = ts ↔ ∀ name ∈ ts, IsName name)) ∧
      ∀ s, (Value.text s).asNames = (texts (splitOn ',' s)).asNames :=
  ⟨fun _ => isName_of_mem_asNames, asNames_texts_eq_self_iff.2 fun _ => isName_of_mem_asNames,
    fun ts => ⟨holdsLong_texts ts, asNames_texts_eq_self_iff⟩, fun s => (asNames_texts (splitOn ',' s)).symm⟩

end Value

end Componentry.Settings
