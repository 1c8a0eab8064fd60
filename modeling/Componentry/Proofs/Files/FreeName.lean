import Mathlib.Data.List.Nodup
import Mathlib.Data.Nat.Digits.Defs
import Mathlib.Data.Nat.Find
import Componentry.Proofs.Files.Writing
import Componentry.Proofs.Text.Ascii

/-!
An unfinished file always gets a name: there are more names to try than entries on the disk, so one is
free unless the way to the directory or the length of the name fails first.
-/
namespace Componentry.Files
open Componentry.Text

namespace Disk
variable {d : Disk} {dir : Path} {name : Text} {content : Bytes}

theorem serial_inj {m n : Nat} (h : serial m = serial n) : m = n := by
  have hvalue : ∀ k, Nat.ofDigitChars 10 (serial k) 0 = k := by
    intro k
    rw [serial, ofNat]
    rw [Nat.toString_eq_ofList_toDigits, String.toList_ofList, Nat.ofDigitChars_append,
      Nat.ofDigitChars_replicate_zero, Nat.mul_zero, Nat.ofDigitChars_toDigits (by decide) (by decide)]
  rw [← hvalue m, h, hvalue n]

theorem temporaryName_inj {m n : Nat} (h : temporaryName name m = temporaryName name n) : m = n := by
  rw [temporaryName_eq, temporaryName_eq, List.cons_inj_right, List.append_cancel_left_eq,
    List.cons_inj_right] at h
  exact serial_inj h

/-- Unfinished files of different names have different names. -/
theorem name_of_temporaryName_eq {name' : Text} {m n : Nat}
    (h : temporaryName name m = temporaryName name' n) : name = name' := by
  have hdot : ∀ k, '.' ∉ serial k := by
    intro k hmem
    exact absurd (isDigit_of_mem_serial hmem) (by decide)
  have hlast : ∀ (a b c s t : Text), '.' ∉ s → b = a ++ c → '.' :: s = c ++ '.' :: t → a = b := by
    intro a b c s t hs hb hst
    cases c with
    | nil => rw [hb, List.append_nil]
    | cons x c =>
      rw [List.cons_append, List.cons.injEq] at hst
      exact absurd (hst.2 ▸ List.mem_append_right c List.mem_cons_self) hs
  rw [temporaryName_eq, temporaryName_eq, List.cons_inj_right] at h
  obtain ⟨c, hb, hst⟩ | ⟨c, hb, hst⟩ := List.append_eq_append_iff.1 h
  · exact hlast _ _ c _ _ (hdot m) hb hst
  · exact (hlast _ _ c _ _ (hdot n) hb hst).symm

/-- Names that are taken, by entries or by other files that are known, are not more than those. -/
theorem le_of_taken (there : Place) (name : Text) {n : Nat} {others : List Place}
    (htaken : ∀ m < n, d.get? (there ++ [temporaryName name m]) ≠ none ∨
      there ++ [temporaryName name m] ∈ others) : n ≤ d.entries.length + others.length := by
  let places := (List.range n).map fun m => there ++ [temporaryName name m]
  have hnodup : places.Nodup := by
    refine List.nodup_range.map fun m m' hplace => ?_
    exact temporaryName_inj (List.append_singleton_inj.1 hplace).2
  have hsubset : places ⊆ d.entries.map Prod.fst ++ others := by
    intro place hplace
    obtain ⟨m, hm, rfl⟩ := List.mem_map.1 hplace
    obtain hget | hother := htaken m (List.mem_range.1 hm)
    · obtain ⟨e, he⟩ := Option.ne_none_iff_exists'.1 hget
      rw [get?] at he
      rw [if_neg (by simp)] at he
      obtain ⟨before, after, hentries, -⟩ := List.lookup_eq_some_iff.1 he
      simp [hentries]
    · exact List.mem_append_right _ hother
  have hlength := hnodup.length_le_of_subset hsubset
  simpa [places] using hlength

/-- Not all of the names are taken. -/
theorem exists_temporaryName_free (d : Disk) (there : Place) (name : Text) :
    ∃ n ≤ d.entries.length, d.get? (there ++ [temporaryName name n]) = none := by
  by_contra hnone
  have hle : d.entries.length + 1 ≤ d.entries.length + ([] : List Place).length := by
    refine le_of_taken there name fun m hm => .inl fun hfree => ?_
    exact hnone ⟨m, Nat.lt_succ_iff.1 hm, hfree⟩
  simp at hle

/-- How many names for unfinished files are equally long. -/
def mostShortNames : Nat := 10 ^ 8

theorem length_serial {n : Nat} (h : n < mostShortNames) : (serial n).length = 8 := by
  have hdigits : (ofNat n).length ≤ 8 := by
    rw [ofNat]
    rw [Nat.toString_eq_ofList_toDigits, String.toList_ofList]
    exact Nat.toDigits_length 10 n 8 (by decide) h
  rw [serial, List.length_append, List.length_replicate]
  omega

theorem length_encode_temporaryName {n : Nat} (h : n < mostShortNames) :
    (encode (temporaryName name n)).length = (encode name).length + 10 := by
  have hserial : (encode (serial n)).length = 8 := by
    rw [length_encode_of_ascii fun c hc => ?_, length_serial h]
    have hdigit := isDigit_of_mem_serial hc
    simp only [Char.isDigit, Bool.and_eq_true, decide_eq_true_eq] at hdigit
    exact Nat.lt_of_le_of_lt hdigit.2 (by decide)
  have hdot : (encode ['.']).length = 1 := by decide
  have hsplit : temporaryName name n = ['.'] ++ name ++ ['.'] ++ serial n := by simp [temporaryName_eq]
  rw [hsplit, encode_append, encode_append, encode_append]
  simp only [List.length_append, hdot, hserial]
  omega

/-- What a try comes to in the directory that the path leads to. -/
theorem tryTemporary_eq {there : Place} (hway : d.descendTo (d.absolute dir) = .ok there) (n : Nat) :
    d.tryTemporary dir name content n =
      if (encode (temporaryName name n)).length > longestName then
        some (failed ((d.absolute dir).child (temporaryName name n)) .nameTooLong)
      else
        match d.get? (there ++ [temporaryName name n]) with
        | some _ => none
        | none => some (.ok (d.put (there ++ [temporaryName name n]) (.file content),
            there ++ [temporaryName name n], (d.absolute dir).child (temporaryName name n))) := by
  unfold tryTemporary
  dsimp only
  rw [locate_child (temporaryName_ne_dots name n), hway]
  simp only [Except.bind, lookAt]
  by_cases hlong : (encode (temporaryName name n)).length > longestName
  · rw [if_pos hlong, if_pos hlong]
    rfl
  · rw [if_neg hlong, if_neg hlong]
    cases d.get? (there ++ [temporaryName name n]) <;> rfl

/-- A number with which the tries end: the name is too long to be looked up, or it is free. -/
def EndsTries (d : Disk) (there : Place) (name : Text) (n : Nat) : Prop :=
  (encode (temporaryName name n)).length > longestName ∨ d.get? (there ++ [temporaryName name n]) = none

theorem tryTemporary_eq_none_iff {there : Place} (hway : d.descendTo (d.absolute dir) = .ok there) {n : Nat} :
    d.tryTemporary dir name content n = none ↔ ¬d.EndsTries there name n := by
  rw [tryTemporary_eq hway, EndsTries, not_or]
  by_cases hlong : (encode (temporaryName name n)).length > longestName
  · simp [hlong]
  · cases hget : d.get? (there ++ [temporaryName name n]) <;> simp [hlong]

theorem tryTemporary_lost {f : Failure} (hway : d.descendTo (d.absolute dir) = .error f) (n : Nat) :
    d.tryTemporary dir name content n =
      some (failed ((d.absolute dir).child (temporaryName name n)) f) := by
  unfold tryTemporary
  dsimp only
  rw [locate_child (temporaryName_ne_dots name n), hway]
  rfl

theorem findSome?_range {α : Type} {f : Nat → Option α} {n : Nat} (h : ∃ k ≤ n, f k ≠ none) :
    ∃ k r, f k = some r ∧ (∀ m < k, f m = none) ∧ (List.range (n + 1)).findSome? f = some r := by
  obtain ⟨k₀, hk₀, hsome⟩ := h
  have hexists : ∃ k, f k ≠ none := ⟨k₀, hsome⟩
  let k := Nat.find hexists
  have hk : f k ≠ none := Nat.find_spec hexists
  have hbefore : ∀ m < k, f m = none := fun m hm => not_not.1 (Nat.find_min hexists hm)
  have hle : k ≤ k₀ := Nat.find_min' hexists hsome
  obtain ⟨r, hr⟩ := Option.ne_none_iff_exists'.1 hk
  refine ⟨k, r, hr, hbefore, ?_⟩
  have hsplit : List.range (n + 1) = List.range k ++ k :: (List.range (n - k)).map (k + 1 + ·) := by
    have hn : n + 1 = k + 1 + (n - k) := by omega
    rw [hn, List.range_add, List.range_succ, List.append_assoc, List.singleton_append]
  rw [hsplit, List.findSome?_append]
  have hnone : (List.range k).findSome? f = none := by
    rw [List.findSome?_eq_none_iff]
    exact fun m hm => hbefore m (List.mem_range.1 hm)
  rw [hnone, Option.none_or, List.findSome?_cons_of_isSome]
  · exact hr
  · simp [hr]

/-- A new unfinished file is what the first try gives that does not meet a taken name. -/
theorem createTemporary_first (d : Disk) (dir : Path) (name : Text) (content : Bytes) :
    ∃ n r, d.tryTemporary dir name content n = some r ∧
      (∀ m < n, d.tryTemporary dir name content m = none) ∧ d.createTemporary dir name content = r := by
  have htry : ∃ n ≤ d.entries.length, d.tryTemporary dir name content n ≠ none := by
    cases hway : d.descendTo (d.absolute dir) with
    | error f => exact ⟨0, Nat.zero_le _, by simp [tryTemporary_lost hway]⟩
    | ok there =>
      obtain ⟨n, hn, hfree⟩ := exists_temporaryName_free d there name
      refine ⟨n, hn, ?_⟩
      rw [tryTemporary_eq hway, hfree]
      split <;> simp
  obtain ⟨n, r, hr, hbefore, hfirst⟩ := findSome?_range htry
  refine ⟨n, r, hr, hbefore, ?_⟩
  rw [createTemporary_eq, hfirst]
  rfl

/-- Without the directory the first try fails. -/
theorem createTemporary_lost {f : Failure} (hway : d.descendTo (d.absolute dir) = .error f) (name : Text)
    (content : Bytes) :
    d.createTemporary dir name content = failed ((d.absolute dir).child (temporaryName name 0)) f := by
  obtain ⟨n, r, hr, hbefore, hcreate⟩ := d.createTemporary_first dir name content
  rw [tryTemporary_lost hway] at hr
  cases n with
  | zero => rw [hcreate, Option.some.inj hr]
  | succ n =>
    have hnone := hbefore 0 (Nat.succ_pos n)
    rw [tryTemporary_lost hway] at hnone
    cases hnone

/-- In a directory that is there, an unfinished file gets the first name that is free, unless a name before
is too long. -/
theorem createTemporary_found {there : Place} (hway : d.descendTo (d.absolute dir) = .ok there) (name : Text)
    (content : Bytes) :
    ∃ n, d.EndsTries there name n ∧ (∀ m < n, ¬d.EndsTries there name m) ∧
      d.createTemporary dir name content =
        if (encode (temporaryName name n)).length > longestName then
          failed ((d.absolute dir).child (temporaryName name n)) .nameTooLong
        else
          .ok (d.put (there ++ [temporaryName name n]) (.file content),
            there ++ [temporaryName name n], (d.absolute dir).child (temporaryName name n)) := by
  obtain ⟨n, r, hr, hbefore, hcreate⟩ := d.createTemporary_first dir name content
  have hends : d.EndsTries there name n := by
    by_contra hnot
    rw [(tryTemporary_eq_none_iff hway).2 hnot] at hr
    cases hr
  refine ⟨n, hends, fun m hm => (tryTemporary_eq_none_iff hway).1 (hbefore m hm), ?_⟩
  rw [hcreate]
  rw [tryTemporary_eq hway] at hr
  by_cases hlong : (encode (temporaryName name n)).length > longestName
  · rw [if_pos hlong] at hr
    rw [if_pos hlong, Option.some.inj hr]
  · rw [if_neg hlong, hends.resolve_left hlong] at hr
    rw [if_neg hlong, Option.some.inj hr]

end Disk
end Componentry.Files
