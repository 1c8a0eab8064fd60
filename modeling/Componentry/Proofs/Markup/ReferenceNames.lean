import Componentry.Markup.Reference
import Componentry.Proofs.Text.Ascii

/-!
What the table of references holds: its names are words of letters and digits, none stands for more than
two characters, and the names that need no semicolon are among them.
-/
namespace Componentry.Markup
open Componentry.Text

/-! ### Words by their bytes -/

/-- The bytes of a string; the table is checked by them since decoding it would take long. -/
def bytes (s : String) : List UInt8 := s.toByteArray.data.toList

theorem bytes_eq (s : String) : bytes s = encode s.toList := by
  have hs : s.toByteArray = s.toList.utf8Encode := by
    conv => lhs; rw [← String.ofList_toList (s := s)]
    rfl
  rw [bytes, hs, List.utf8Encode, List.toList_data_toByteArray, encode]

theorem encode_inj {s t : Text} (h : encode s = encode t) : s = t := by
  have hbytes : (String.ofList s).toByteArray = (String.ofList t).toByteArray :=
    congrArg List.toByteArray h
  have hstring : String.ofList s = String.ofList t := String.toByteArray_inj.1 hbytes
  rw [← String.toList_ofList (l := s), hstring, String.toList_ofList]

def isWordNumber (n : Nat) : Bool :=
  (Nat.ble 48 n && Nat.ble n 57) || (Nat.ble 65 n && Nat.ble n 90) || (Nat.ble 97 n && Nat.ble n 122)

def isWordChar (c : Char) : Bool := isWordNumber c.toNat

/-- A byte that a character begins with. -/
def isFirstByte (b : UInt8) : Bool := Nat.ble b.toNat 127 || Nat.ble 192 b.toNat

theorem utf8EncodeChar_eq_cons (c : Char) :
    ∃ b bs, String.utf8EncodeChar c = b :: bs ∧ (b.toNat = c.toNat ∧ c.toNat ≤ 127 ∨ 192 ≤ b.toNat) := by
  have hn : c.val.toNat = c.toNat := rfl
  unfold String.utf8EncodeChar
  dsimp only
  split
  · refine ⟨_, _, rfl, .inl ⟨?_, by omega⟩⟩
    rw [UInt8.toNat_ofNat']
    omega
  · split
    · refine ⟨_, _, rfl, .inr ?_⟩
      rw [UInt8.toNat_ofNat']
      omega
    · split
      · refine ⟨_, _, rfl, .inr ?_⟩
        rw [UInt8.toNat_ofNat']
        omega
      · refine ⟨_, _, rfl, .inr ?_⟩
        rw [UInt8.toNat_ofNat']
        omega

theorem length_le_countP_bytes (s : Text) : s.length ≤ (encode s).countP isFirstByte := by
  induction s with
  | nil => exact Nat.zero_le _
  | cons c s ih =>
    obtain ⟨b, bs, hc, hb⟩ := utf8EncodeChar_eq_cons c
    have hfirst : isFirstByte b = true := by
      simp only [isFirstByte, Bool.or_eq_true, Nat.ble_eq]
      omega
    rw [encode] at ih ⊢
    rw [List.flatMap_cons, List.countP_append, hc, List.countP_cons_of_pos hfirst, List.length_cons]
    omega

theorem isWordChar_of_bytes {s : Text} (h : (encode s).all (isWordNumber ·.toNat)) :
    ∀ c ∈ s, isWordChar c = true := by
  intro c hmem
  obtain ⟨b, bs, hc, hb⟩ := utf8EncodeChar_eq_cons c
  have hword : isWordNumber b.toNat = true :=
    List.all_eq_true.1 h b (List.mem_flatMap.2 ⟨c, hmem, by rw [hc]; exact List.mem_cons_self⟩)
  obtain ⟨heq, -⟩ | hlarge := hb
  · rwa [isWordChar, ← heq]
  · simp only [isWordNumber, Bool.or_eq_true, Bool.and_eq_true, Nat.ble_eq] at hword
    omega

/-! ### The table -/

/-- An entry of the table, its initial left out. -/
def isEntry (e : String × String) : Bool :=
  (bytes e.1).all (isWordNumber ·.toNat) && !(bytes e.1).isEmpty && Nat.ble (bytes e.1).length 31 &&
    Nat.ble ((bytes e.2).countP isFirstByte) 2

theorem all_isEntry (c : Char) : (referencesFrom c).all isEntry = true := by
  unfold referencesFrom
  split
  case h_53 => rfl
  all_goals decide

theorem isWordChar_of_referencesFrom {c : Char} (h : referencesFrom c ≠ []) : isWordChar c = true := by
  unfold referencesFrom at h
  split at h
  case h_53 => exact absurd rfl h
  all_goals rfl

theorem named?_spec {name v : Text} (h : named? name = some v) :
    (∀ c ∈ name, isWordChar c = true) ∧ 2 ≤ name.length ∧ name.length ≤ 32 ∧ v.length ≤ 2 := by
  cases name with
  | nil => cases h
  | cons c s =>
    rw [named?, Option.map_eq_some_iff] at h
    obtain ⟨e, he, rfl⟩ := h
    have hmem := List.mem_of_find?_eq_some he
    have hname : e.1.toList = s := by simpa using List.find?_some he
    have hentry := List.all_eq_true.1 (all_isEntry c) e hmem
    simp only [isEntry, bytes_eq, hname, Bool.and_eq_true, Nat.ble_eq, Bool.not_eq_true',
      List.isEmpty_eq_false_iff] at hentry
    obtain ⟨⟨⟨hword, hne⟩, hlong⟩, hvalue⟩ := hentry
    have hs : s ≠ [] := fun hnil => hne (by rw [hnil]; rfl)
    have hpos := List.length_pos_iff.2 hs
    have hlength := Nat.le_trans (length_le_countP_bytes s) List.countP_le_length
    refine ⟨List.forall_mem_cons.2 ⟨?_, isWordChar_of_bytes hword⟩, ?_, ?_, ?_⟩
    · exact isWordChar_of_referencesFrom (List.ne_nil_of_mem hmem)
    · rw [List.length_cons]
      omega
    · rw [List.length_cons]
      omega
    · exact Nat.le_trans (length_le_countP_bytes _) hvalue

/-- The initial and the rest of a name are looked for in the table. -/
def isTableName (n : String) : Bool :=
  match bytes n with
  | [] => false
  | b :: bs => Nat.ble b.toNat 127 && (referencesFrom (Char.ofNat b.toNat)).any fun e => bs == bytes e.1

theorem all_isTableName : unterminatedNames.all isTableName = true := by decide +kernel

theorem named?_of_isUnterminated {name : Text} (h : isUnterminated name = true) :
    ∃ v, named? name = some v := by
  rw [isUnterminated, List.any_eq_true] at h
  obtain ⟨n, hn, hname⟩ := h
  have hfound := List.all_eq_true.1 all_isTableName n hn
  rw [isTableName, bytes_eq, of_decide_eq_true hname] at hfound
  split at hfound
  · cases hfound
  · next b bs hb =>
    rw [Bool.and_eq_true, Nat.ble_eq, List.any_eq_true] at hfound
    obtain ⟨hsmall, e, he, hrest⟩ := hfound
    rw [beq_iff_eq, bytes_eq] at hrest
    have hvalid : b.toNat.isValidChar := .inl (by omega)
    have hchar : (Char.ofNat b.toNat).toNat = b.toNat := by
      rw [Char.ofNat, dif_pos hvalid]
      rfl
    have hbyte : String.utf8EncodeChar (Char.ofNat b.toNat) = [b] := by
      rw [utf8EncodeChar_of_ascii (by omega), hchar, UInt8.ofNat_toNat]
    have heq : name = Char.ofNat b.toNat :: e.1.toList := by
      apply encode_inj
      rw [hb, hrest, ← List.singleton_append, ← hbyte]
      rfl
    have hsome : ((referencesFrom (Char.ofNat b.toNat)).find? fun e' => e'.1.toList = e.1.toList).isSome := by
      rw [List.find?_isSome]
      exact ⟨e, he, decide_eq_true rfl⟩
    rw [heq, named?]
    obtain ⟨e', he'⟩ := Option.isSome_iff_exists.1 hsome
    exact ⟨e'.2.toList, by rw [he']; rfl⟩

end Componentry.Markup
