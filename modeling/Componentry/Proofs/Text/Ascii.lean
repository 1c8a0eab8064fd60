import Componentry.Text.Blank
import Componentry.Text.Utf8

/-!
Texts that a file holds as they are.
-/
namespace Componentry.Text

/-- What can be looked up for each ASCII character holds of every one. -/
theorem of_forall_ascii {p : Char → Prop} (h : ∀ n < 128, p (Char.ofNat n)) {c : Char}
    (hc : c.toNat < 128) : p c := by
  have hn := h c.toNat hc
  rwa [Char.ofNat_toNat] at hn

theorem encode_append (s t : Text) : encode (s ++ t) = encode s ++ encode t := List.flatMap_append

theorem utf8EncodeChar_of_ascii {c : Char} (h : c.toNat < 128) :
    String.utf8EncodeChar c = [UInt8.ofNat c.toNat] := by
  unfold String.utf8EncodeChar
  exact if_pos (Nat.le_of_lt_succ h)

theorem length_encode_of_ascii {s : Text} (h : ∀ c ∈ s, c.toNat < 128) :
    (encode s).length = s.length := by
  induction s with
  | nil => rfl
  | cons c s ih =>
    have hrest := ih fun c' hc' => h c' (List.mem_cons_of_mem c hc')
    rw [encode] at hrest ⊢
    rw [List.flatMap_cons, utf8EncodeChar_of_ascii (h c List.mem_cons_self), List.length_append, hrest,
      List.length_singleton, List.length_cons, Nat.add_comm]

end Componentry.Text
