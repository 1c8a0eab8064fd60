import Componentry.Component.Name
import Componentry.Proofs.Text.Digits

/-!
The ASCII letters and digits that names are made of: their code points, and their forms in the other case.
-/
namespace Componentry.Component
open Componentry.Text
variable {c : Char}

theorem isLower_iff : isLower c = true ↔ 97 ≤ c.toNat ∧ c.toNat ≤ 122 := by
  simp only [isLower, Bool.and_eq_true, decide_eq_true_eq, Char.le_def, UInt32.le_iff_toNat_le]
  exact Iff.rfl

theorem ascii_of_isLower (h : isLower c = true) : c.toNat < 128 := by
  have := isLower_iff.1 h
  omega

/-- Small letters, digits and the underscore. -/
def isNameChar (c : Char) : Bool := isLower c || isDigit c || c = '_'

theorem ascii_of_isNameChar (h : isNameChar c = true) : c.toNat < 128 := by
  simp only [isNameChar, Bool.or_eq_true, decide_eq_true_eq, isLower_iff, isDigit_iff] at h
  obtain (h | h) | rfl := h
  · omega
  · omega
  · decide

theorem toLower_of_isNameChar (h : isNameChar c = true) : c.toLower = c :=
  of_forall_ascii (p := fun c => isNameChar c = true → c.toLower = c) (by decide) (ascii_of_isNameChar h) h

theorem isBlank_of_isNameChar (h : isNameChar c = true) : isBlank c = false :=
  of_forall_ascii (p := fun c => isNameChar c = true → isBlank c = false) (by decide) (ascii_of_isNameChar h) h

theorem isSlugChar_of_isNameChar (h : isNameChar c = true) : isSlugChar c = true := by
  rw [isSlugChar, ← isNameChar, h, Bool.true_or]

/-! ### Capitals -/

theorem isUpper_toUpper (h : isLower c = true) : isUpper c.toUpper = true :=
  of_forall_ascii (p := fun c => isLower c = true → isUpper c.toUpper = true) (by decide) (ascii_of_isLower h) h

theorem ascii_toUpper (h : isLower c = true) : c.toUpper.toNat < 128 :=
  of_forall_ascii (p := fun c => isLower c = true → c.toUpper.toNat < 128) (by decide) (ascii_of_isLower h) h

theorem toLower_toUpper (h : isLower c = true) : c.toUpper.toLower = c :=
  of_forall_ascii (p := fun c => isLower c = true → c.toUpper.toLower = c) (by decide) (ascii_of_isLower h) h

end Componentry.Component
