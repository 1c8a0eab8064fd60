import Componentry.Markup.Tree
import Componentry.Component.Name

/-!
Plain forests, whose HEEx reads back, and forests up to the blanks around their texts.
-/
namespace Componentry.Markup
open Componentry.Text Componentry.Component

/-! ### Names, keys, attributes -/

def isPlainName : Text → Bool
  | [] => false
  | c :: s => isLower c && s.all fun d => isLower d || isDigit d

def isPlainKey : Text → Bool
  | [] => false
  | c :: s => isLower c && s.all fun d => isLower d || isDigit d || d = '-'

/-- No reference in the value, and no runtime marker in a class. -/
def isPlainAttr (a : Text × Text) : Bool :=
  isPlainKey a.1 && '&' ∉ a.2 && (a.1 ≠ ("class" : Text) || !contains runtimeMarker a.2)

def isPlainAttrs (attrs : Attrs) : Bool := attrs.all isPlainAttr && decide (attrs.map (·.1)).Nodup

/-! ### Nodes -/

mutual
def Node.isPlain : Node → Bool
  | .text v => !allBlank v
  | .comment body => trim body = body && !contains "--" body
  | .element name attrs children =>
    isPlainName name && !isRawName name && (name ∉ emptyNames || children.isEmpty) &&
      isPlainAttrs attrs && isPlainForest children
/-- Plain nodes, of which no two neighbours are texts. -/
def isPlainForest : List Node → Bool
  | [] => true
  | n :: ns => n.isPlain && !(n.isText && (ns.head?.map Node.isText).getD false) && isPlainForest ns
end

mutual
/-- The node with the blanks around each of its texts taken away. -/
def Node.trimTexts : Node → Node
  | .text v => .text (trim v)
  | .comment body => .comment body
  | .element name attrs children => .element name attrs (trimForest children)
def trimForest : List Node → List Node
  | [] => []
  | n :: ns => n.trimTexts :: trimForest ns
end

theorem trimForest_eq_map (ns : List Node) : trimForest ns = ns.map Node.trimTexts := by
  induction ns with
  | nil => rfl
  | cons n ns ih => rw [trimForest, ih, List.map_cons]

/-! ### What plain names are made of -/

theorem isPlainName_head {name : Text} (h : isPlainName name) : ∃ c s, name = c :: s ∧ isLower c := by
  cases name with
  | nil => simp [isPlainName] at h
  | cons c s => exact ⟨c, s, rfl, by simp [isPlainName] at h; exact h.1⟩

theorem isPlainKey_head {key : Text} (h : isPlainKey key) : ∃ c s, key = c :: s ∧ isLower c := by
  cases key with
  | nil => simp [isPlainKey] at h
  | cons c s => exact ⟨c, s, rfl, by simp [isPlainKey] at h; exact h.1⟩

theorem isPlainKey_of_isPlainName {name : Text} (h : isPlainName name) : isPlainKey name := by
  cases name with
  | nil => exact h
  | cons c s =>
    simp only [isPlainName, isPlainKey, Bool.and_eq_true, List.all_eq_true, Bool.or_eq_true,
      decide_eq_true_eq] at h ⊢
    exact ⟨h.1, fun d hd => .inl (h.2 d hd)⟩

theorem isPlainKey_of_isPlainAttr {a : Text × Text} (h : isPlainAttr a) : isPlainKey a.1 := by
  simp only [isPlainAttr, Bool.and_eq_true] at h
  exact h.1.1

theorem not_mem_of_isPlainAttr {a : Text × Text} (h : isPlainAttr a) : '&' ∉ a.2 := by
  simp only [isPlainAttr, Bool.and_eq_true] at h
  simpa using h.1.2

theorem all_isPlainAttr {attrs : Attrs} (h : isPlainAttrs attrs) : ∀ a ∈ attrs, isPlainAttr a := by
  simp only [isPlainAttrs, Bool.and_eq_true, List.all_eq_true] at h
  exact h.1

/-- Small letters, digits and hyphens. -/
def isKeyChar (c : Char) : Bool := isLower c || isDigit c || c = '-'

theorem all_isKeyChar {key : Text} (h : isPlainKey key) : ∀ c ∈ key, isKeyChar c = true := by
  cases key with
  | nil => simp
  | cons c s =>
    simp only [isPlainKey, Bool.and_eq_true, List.all_eq_true] at h
    intro d hd
    obtain rfl | hd := List.mem_cons.1 hd
    · simp [isKeyChar, h.1]
    · exact h.2 d hd

/-- Key characters by code point: hyphen, digits, small letters. -/
theorem isKeyChar_iff {c : Char} :
    isKeyChar c = true ↔
      c.toNat = 45 ∨ (48 ≤ c.toNat ∧ c.toNat ≤ 57) ∨ (97 ≤ c.toNat ∧ c.toNat ≤ 122) := by
  have hhyphen : c = '-' ↔ c.toNat = 45 := by
    rw [← Char.toNat_inj]; rfl
  simp only [isKeyChar, isLower, isDigit, Bool.or_eq_true, Bool.and_eq_true, decide_eq_true_eq,
    Char.le_def, UInt32.le_iff_toNat_le, hhyphen]
  have hc : c.val.toNat = c.toNat := rfl
  simp only [hc]
  have : 'a'.val.toNat = 97 ∧ 'z'.val.toNat = 122 ∧ '0'.val.toNat = 48 ∧ '9'.val.toNat = 57 := by decide
  omega

end Componentry.Markup
