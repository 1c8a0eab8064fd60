import Componentry.Markup.Node
import Componentry.Text.Blank

/-!
Class tokens of a forest and the base class that most of them share.
-/
namespace Componentry.Component
open Componentry.Markup Componentry.Text

/-- Each value at its first place only. -/
@[grind =]
def unique : List Text → List Text
  | [] => []
  | x :: xs => x :: (unique xs).filter (· ≠ x)

theorem mem_unique {x : Text} {xs : List Text} : x ∈ unique xs ↔ x ∈ xs := by
  induction xs with
  | nil => simp [unique]
  | cons y xs ih => by_cases h : x = y <;> simp [unique, ih, h]

theorem nodup_unique (xs : List Text) : (unique xs).Nodup := by
  induction xs with
  | nil => simp [unique]
  | cons x xs ih => exact List.nodup_cons.2 ⟨by simp, ih.filter _⟩

def classValue (attrs : Attrs) : Text := (attrs.get? "class").getD []

/-- The element's own tokens. -/
def ownClasses (attrs : Attrs) : List Text := words (classValue attrs)

mutual
/-- The tokens of a node: its own, then those below it, which are listed once each. -/
def nodeClasses : Node → List Text
  | .element _ attrs children => ownClasses attrs ++ unique (forestClasses children)
  | _ => []
def forestClasses : List Node → List Text
  | [] => []
  | n :: ns => nodeClasses n ++ forestClasses ns
end

/-- The tokens of a forest in the order in which they first appear. -/
def allClasses (ns : List Node) : List Text := unique (forestClasses ns)

/-- What stands before the first hyphen. -/
def stem (token : Text) : Text := token.takeWhile (· ≠ '-')

/-- The first of the elements at which `f` is largest. -/
@[grind =]
def firstMax {α : Type} (f : α → Int) : List α → Option α
  | [] => none
  | x :: xs =>
    match firstMax f xs with
    | none => some x
    | some y => if f x < f y then some y else some x

/-- The stem of most tokens; of several such stems the one that comes first. -/
def baseClass? (tokens : List Text) : Option Text :=
  let stems := tokens.map stem
  firstMax (fun s => Int.ofNat (stems.count s)) (unique stems)

end Componentry.Component
