import Componentry.Text.Blank
import Componentry.Text.Quoted

/-!
Templates as text with expressions and conditions, filled in from named values. A name without a
value is an error, also where only its truth is asked for.
-/
namespace Componentry.Template
open Componentry.Text

inductive Value where
  | none
  | bool (b : Bool)
  | number (n : Nat)
  | text (s : Text)
  /-- A collection, by its text and whether it is empty. -/
  | collection (shown : Text) (isEmpty : Bool)
  /-- Named parts of a value, with the name of its kind and its text. -/
  | record (kind shown : Text) (fields : List (Text × Value))

inductive Fault where
  | undefined (name : Text)
  | missing (kind name : Text)
  | malformed (message : Text)
  deriving DecidableEq

def Fault.message : Fault → Text
  | .undefined name => quoted name ++ " is undefined"
  | .missing kind name => quoted kind ++ " has no attribute " ++ quoted name
  | .malformed message => message

namespace Value

def shown : Value → Text
  | .none => "None"
  | .bool true => "True"
  | .bool false => "False"
  | .number n => ofNat n
  | .text s => s
  | .collection s _ => s
  | .record _ s _ => s

def isTrue : Value → Bool
  | .none => false
  | .bool b => b
  | .number n => n ≠ 0
  | .text s => s ≠ []
  | .collection _ isEmpty => !isEmpty
  | .record .. => true

def kind : Value → Text
  | .none => "None"
  | .bool _ => "bool object"
  | .number _ => "int object"
  | .text _ => "str object"
  | .collection .. => "tuple object"
  | .record kind _ _ => kind

def field (v : Value) (name : Text) : Except Fault Value :=
  match v with
  | .record kind _ fields =>
    match fields.lookup name with
    | some w => .ok w
    | Option.none => .error (.missing kind name)
  | v => .error (.missing v.kind name)

end Value

inductive Expr where
  | name (s : Text)
  | field (e : Expr) (s : Text)
  /-- The text of `e` with a margin before its lines; before the first only if `first` holds. -/
  | indent (e : Expr) (margin : Nat) (first : Bool)

/-- The margin stands before every later line that is not empty, whatever ends the lines; before the
first one it stands also when that is empty. -/
def indentLines (margin : Nat) (first : Bool) (s : Text) : Text :=
  match lines (s ++ ['\n']) with
  | [] => []
  | l :: ls =>
    (if first then spaces margin else []) ++
      unlines (l :: ls.map fun line => if line = [] then [] else spaces margin ++ line)

abbrev Scope := List (Text × Value)

def Expr.eval (scope : Scope) : Expr → Except Fault Value
  | .name s =>
    match scope.lookup s with
    | some v => .ok v
    | none => .error (.undefined s)
  | .field e s => (e.eval scope).bind (·.field s)
  | .indent e margin first =>
    (e.eval scope).map fun v => .text (indentLines margin first v.shown)

inductive Item where
  | text (s : Text)
  | expr (e : Expr)
  | cond (e : Expr) (yes no : List Item)

mutual
def Item.render (scope : Scope) : Item → Except Fault Text
  | .text s => .ok s
  | .expr e => (e.eval scope).map Value.shown
  | .cond e yes no =>
    match e.eval scope with
    | .error f => .error f
    | .ok v => if v.isTrue then renderAll scope yes else renderAll scope no
/-- The items one after the other, or the first fault. -/
def renderAll (scope : Scope) : List Item → Except Fault Text
  | [] => .ok []
  | i :: is =>
    match i.render scope with
    | .error f => .error f
    | .ok s => (renderAll scope is).map (s ++ ·)
end

end Componentry.Template
