import Componentry.Yaml.Node
import Componentry.Yaml.Found
import Componentry.Yaml.Number
import Componentry.Settings.Value
import Componentry.Text.Base64

/-!
The value that a YAML document stands for.
-/
namespace Componentry.Yaml
open Componentry.Text
open Componentry.Settings (Value)

/-! ### Scalars -/

def daysIn (year : Nat) : Nat → Nat
  | 2 => if year % 4 = 0 ∧ (year % 100 ≠ 0 ∨ year % 400 = 0) then 29 else 28
  | 4 | 6 | 9 | 11 => 30
  | _ => 31

/-- The first part that is out of its range. -/
def Timestamp.fault? (t : Timestamp) : Option TimeFault :=
  let (hour, minute, second) := t.time.getD (0, 0, 0)
  if t.offset.natAbs ≥ 24 * 60 then some (.offset t.offset)
  else if t.year = 0 then some (.year t.year)
  else if t.month < 1 ∨ 12 < t.month then some .month
  else if t.day < 1 ∨ daysIn t.year t.month < t.day then some .day
  else if hour > 23 then some .hour
  else if minute > 59 then some .minute
  else if second > 59 then some .second
  else none

def checkTimestamp (s : Text) : Except ScalarFault Unit :=
  match Timestamp.ofText? (withoutLastBreak s) with
  | none => .error .timestamp
  | some t =>
    match t.fault? with
    | some part => .error (.time part)
    | none => .ok ()

def boolOfScalar (s : Text) : Except ScalarFault Bool :=
  let word := lower s
  if word ∈ trueWords then .ok true
  else if word ∈ falseWords then .ok false
  else .error (.bool word)

/-- Bytes count as a list of numbers. -/
def bytesOfScalar (s : Text) : Except Fault Value :=
  match (if s.all (·.toNat < 128) then decodeBase64? s else none) with
  | some bytes => .ok (.list (bytes.map fun b => .int (Int.ofNat b)))
  | none => .error .content

def scalarValue (kind : Kind) (s : Text) : Except Fault Value :=
  let checked {α : Type} (r : Except ScalarFault α) (f : α → Value) : Except Fault Value :=
    match r with
    | .ok a => .ok (f a)
    | .error why => .error (.scalar why)
  match kind with
  | .text => .ok (.text s)
  | .null => .ok .null
  | .bool => checked (boolOfScalar s) .bool
  | .int => checked (intOfScalar s) .int
  | .float => checked (floatOfScalar s) .float
  | .timestamp => checked (checkTimestamp s) fun _ => .other
  | .binary => bytesOfScalar s
  | _ => .error .content

/-! ### Nodes -/

/-- What a node is taken for, by its tag or its own form. -/
def Node.kind : Node → Kind
  | .scalar (some tag) _ _ => Kind.ofTag tag
  | .scalar none plain s => if plain then Kind.ofPlain s else .text
  | .list tag _ => (tag.map Kind.ofTag).getD .list
  | .map tag _ => (tag.map Kind.ofTag).getD .map
  | .cycle => .unknown

/-- Whether values of this kind are made of what stands inside a node. -/
def Kind.isCollection : Kind → Bool
  | .list | .map | .set | .orderedMap | .pairs => true
  | _ => false

/-- Lists and maps are no keys. -/
def Node.isKey : Node → Bool
  | .cycle => false
  | n => !n.kind.isCollection

mutual
/-- The text of a scalar. A map has that of its first `=` entry. -/
def Node.text? : Node → Option Text
  | .scalar _ _ s => some s
  | .map _ entries => valueText? entries
  | _ => none

def valueText? : List (Node × Node) → Option Text
  | [] => none
  | (k, v) :: rest => if k.kind = .value then v.text? else valueText? rest
end

/-- What is made of the text of a node. -/
def Node.ofText (kind : Kind) (n : Node) : Except Fault Value :=
  match n, n.text? with
  | _, none => .error .content
  | .map .., some s => if kind = .timestamp then .error (.scalar .timestampOfMap) else scalarValue kind s
  | _, some s => scalarValue kind s

abbrev Entries := List (Value × Value)

mutual
/-- The value of a node. Later entries of a map win over earlier ones, so those of merged maps come
first. -/
def Node.found : Node → Found Value
  | .scalar tag plain s =>
    let n := Node.scalar tag plain s
    if n.kind.isCollection then (Found.fault .content .other).inside
    else Found.ofExcept (n.ofText n.kind) .other
  | .list tag items =>
    let n := Node.list tag items
    match n.kind with
    | .list => ((valuesOf items).map Value.list).inside
    | .orderedMap | .pairs => ((pairsOf items).map Value.list).inside
    | .map | .set => (Found.fault .content .other).inside
    | kind => Found.ofExcept (n.ofText kind) .other
  | .map tag entries =>
    let n := Node.map tag entries
    match n.kind, gather entries with
    | .map, some (merged, own) => (Found.both (fun es fs => Value.map (es ++ fs)) merged own).inside
    | .set, some (merged, own) => (Found.both (fun _ _ => Value.other) merged own).inside
    | .map, none | .set, none | .list, _ | .orderedMap, _ | .pairs, _ => (Found.fault .content .other).inside
    | kind, _ => Found.ofExcept (n.ofText kind) .other
  | .cycle => Found.sound .other

def valuesOf : List Node → Found (List Value)
  | [] => Found.sound []
  | n :: ns => Found.both List.cons n.found (valuesOf ns)

/-- Maps of a single entry each. -/
def pairsOf : List Node → Found (List Value)
  | [] => Found.sound []
  | .map _ [(k, v)] :: ns =>
    Found.both (fun _ vs => .other :: vs) (Found.both Prod.mk k.found v.found) (pairsOf ns)
  | _ => Found.fault .content []

/-- The entries that a map takes over from others, and its own; nothing if something is to be taken
over that is no map. -/
def gather : List (Node × Node) → Option (Found Entries × Found Entries)
  | [] => some (Found.sound [], Found.sound [])
  | (k, v) :: rest =>
    if k.kind = .merge then do
      let taken ← mergedOf v
      let (merged, own) ← gather rest
      return (Found.both List.append taken merged, own)
    else do
      let key :=
        if !k.isKey then Found.fault .content .other
        else if k.kind = .value then Found.ofExcept (k.ofText .text) .other
        else k.found
      let (merged, own) ← gather rest
      return (merged, Found.both List.cons (Found.both Prod.mk key v.found) own)

/-- The entries of a map, or of several, of which the first wins. -/
def mergedOf : Node → Option (Found Entries)
  | .map _ entries => do
    let (merged, own) ← gather entries
    return Found.both List.append merged own
  | .list _ items => mergedOfAll items
  | .cycle => some (Found.sound [])
  | .scalar .. => none

def mergedOfAll : List Node → Option (Found Entries)
  | [] => some (Found.sound [])
  | .map _ entries :: ns => do
    let (merged, own) ← gather entries
    let rest ← mergedOfAll ns
    return Found.both List.append rest (Found.both List.append merged own)
  | .cycle :: ns => mergedOfAll ns
  | _ => none
end

/-- The value of the only document in a text; a text without one stands for nothing. -/
def load (s : Text) : Except Fault Value := do
  match ← document (tokens s) with
  | some n => n.found.result
  | none => return .null

end Componentry.Yaml
