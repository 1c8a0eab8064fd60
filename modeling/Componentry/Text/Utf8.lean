import Componentry.Text.Quoted

/-!
Strict UTF-8. A malformed sequence is reported with its place, its length (the longest beginning
that some character shares) and the reason it was given up.
-/
namespace Componentry.Text

abbrev Bytes := List UInt8

inductive Utf8Fault where
  | start
  | continuation
  | ended
  deriving DecidableEq, Repr

structure Malformed where
  position : Nat
  width : Nat
  byte : UInt8
  fault : Utf8Fault
  deriving DecidableEq, Repr

/-- How many bytes follow the first, and the bounds of the second. -/
def utf8Follow? (b : UInt8) : Option (Nat × Nat × Nat) :=
  let n := b.toNat
  if n < 0x80 then some (0, 0, 0)
  else if n < 0xC2 then none
  else if n < 0xE0 then some (1, 0x80, 0xBF)
  else if n = 0xE0 then some (2, 0xA0, 0xBF)
  else if n = 0xED then some (2, 0x80, 0x9F)
  else if n < 0xF0 then some (2, 0x80, 0xBF)
  else if n = 0xF0 then some (3, 0x90, 0xBF)
  else if n < 0xF4 then some (3, 0x80, 0xBF)
  else if n = 0xF4 then some (3, 0x80, 0x8F)
  else none

/-- Reads `need` continuation bytes, the first within its bounds. -/
def utf8Tail (need lo hi seen value : Nat) (s : Bytes) : Except (Nat × Utf8Fault) Nat :=
  match need, s with
  | 0, _ => .ok value
  | _ + 1, [] => .error (seen, .ended)
  | need + 1, b :: s =>
    if lo ≤ b.toNat ∧ b.toNat ≤ hi then
      utf8Tail need 0x80 0xBF (seen + 1) (value * 64 + b.toNat % 64) s
    else .error (seen, .continuation)

/-- The first character of `b :: s` and the number of bytes of `s` that belong to it. -/
def utf8First (b : UInt8) (s : Bytes) : Except (Nat × Utf8Fault) (Char × Nat) :=
  match utf8Follow? b with
  | none => .error (1, .start)
  | some (need, lo, hi) =>
    let lead := if need = 0 then b.toNat else b.toNat % Nat.pow 2 (6 - need)
    (utf8Tail need lo hi 1 lead s).map fun n => (Char.ofNat n, need)

def decodeFrom (position : Nat) : Nat → Bytes → Except Malformed Text
  | _, [] => .ok []
  | skip + 1, _ :: s => decodeFrom (position + 1) skip s
  | 0, b :: s =>
    match utf8First b s with
    | .ok (c, n) => (decodeFrom (position + 1) n s).map (c :: ·)
    | .error (width, fault) => .error ⟨position, width, b, fault⟩

def decode (s : Bytes) : Except Malformed Text := decodeFrom 0 0 s

def decodeLossyFrom : Nat → Bytes → Text
  | _, [] => []
  | skip + 1, _ :: s => decodeLossyFrom skip s
  | 0, b :: s =>
    match utf8First b s with
    | .ok (c, n) => c :: decodeLossyFrom n s
    | .error (width, _) => '\uFFFD' :: decodeLossyFrom (width - 1) s

/-- A replacement character stands for each malformed sequence. -/
def decodeLossy (s : Bytes) : Text := decodeLossyFrom 0 s

def encode (s : Text) : Bytes := s.flatMap String.utf8EncodeChar

def Utf8Fault.message : Utf8Fault → Text
  | .start => "invalid start byte"
  | .continuation => "invalid continuation byte"
  | .ended => "unexpected end of data"

def Malformed.message (m : Malformed) : Text :=
  let place :=
    if m.width = 1 then
      "byte 0x" ++ hexDigits 2 m.byte.toNat ++ " in position " ++ ofNat m.position
    else "bytes in position " ++ ofNat m.position ++ "-" ++ ofNat (m.position + m.width - 1)
  "'utf-8' codec can't decode " ++ place ++ ": " ++ m.fault.message

end Componentry.Text
