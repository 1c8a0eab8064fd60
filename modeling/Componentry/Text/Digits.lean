import Componentry.Text.Blank

/-!
Reading whole numbers written with the decimal digits of any script.
-/
namespace Componentry.Text

/-- The zeros of the decimal digit rows; nine more digits follow each. -/
def zeros : List Nat := [
    0x30, 0x660, 0x6F0, 0x7C0, 0x966, 0x9E6, 0xA66, 0xAE6, 0xB66, 0xBE6, 0xC66, 0xCE6, 0xD66, 0xDE6,
    0xE50, 0xED0, 0xF20, 0x1040, 0x1090, 0x17E0, 0x1810, 0x1946, 0x19D0, 0x1A80, 0x1A90, 0x1B50,
    0x1BB0, 0x1C40, 0x1C50, 0xA620, 0xA8D0, 0xA900, 0xA9D0, 0xA9F0, 0xAA50, 0xABF0, 0xFF10, 0x104A0,
    0x10D30, 0x11066, 0x110F0, 0x11136, 0x111D0, 0x112F0, 0x11450, 0x114D0, 0x11650, 0x116C0,
    0x11730, 0x118E0, 0x11950, 0x11C50, 0x11D50, 0x11DA0, 0x16A60, 0x16AC0, 0x16B50, 0x1D7CE,
    0x1D7D8, 0x1D7E2, 0x1D7EC, 0x1D7F6, 0x1E140, 0x1E2F0, 0x1E950, 0x1FBF0]

def digit? (c : Char) : Option Nat :=
  (zeros.find? fun z => z ≤ c.toNat && c.toNat < z + 10).map (c.toNat - ·)

def isDigit (c : Char) : Bool := '0' ≤ c && c ≤ '9'

def isLetter (c : Char) : Bool := ('a' ≤ c && c ≤ 'z') || ('A' ≤ c && c ≤ 'Z')

def hexDigit? (c : Char) : Option Nat :=
  if isDigit c then some (c.toNat - 48)
  else if 'a' ≤ c && c ≤ 'f' then some (c.toNat - 87)
  else if 'A' ≤ c && c ≤ 'F' then some (c.toNat - 55)
  else none

def isHexDigit (c : Char) : Bool := (hexDigit? c).isSome

/-- The number written by ASCII or hexadecimal digits in the given base, most significant first. -/
def numeral (base : Nat) (s : Text) : Nat :=
  s.foldl (fun n c => n * base + (hexDigit? c).getD 0) 0

/-- A longer decimal numeral is neither read nor written. -/
def digitLimit : Nat := 4300

def longNumeralMessage (digits : Nat) : Text :=
  "Exceeds the limit (" ++ ofNat digitLimit ++ " digits) for integer string conversion: value has " ++
    ofNat digits ++ " digits; use sys.set_int_max_str_digits() to increase the limit"

def longNumberMessage : Text :=
  "Exceeds the limit (" ++ ofNat digitLimit ++ " digits) for integer string conversion; " ++
    "use sys.set_int_max_str_digits() to increase the limit"

/-- Digits of any script with single underscores between them. -/
@[grind =]
def digitsOf? : Text → Option (List Nat)
  | [] => none
  | [c] => (digit? c).map ([·])
  | c :: '_' :: s => (digit? c).bind fun d => (digitsOf? s).map (d :: ·)
  | c :: s => (digit? c).bind fun d => (digitsOf? s).map (d :: ·)

/-- The information separators are not trimmed around a number. -/
def isNumberBlank (c : Char) : Bool := isBlank c && !(28 ≤ c.toNat && c.toNat ≤ 31)

/-- A whole number with an optional sign, among blanks. -/
def int? (s : Text) : Option Int :=
  let unsigned (t : Text) : Option Int :=
    (digitsOf? t).bind fun ds =>
      if ds.length > digitLimit then none else some (Int.ofNat (ds.foldl (fun n d => n * 10 + d) 0))
  match trimWhere isNumberBlank s with
  | '-' :: t => (unsigned t).map (-·)
  | '+' :: t => unsigned t
  | t => unsigned t

end Componentry.Text
