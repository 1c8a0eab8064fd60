/-!
Text as a list of characters, with the searches, cuts and joins that the rest is built from.
-/
namespace Componentry

abbrev Text := List Char

instance : Coe String Text := ⟨String.toList⟩

instance Text.decidableMem (s : Text) (ts : List Text) : Decidable (s ∈ ts) :=
  List.instDecidableMemOfLawfulBEq s ts

namespace Text

/-- What follows the leading `p` of `s`, if `s` begins with `p`. -/
@[grind =]
def after? : Text → Text → Option Text
  | [], s => some s
  | _ :: _, [] => none
  | p :: ps, c :: s => if p = c then after? ps s else none

theorem after?_append (p s : Text) : after? p (p ++ s) = some s := by
  induction p with
  | nil => rfl
  | cons c p ih => simp [after?, ih]

theorem eq_append_of_after? {p s r : Text} (h : after? p s = some r) : s = p ++ r := by
  induction p generalizing s with
  | nil => simpa [after?] using h
  | cons c p ih =>
    cases s with
    | nil => simp [after?] at h
    | cons d s =>
      simp only [after?] at h
      split at h
      · next hc => rw [ih h, hc]; rfl
      · simp at h

def startsWith (p s : Text) : Bool := (after? p s).isSome

def endsWith (p s : Text) : Bool := startsWith p.reverse s.reverse

/-- `p` occurs somewhere in the text. -/
@[grind =]
def contains (p : Text) : Text → Bool
  | [] => p.isEmpty
  | c :: s => startsWith p (c :: s) || contains p s

/-- Writes `q` for each occurrence of `p` and leaves out the next `skip` characters, which belong
to an occurrence already written. -/
@[grind =]
def replaceFrom (p q : Text) : Nat → Text → Text
  | _, [] => []
  | skip + 1, _ :: s => replaceFrom p q skip s
  | 0, c :: s =>
    if startsWith p (c :: s) then q ++ replaceFrom p q (p.length - 1) s
    else c :: replaceFrom p q 0 s

/-- Each occurrence of the non-empty `p`, found from left to right without overlap, becomes `q`. -/
def replace (p q s : Text) : Text := replaceFrom p q 0 s

/-- The pieces between the separators; one more than there are separators. -/
@[grind =]
def splitOn (sep : Char) : Text → List Text
  | [] => [[]]
  | c :: s =>
    if c = sep then [] :: splitOn sep s
    else match splitOn sep s with
      | [] => [[c]]
      | piece :: rest => (c :: piece) :: rest

/-- What stands before and after the first separator, if there is one. -/
@[grind =]
def cut? (sep : Char) : Text → Option (Text × Text)
  | [] => none
  | c :: s =>
    if c = sep then some ([], s)
    else (cut? sep s).map fun (a, b) => (c :: a, b)

@[grind =]
def joinWith (sep : Text) : List Text → Text
  | [] => []
  | [s] => s
  | s :: t :: rest => s ++ sep ++ joinWith sep (t :: rest)

/-- Lines joined by line feeds. -/
def unlines (ls : List Text) : Text := joinWith ['\n'] ls

def spaces (n : Nat) : Text := List.replicate n ' '

/-- Puts the margin before every line that is not empty. -/
def indent (margin : Nat) (s : Text) : Text :=
  unlines ((splitOn '\n' s).map fun line => if line = [] then [] else spaces margin ++ line)

/-- The characters without those satisfying `p` at either end. -/
def trimWhere (p : Char → Bool) (s : Text) : Text :=
  ((s.dropWhile p).reverse.dropWhile p).reverse

def ofNat (n : Nat) : Text := (toString n).toList

def ofInt (n : Int) : Text := (toString n).toList

/-- Order by code points, a proper beginning of a text coming before it. -/
@[grind =]
def le : Text → Text → Bool
  | [], _ => true
  | _ :: _, [] => false
  | c :: s, d :: t => if c = d then le s t else c.toNat < d.toNat

end Text
end Componentry
