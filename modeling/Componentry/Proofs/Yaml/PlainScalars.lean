import Componentry.Proofs.Yaml.FaultyScalars
import Componentry.Proofs.Yaml.FloatNumbers

/-!
Which plain scalars stand for nothing of the kind whose form they have.
-/
namespace Componentry.Yaml
open Componentry.Text

variable {s : Text} {why : ScalarFault}

/-- A plain scalar that has the form of its kind and stands for nothing of that kind, and why. -/
inductive NoValue (s : Text) : ScalarFault → Prop
  | int {why : ScalarFault} (hkind : Kind.ofLine s = .int) (h : NoInt (withoutUnderscores (unsigned s)) why) :
    NoValue s why
  | float (hkind : Kind.ofLine s = .float) (hparts : mostParts < (splitOn ':' (unsigned s)).length) :
    NoValue s .longFloat
  | time {t : Timestamp} {part : TimeFault} (hkind : Kind.ofLine s = .timestamp)
    (htime : Timestamp.ofText? s = some t) (hpart : t.fault? = some part) : NoValue s (.time part)

/-- The form that a plain scalar of a kind has. -/
def HasForm (s : Text) : Kind → Prop
  | .bool => s ∈ trueWords ++ falseWords
  | .float => isFloat s = true
  | .int => isInt s = true
  | .timestamp => Timestamp.isPlain s = true
  | .text | .null | .merge | .value | .unknown => True
  | _ => False

theorem hasForm_ofLine (s : Text) : HasForm s (Kind.ofLine s) := by
  unfold Kind.ofLine
  split
  · next h => exact h
  · split
    · next h => exact h
    · split
      · next h => exact h
      · split
        · trivial
        · split
          · trivial
          · split
            · next h => exact h
            · split
              · trivial
              · split <;> trivial

theorem ofPlain_eq_ofLine (h : s.getLast? ≠ some '\n') : Kind.ofPlain s = Kind.ofLine s := by
  have hne : s ≠ ['\n'] := by
    rintro rfl
    exact h rfl
  rw [Kind.ofPlain, if_neg hne, withoutLastBreak, if_neg h]

theorem exists_boolOfScalar (h : s ∈ trueWords ++ falseWords) : ∃ b, boolOfScalar s = .ok b := by
  have hwords : ((trueWords ++ falseWords).all fun w => (boolOfScalar w).isOk) = true := by decide
  have hs := List.all_eq_true.1 hwords s h
  cases hb : boolOfScalar s with
  | ok b => exact ⟨b, rfl⟩
  | error why =>
    rw [hb] at hs
    cases hs

theorem checkTimestamp_eq_error_iff (h : s.getLast? ≠ some '\n') (hplain : Timestamp.isPlain s = true) :
    checkTimestamp s = .error why ↔
      ∃ t part, Timestamp.ofText? s = some t ∧ t.fault? = some part ∧ why = .time part := by
  rw [checkTimestamp, withoutLastBreak, if_neg h]
  cases htime : Timestamp.ofText? s with
  | none =>
    rw [Timestamp.isPlain, htime] at hplain
    cases hplain
  | some t =>
    dsimp only
    cases hpart : t.fault? with
    | none => exact iff_of_false nofun (by simp [hpart])
    | some part =>
      constructor
      · intro h
        cases h
        exact ⟨t, part, rfl, hpart, rfl⟩
      · rintro ⟨t', part', ht, hpart', rfl⟩
        cases ht
        rw [hpart] at hpart'
        cases hpart'
        rfl

theorem scalarValue_int_iff : scalarValue .int s = .error (.scalar why) ↔ intOfScalar s = .error why := by
  rw [scalarValue]
  cases intOfScalar s <;> simp

theorem scalarValue_float_iff : scalarValue .float s = .error (.scalar why) ↔ floatOfScalar s = .error why := by
  rw [scalarValue]
  cases floatOfScalar s <;> simp

theorem scalarValue_timestamp_iff :
    scalarValue .timestamp s = .error (.scalar why) ↔ checkTimestamp s = .error why := by
  rw [scalarValue]
  cases checkTimestamp s <;> simp

theorem scalarValue_ofLine_iff (h : s.getLast? ≠ some '\n') :
    scalarValue (Kind.ofLine s) s = .error (.scalar why) ↔ NoValue s why := by
  have hform := hasForm_ofLine s
  have hother (hvalue : scalarValue (Kind.ofLine s) s ≠ .error (.scalar why))
      (hkind : Kind.ofLine s ∉ [.int, .float, .timestamp]) :
      scalarValue (Kind.ofLine s) s = .error (.scalar why) ↔ NoValue s why := by
    refine iff_of_false hvalue fun hno => hkind ?_
    cases hno with
    | int hkind => simp [hkind]
    | float hkind => simp [hkind]
    | time hkind => simp [hkind]
  cases hkind : Kind.ofLine s with
  | int =>
    rw [hkind] at hform
    rw [scalarValue_int_iff, intOfScalar_eq_error_iff hform]
    refine ⟨.int hkind, fun hno => ?_⟩
    cases hno with
    | int _ h => exact h
    | float hkind' | time hkind' =>
      rw [hkind] at hkind'
      cases hkind'
  | float =>
    rw [hkind] at hform
    rw [scalarValue_float_iff, floatOfScalar_eq_error_iff hform]
    constructor
    · rintro ⟨rfl, hparts⟩
      exact .float hkind hparts
    · intro hno
      cases hno with
      | float _ hparts => exact ⟨rfl, hparts⟩
      | int hkind' | time hkind' =>
        rw [hkind] at hkind'
        cases hkind'
  | timestamp =>
    rw [hkind] at hform
    rw [scalarValue_timestamp_iff, checkTimestamp_eq_error_iff h hform]
    constructor
    · rintro ⟨t, part, htime, hpart, rfl⟩
      exact .time hkind htime hpart
    · intro hno
      cases hno with
      | time _ htime hpart => exact ⟨_, _, htime, hpart, rfl⟩
      | int hkind' | float hkind' =>
        rw [hkind] at hkind'
        cases hkind'
  | bool =>
    rw [hkind] at hform hother
    obtain ⟨b, hb⟩ := exists_boolOfScalar hform
    exact hother (by simp [scalarValue, hb]) (by decide)
  | text | null | merge | value | unknown =>
    rw [hkind] at hother
    exact hother (by simp [scalarValue]) (by decide)
  | binary | list | map | set | orderedMap | pairs =>
    rw [hkind] at hform
    cases hform

/-- A plain scalar has a value, unless `NoValue` tells why not. -/
theorem plain_isFaulty_iff (h : s.getLast? ≠ some '\n') :
    (Node.scalar none true s).IsFaulty why ↔ NoValue s why := by
  have hkind : (Node.scalar none true s).kind = Kind.ofLine s := ofPlain_eq_ofLine h
  have htext (kind : Kind) : (Node.scalar none true s).ofText kind = scalarValue kind s := rfl
  rw [Node.IsFaulty, hkind, htext, scalarValue_ofLine_iff h]

end Componentry.Yaml
