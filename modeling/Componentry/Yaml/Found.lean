import Componentry.Yaml.Fault

/-!
Values together with the faults met in making them. What stands inside a list or a map is made only when
all that stands beside it has been, so the faults of a document are ordered by depth.
-/
namespace Componentry.Yaml

/-- Faults by the depth at which they come to light. -/
abbrev Levels := List (List Fault)

/-- Level by level, the first come before the second. -/
def Levels.beside : Levels → Levels → Levels
  | [], gs => gs
  | fs, [] => fs
  | f :: fs, g :: gs => (f ++ g) :: beside fs gs

structure Found (α : Type) where
  faults : Levels
  value : α

namespace Found
variable {α β γ : Type}

def sound (a : α) : Found α := ⟨[], a⟩

/-- A fault, with what stands in place of a value. -/
def fault (f : Fault) (a : α) : Found α := ⟨[[f]], a⟩

def ofExcept (r : Except Fault α) (a : α) : Found α :=
  match r with
  | .ok b => sound b
  | .error f => fault f a

def map (h : α → β) (x : Found α) : Found β := ⟨x.faults, h x.value⟩

def both (h : α → β → γ) (x : Found α) (y : Found β) : Found γ :=
  ⟨x.faults.beside y.faults, h x.value y.value⟩

/-- One level deeper. -/
def inside (x : Found α) : Found α := ⟨[] :: x.faults, x.value⟩

/-- The value, unless there is a fault; of several the first counts. -/
def result (x : Found α) : Except Fault α :=
  match x.faults.flatten with
  | [] => .ok x.value
  | f :: _ => .error f

end Found
end Componentry.Yaml
