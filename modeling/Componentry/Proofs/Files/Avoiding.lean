import Componentry.Proofs.Files.Keeping
import Componentry.Proofs.Files.Lacking

/-!
Ways that do not lead over a place. On a disk that has an entry there and on one that lacks it, such a
way leads to the same, and still does after links gave way to files and directories came in.
-/
namespace Componentry.Files
open Componentry.Text

namespace Disk

/-- Names lead from a directory past a place, whether what is on the way is there or not; `jump` tells
it of the ways that go on where a link leads. -/
@[grind =]
def passesNames (d : Disk) (q : Place) (jump : Place → List Text → Bool) (here : Place) :
    List Text → Bool
  | [] => here ≠ q
  | name :: rest =>
    here ≠ q &&
      if name = (".." : Text) then d.passesNames q jump here.dropLast rest
      else
        match d.get? (here ++ [name]) with
        | some (.link target) =>
          let path := Path.ofText target
          here ++ [name] ≠ q && jump (if path.isAbsolute then [] else here) (path.parts ++ rest)
        | _ => d.passesNames q jump (here ++ [name]) rest

def passes (d : Disk) (q : Place) : Nat → Place → List Text → Bool
  | 0 => d.passesNames q fun _ _ => true
  | links + 1 => d.passesNames q (d.passes q links)

/-- A path does not lead over a place. -/
def Avoids (d : Disk) (q : Place) (p : Path) : Prop :=
  d.passes q mostLinks (if p.isAbsolute then [] else d.cwd) p.parts = true

instance (d : Disk) (q : Place) (p : Path) : Decidable (d.Avoids q p) :=
  inferInstanceAs (Decidable (_ = true))

section Passing
variable {d : Disk} {q here : Place} {jump : Place → List Text → Bool} {names more : List Text}

theorem ne_of_passesNames (h : d.passesNames q jump here names = true) : here ≠ q := by
  cases names with
  | nil => simpa [passesNames] using h
  | cons name rest =>
    rw [passesNames, Bool.and_eq_true] at h
    simpa using h.1

theorem passesNames_dots (h : d.passesNames q jump here ((".." : Text) :: names) = true) :
    d.passesNames q jump here.dropLast names = true := by
  rw [passesNames, Bool.and_eq_true, if_pos rfl] at h
  exact h.2

theorem passesNames_link {name target : Text} (hname : name ≠ (".." : Text))
    (hget : d.get? (here ++ [name]) = some (.link target))
    (h : d.passesNames q jump here (name :: names) = true) :
    here ++ [name] ≠ q ∧
      jump (if (Path.ofText target).isAbsolute then [] else here)
        ((Path.ofText target).parts ++ names) = true := by
  rw [passesNames, Bool.and_eq_true, if_neg hname, hget] at h
  simpa using h.2

theorem passesNames_next {name : Text} (hname : name ≠ (".." : Text))
    (hget : ∀ target, d.get? (here ++ [name]) ≠ some (.link target))
    (h : d.passesNames q jump here (name :: names) = true) :
    d.passesNames q jump (here ++ [name]) names = true := by
  rw [passesNames, Bool.and_eq_true, if_neg hname] at h
  have hnext := h.2
  split at hnext
  · next target hlink => exact absurd hlink (hget target)
  · exact hnext

/-- One name on is not the place either. -/
theorem next_ne_of_passesNames {name : Text} (hname : name ≠ (".." : Text))
    (h : d.passesNames q jump here (name :: names) = true) : here ++ [name] ≠ q := by
  by_cases hlink : ∃ target, d.get? (here ++ [name]) = some (.link target)
  · obtain ⟨target, hget⟩ := hlink
    exact (passesNames_link hname hget h).1
  · have hget : ∀ target, d.get? (here ++ [name]) ≠ some (.link target) :=
      fun target hget => hlink ⟨target, hget⟩
    exact ne_of_passesNames (passesNames_next hname hget h)

theorem passesNames_of_append
    (hjump : ∀ here names, jump here (names ++ more) = true → jump here names = true)
    (h : d.passesNames q jump here (names ++ more) = true) : d.passesNames q jump here names = true := by
  induction names generalizing here with
  | nil => simpa [passesNames] using ne_of_passesNames h
  | cons name rest ih =>
    rw [List.cons_append] at h
    have hhere := ne_of_passesNames h
    rw [passesNames, Bool.and_eq_true]
    refine ⟨by simpa using hhere, ?_⟩
    by_cases hdots : name = (".." : Text)
    · subst hdots
      rw [if_pos rfl]
      exact ih (passesNames_dots h)
    · rw [if_neg hdots]
      cases hget : d.get? (here ++ [name]) with
      | none => exact ih (passesNames_next hdots (by simp [hget]) h)
      | some e =>
        cases e with
        | file content => exact ih (passesNames_next hdots (by simp [hget]) h)
        | directory => exact ih (passesNames_next hdots (by simp [hget]) h)
        | link target =>
          obtain ⟨hnext, hway⟩ := passesNames_link hdots hget h
          rw [← List.append_assoc] at hway
          simpa using ⟨hnext, hjump _ _ hway⟩

theorem passes_of_append {links : Nat} (h : d.passes q links here (names ++ more) = true) :
    d.passes q links here names = true := by
  induction links generalizing here names with
  | zero => exact passesNames_of_append (fun _ _ h => h) h
  | succ links ih => exact passesNames_of_append (fun _ _ h => ih h) h

/-- What is said of a path holds of the paths above it. -/
theorem Avoids.of_append {root : Text} (h : d.Avoids q ⟨root, names ++ more⟩) : d.Avoids q ⟨root, names⟩ :=
  passes_of_append h

end Passing

/-! ### Following a path -/

namespace LacksAt
variable {mayCome : Place → Prop} {q here : Place} {first d d' : Disk} {follow : Bool} {links : Nat}
  {names : List Text}

theorem walkNames_eq (h : LacksAt q d d') (hkeeps : first.Keeps mayCome d)
    {passesOn : Place → List Text → Bool} {jump jump' : Place → List Text → Except Failure Spot}
    (hjump : ∀ here names, passesOn here names = true → jump' here names = jump here names)
    (hpasses : first.passesNames q passesOn here names = true) :
    d'.walkNames follow jump' here names = d.walkNames follow jump here names := by
  induction here, names using d.names_induction with
  | nil here => rw [walkNames, walkNames, h.get? here (ne_of_passesNames hpasses)]
  | dots here rest ih =>
    rw [walkNames_dots, walkNames_dots]
    exact ih (passesNames_dots hpasses)
  | long here name rest hname hlong => rw [walkNames_long hname hlong, walkNames_long hname hlong]
  | missing here name rest hname hget =>
    have hsame := h.get? _ (next_ne_of_passesNames hname.1 hpasses)
    rw [walkNames_missing hname hget, walkNames_missing hname (hsame.trans hget)]
  | file here name rest content hname hget =>
    have hsame := h.get? _ (next_ne_of_passesNames hname.1 hpasses)
    rw [walkNames_file hname hget, walkNames_file hname (hsame.trans hget)]
  | directory here name rest hname hget ih =>
    have hsame := h.get? _ (next_ne_of_passesNames hname.1 hpasses)
    rw [walkNames_directory hname hget, walkNames_directory hname (hsame.trans hget)]
    exact ih (passesNames_next hname.1 (hkeeps.ne_link_of_directory hget) hpasses)
  | link here name rest target hname hget =>
    have hsame := h.get? _ (next_ne_of_passesNames hname.1 hpasses)
    have hway := hjump _ _ (passesNames_link hname.1 (hkeeps.oldLink _ _ hget) hpasses).2
    rw [walkNames_link hname hget, walkNames_link hname (hsame.trans hget), hway]

theorem walk_eq (h : LacksAt q d d') (hkeeps : first.Keeps mayCome d)
    (hpasses : first.passes q links here names = true) :
    d'.walk follow links here names = d.walk follow links here names := by
  induction links generalizing here names with
  | zero => exact h.walkNames_eq hkeeps (fun _ _ _ => rfl) hpasses
  | succ links ih => exact h.walkNames_eq hkeeps (fun _ _ hway => ih hway) hpasses

theorem locate_eq (h : LacksAt q d d') (hkeeps : first.Keeps mayCome d) {p : Path}
    (havoids : first.Avoids q p) : d'.locate follow p = d.locate follow p := by
  rw [locate]
  rw [Avoids] at havoids
  rw [← hkeeps.cwd] at havoids
  rw [h.cwd]
  exact h.walk_eq hkeeps havoids

theorem descendNames_eq (h : LacksAt q d d') (hkeeps : first.Keeps mayCome d)
    {passesOn : Place → List Text → Bool} {jump jump' : Place → List Text → Except Failure Place}
    (hjump : ∀ here names, passesOn here names = true → jump' here names = jump here names)
    (hpasses : first.passesNames q passesOn here names = true) :
    d'.descendNames jump' here names = d.descendNames jump here names := by
  induction here, names using d.names_induction with
  | nil here => rfl
  | dots here rest ih =>
    rw [descendNames_dots, descendNames_dots]
    exact ih (passesNames_dots hpasses)
  | long here name rest hname hlong => rw [descendNames_long hname hlong, descendNames_long hname hlong]
  | missing here name rest hname hget =>
    have hsame := h.get? _ (next_ne_of_passesNames hname.1 hpasses)
    rw [descendNames_missing hname hget, descendNames_missing hname (hsame.trans hget)]
  | file here name rest content hname hget =>
    have hsame := h.get? _ (next_ne_of_passesNames hname.1 hpasses)
    rw [descendNames_file hname hget, descendNames_file hname (hsame.trans hget)]
  | directory here name rest hname hget ih =>
    have hsame := h.get? _ (next_ne_of_passesNames hname.1 hpasses)
    rw [descendNames_directory hname hget, descendNames_directory hname (hsame.trans hget)]
    exact ih (passesNames_next hname.1 (hkeeps.ne_link_of_directory hget) hpasses)
  | link here name rest target hname hget =>
    have hsame := h.get? _ (next_ne_of_passesNames hname.1 hpasses)
    have hway := hjump _ _ (passesNames_link hname.1 (hkeeps.oldLink _ _ hget) hpasses).2
    rw [descendNames_link hname hget, descendNames_link hname (hsame.trans hget), hway]

theorem descend_eq (h : LacksAt q d d') (hkeeps : first.Keeps mayCome d)
    (hpasses : first.passes q links here names = true) :
    d'.descend links here names = d.descend links here names := by
  induction links generalizing here names with
  | zero => exact h.descendNames_eq hkeeps (fun _ _ _ => rfl) hpasses
  | succ links ih => exact h.descendNames_eq hkeeps (fun _ _ hway => ih hway) hpasses

theorem descendTo_eq (h : LacksAt q d d') (hkeeps : first.Keeps mayCome d) {p : Path}
    (havoids : first.Avoids q p) : d'.descendTo p = d.descendTo p := by
  rw [descendTo]
  rw [Avoids] at havoids
  rw [← hkeeps.cwd] at havoids
  rw [h.cwd]
  exact h.descend_eq hkeeps havoids

/-- The last name of a path may be looked up too if the place has another last name. -/
theorem locate_child_eq (h : LacksAt q d d') (hkeeps : first.Keeps mayCome d) {p : Path} {name : Text}
    (havoids : first.Avoids q p) (hname : name ≠ (".." : Text)) (hq : ∀ there, there ++ [name] ≠ q) :
    d'.locate false (p.child name) = d.locate false (p.child name) := by
  rw [locate_child hname, locate_child hname, h.descendTo_eq hkeeps havoids]
  cases d.descendTo p with
  | error f => rfl
  | ok there =>
    simp only [Except.bind, lookAt]
    rw [h.get? _ (hq there)]

end LacksAt
end Disk
end Componentry.Files
