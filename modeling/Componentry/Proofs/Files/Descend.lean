import Componentry.Files.Disk

/-!
Following a path splits at its last name: the names before it lead to a directory, and the last one
is looked up there.
-/
namespace Componentry.Files
open Componentry.Text

namespace Disk
variable {d : Disk} {follow : Bool} {links : Nat} {here there : Place} {names : List Text}

/-- Follows names from a directory to the directory in which one more name would be looked up;
`jump` goes on where a link leads. -/
@[grind =]
def descendNames (d : Disk) (jump : Place → List Text → Except Failure Place) (here : Place) :
    List Text → Except Failure Place
  | [] => .ok here
  | name :: rest =>
    if name = (".." : Text) then d.descendNames jump here.dropLast rest
    else if (encode name).length > longestName then .error .nameTooLong
    else
      match d.get? (here ++ [name]) with
      | none => .error .missing
      | some (.file _) => .error .notDirectory
      | some .directory => d.descendNames jump (here ++ [name]) rest
      | some (.link target) =>
        let path := Path.ofText target
        jump (if path.isAbsolute then [] else here) (path.parts ++ rest)

def descend (d : Disk) : Nat → Place → List Text → Except Failure Place
  | 0 => d.descendNames fun _ _ => .error .tooManyLinks
  | links + 1 => d.descendNames (d.descend links)

/-- The directory a path leads to from the working directory. -/
def descendTo (d : Disk) (p : Path) : Except Failure Place :=
  d.descend mostLinks (if p.isAbsolute then [] else d.cwd) p.parts

/-! ### One name after the other -/

/-- A name that can be looked up in a directory. -/
def IsName (name : Text) : Prop := name ≠ (".." : Text) ∧ (encode name).length ≤ longestName

/-- Induction along the names of a path, by what the disk has under the next one. -/
@[elab_as_elim]
theorem names_induction (d : Disk) {motive : Place → List Text → Prop} (nil : ∀ here, motive here [])
    (dots : ∀ here rest, motive here.dropLast rest → motive here ((".." : Text) :: rest))
    (long : ∀ here name rest, name ≠ (".." : Text) → longestName < (encode name).length →
      motive here (name :: rest))
    (missing : ∀ here name rest, IsName name → d.get? (here ++ [name]) = none → motive here (name :: rest))
    (file : ∀ here name rest content, IsName name → d.get? (here ++ [name]) = some (.file content) →
      motive here (name :: rest))
    (directory : ∀ here name rest, IsName name → d.get? (here ++ [name]) = some .directory →
      motive (here ++ [name]) rest → motive here (name :: rest))
    (link : ∀ here name rest target, IsName name → d.get? (here ++ [name]) = some (.link target) →
      motive here (name :: rest))
    (here : Place) (names : List Text) : motive here names := by
  induction names generalizing here with
  | nil => exact nil here
  | cons name rest ih =>
    by_cases hdots : name = (".." : Text)
    · subst hdots
      exact dots here rest (ih here.dropLast)
    · by_cases hlong : longestName < (encode name).length
      · exact long here name rest hdots hlong
      · have hname : IsName name := ⟨hdots, Nat.le_of_not_lt hlong⟩
        cases hget : d.get? (here ++ [name]) with
        | none => exact missing here name rest hname hget
        | some e =>
          cases e with
          | file content => exact file here name rest content hname hget
          | directory => exact directory here name rest hname hget (ih (here ++ [name]))
          | link target => exact link here name rest target hname hget

section Steps
variable {name target : Text} {rest : List Text} {content : Bytes}

section Walk
variable {jump : Place → List Text → Except Failure Spot}

theorem walkNames_dots :
    d.walkNames follow jump here ((".." : Text) :: rest) = d.walkNames follow jump here.dropLast rest := by
  rw [walkNames, if_pos rfl]

theorem walkNames_long (hname : name ≠ (".." : Text)) (hlong : longestName < (encode name).length) :
    d.walkNames follow jump here (name :: rest) = .error .nameTooLong := by
  rw [walkNames, if_neg hname, if_pos hlong]

theorem walkNames_missing (hname : IsName name) (hget : d.get? (here ++ [name]) = none) :
    d.walkNames follow jump here (name :: rest) =
      if rest = [] then .ok (.free (here ++ [name])) else .error .missing := by
  rw [walkNames, if_neg hname.1, if_neg (Nat.not_lt.2 hname.2)]
  simp only [hget]

theorem walkNames_file (hname : IsName name) (hget : d.get? (here ++ [name]) = some (.file content)) :
    d.walkNames follow jump here (name :: rest) =
      if rest = [] then .ok (.found (here ++ [name]) (.file content)) else .error .notDirectory := by
  rw [walkNames, if_neg hname.1, if_neg (Nat.not_lt.2 hname.2)]
  simp only [hget]

theorem walkNames_directory (hname : IsName name) (hget : d.get? (here ++ [name]) = some .directory) :
    d.walkNames follow jump here (name :: rest) = d.walkNames follow jump (here ++ [name]) rest := by
  rw [walkNames, if_neg hname.1, if_neg (Nat.not_lt.2 hname.2)]
  simp only [hget]

theorem walkNames_link (hname : IsName name) (hget : d.get? (here ++ [name]) = some (.link target)) :
    d.walkNames follow jump here (name :: rest) =
      if rest = [] ∧ !follow then .ok (.found (here ++ [name]) (.link target))
      else jump (if (Path.ofText target).isAbsolute then [] else here) ((Path.ofText target).parts ++ rest) := by
  rw [walkNames, if_neg hname.1, if_neg (Nat.not_lt.2 hname.2)]
  simp only [hget]

/-- A link is always followed if links at the end are. -/
theorem walkNames_followed (hname : IsName name) (hget : d.get? (here ++ [name]) = some (.link target)) :
    d.walkNames true jump here (name :: rest) =
      jump (if (Path.ofText target).isAbsolute then [] else here) ((Path.ofText target).parts ++ rest) := by
  rw [walkNames_link hname hget, if_neg (by simp)]

end Walk

section Descend
variable {jump : Place → List Text → Except Failure Place}

theorem descendNames_dots :
    d.descendNames jump here ((".." : Text) :: rest) = d.descendNames jump here.dropLast rest := by
  rw [descendNames, if_pos rfl]

theorem descendNames_long (hname : name ≠ (".." : Text)) (hlong : longestName < (encode name).length) :
    d.descendNames jump here (name :: rest) = .error .nameTooLong := by
  rw [descendNames, if_neg hname, if_pos hlong]

theorem descendNames_missing (hname : IsName name) (hget : d.get? (here ++ [name]) = none) :
    d.descendNames jump here (name :: rest) = .error .missing := by
  rw [descendNames, if_neg hname.1, if_neg (Nat.not_lt.2 hname.2), hget]

theorem descendNames_file (hname : IsName name) (hget : d.get? (here ++ [name]) = some (.file content)) :
    d.descendNames jump here (name :: rest) = .error .notDirectory := by
  rw [descendNames, if_neg hname.1, if_neg (Nat.not_lt.2 hname.2), hget]

theorem descendNames_directory (hname : IsName name) (hget : d.get? (here ++ [name]) = some .directory) :
    d.descendNames jump here (name :: rest) = d.descendNames jump (here ++ [name]) rest := by
  rw [descendNames, if_neg hname.1, if_neg (Nat.not_lt.2 hname.2), hget]

theorem descendNames_link (hname : IsName name) (hget : d.get? (here ++ [name]) = some (.link target)) :
    d.descendNames jump here (name :: rest) =
      jump (if (Path.ofText target).isAbsolute then [] else here) ((Path.ofText target).parts ++ rest) := by
  rw [descendNames, if_neg hname.1, if_neg (Nat.not_lt.2 hname.2), hget]

end Descend
end Steps

/-! ### The last name -/

/-- What a directory has under a name. -/
def lookAt (d : Disk) (name : Text) (here : Place) : Except Failure Spot :=
  if (encode name).length > longestName then .error .nameTooLong
  else
    match d.get? (here ++ [name]) with
    | none => .ok (.free (here ++ [name]))
    | some e => .ok (.found (here ++ [name]) e)

/-- A last name that is not to be followed any further. -/
def StopsAt (d : Disk) (follow : Bool) (name : Text) (here : Place) : Prop :=
  follow = false ∨ ∀ target, d.get? (here ++ [name]) ≠ some (.link target)

/-- Looking up a last name comes after following the names before it. -/
def LooksAfter (d : Disk) (follow : Bool) (name : Text) (way : Except Failure Place)
    (result : Except Failure Spot) : Prop :=
  ∀ r, way = r →
    match r with
    | .error f => result = .error f
    | .ok there => d.StopsAt follow name there → result = d.lookAt name there

theorem looksAfter_error {name : Text} {f : Failure} : d.LooksAfter follow name (.error f) (.error f) := by
  intro r he
  subst he
  rfl

theorem walkNames_last {jump : Place → List Text → Except Failure Spot} {name : Text}
    (hname : name ≠ (".." : Text)) (h : d.StopsAt follow name here) :
    d.walkNames follow jump here [name] = d.lookAt name here := by
  by_cases hlong : longestName < (encode name).length
  · rw [walkNames_long hname hlong, lookAt, if_pos hlong]
  · have hisName : IsName name := ⟨hname, Nat.le_of_not_lt hlong⟩
    rw [lookAt, if_neg hlong]
    cases hget : d.get? (here ++ [name]) with
    | none => rw [walkNames_missing hisName hget, if_pos rfl]
    | some e =>
      cases e with
      | file content => rw [walkNames_file hisName hget, if_pos rfl]
      | directory => rw [walkNames_directory hisName hget, walkNames, hget]
      | link target =>
        have hstop : follow = false := by
          cases h with
          | inl h => exact h
          | inr h => exact absurd hget (h target)
        rw [walkNames_link hisName hget, if_pos (by simp [hstop])]

theorem walkNames_concat {jump : Place → List Text → Except Failure Spot}
    {jumpTo : Place → List Text → Except Failure Place} {name : Text} (hname : name ≠ (".." : Text))
    (hjump : ∀ here names,
      d.LooksAfter follow name (jumpTo here names) (jump here (names ++ [name])))
    (here : Place) (names : List Text) :
    d.LooksAfter follow name (d.descendNames jumpTo here names)
      (d.walkNames follow jump here (names ++ [name])) := by
  induction here, names using d.names_induction with
  | nil here =>
    intro r he
    subst he
    exact fun hstop => walkNames_last hname hstop
  | dots here rest ih =>
    rw [descendNames_dots, List.cons_append, walkNames_dots]
    exact ih
  | long here first rest hfirst hlong =>
    rw [descendNames_long hfirst hlong, List.cons_append, walkNames_long hfirst hlong]
    exact looksAfter_error
  | missing here first rest hfirst hget =>
    rw [descendNames_missing hfirst hget, List.cons_append, walkNames_missing hfirst hget, if_neg (by simp)]
    exact looksAfter_error
  | file here first rest content hfirst hget =>
    rw [descendNames_file hfirst hget, List.cons_append, walkNames_file hfirst hget, if_neg (by simp)]
    exact looksAfter_error
  | directory here first rest hfirst hget ih =>
    rw [descendNames_directory hfirst hget, List.cons_append, walkNames_directory hfirst hget]
    exact ih
  | link here first rest target hfirst hget =>
    have hmore : ¬(rest ++ [name] = [] ∧ (!follow) = true) := by simp
    rw [descendNames_link hfirst hget, List.cons_append, walkNames_link hfirst hget, if_neg hmore,
      ← List.append_assoc]
    exact hjump _ _

theorem walk_concat {name : Text} (hname : name ≠ (".." : Text)) (links : Nat) (here : Place)
    (names : List Text) :
    d.LooksAfter follow name (d.descend links here names)
      (d.walk follow links here (names ++ [name])) := by
  induction links generalizing here names with
  | zero =>
    refine walkNames_concat hname ?_ here names
    intro _ _ r he
    subst he
    rfl
  | succ links ih => exact walkNames_concat hname ih here names

theorem locate_child {name : Text} (hname : name ≠ (".." : Text)) (p : Path) :
    d.locate false (p.child name) = (d.descendTo p).bind (d.lookAt name) := by
  have h := @walk_concat d false name hname mostLinks (if p.isAbsolute then [] else d.cwd) p.parts
  rw [LooksAfter] at h
  rw [descendTo]
  cases hway : d.descend mostLinks (if p.isAbsolute then [] else d.cwd) p.parts with
  | error f => exact h _ hway
  | ok there => exact h _ hway (.inl rfl)

/-- What a path names is an entry of the directory above. -/
theorem locate_child_found {p : Path} {name : Text} {q : Place} {e : Entry} (hname : name ≠ (".." : Text))
    (h : d.locate false (p.child name) = .ok (.found q e)) :
    ∃ there, d.descendTo p = .ok there ∧ (encode name).length ≤ longestName ∧ q = there ++ [name] ∧
      d.get? q = some e := by
  rw [locate_child hname] at h
  cases hway : d.descendTo p with
  | error f =>
    rw [hway] at h
    cases h
  | ok there =>
    simp only [hway, Except.bind, lookAt] at h
    by_cases hlong : (encode name).length > longestName
    · rw [if_pos hlong] at h
      cases h
    · rw [if_neg hlong] at h
      cases hget : d.get? (there ++ [name]) with
      | none =>
        rw [hget] at h
        cases h
      | some e' =>
        rw [hget] at h
        cases h
        exact ⟨there, rfl, Nat.le_of_not_lt hlong, rfl, hget⟩

/-- What a path names is free if its directory has no entry of the name. -/
theorem locate_child_free {p : Path} {name : Text} {q : Place} (hname : name ≠ (".." : Text))
    (h : d.locate false (p.child name) = .ok (.free q)) :
    ∃ there, d.descendTo p = .ok there ∧ q = there ++ [name] := by
  rw [locate_child hname] at h
  cases hway : d.descendTo p with
  | error f =>
    rw [hway] at h
    cases h
  | ok there =>
    rw [hway] at h
    change d.lookAt name there = _ at h
    rw [lookAt] at h
    split at h
    · cases h
    · split at h
      · cases h
        exact ⟨there, rfl, rfl⟩
      · cases h

theorem locate_child_error {p : Path} {name : Text} {f : Failure} (hname : name ≠ (".." : Text))
    (hway : d.descendTo p = .error f) : d.locate follow (p.child name) = .error f :=
  walk_concat hname mostLinks (if p.isAbsolute then [] else d.cwd) p.parts _ hway

theorem locate_child_followed {p : Path} {name : Text} (hname : name ≠ (".." : Text))
    (hway : d.descendTo p = .ok there) (hstop : d.StopsAt true name there) :
    d.locate true (p.child name) = d.lookAt name there :=
  walk_concat hname mostLinks (if p.isAbsolute then [] else d.cwd) p.parts _ hway hstop

/-! ### What is found is there -/

def Spot.Tells (d : Disk) : Spot → Prop
  | .found place e => d.get? place = some e
  | .free place => d.get? place = none

theorem walkNames_tells {jump : Place → List Text → Except Failure Spot}
    (hjump : ∀ here names s, jump here names = .ok s → s.Tells d) {here : Place}
    {names : List Text} {s : Spot} (h : d.walkNames follow jump here names = .ok s) : s.Tells d := by
  induction here, names using d.names_induction with
  | nil here =>
    rw [walkNames] at h
    cases hget : d.get? here with
    | none => simp [hget] at h
    | some e =>
      simp only [hget, Except.ok.injEq] at h
      subst h
      exact hget
  | dots here rest ih =>
    rw [walkNames_dots] at h
    exact ih h
  | long here name rest hname hlong =>
    rw [walkNames_long hname hlong] at h
    cases h
  | missing here name rest hname hget =>
    rw [walkNames_missing hname hget] at h
    split at h
    · cases h
      exact hget
    · cases h
  | file here name rest content hname hget =>
    rw [walkNames_file hname hget] at h
    split at h
    · cases h
      exact hget
    · cases h
  | directory here name rest hname hget ih =>
    rw [walkNames_directory hname hget] at h
    exact ih h
  | link here name rest target hname hget =>
    rw [walkNames_link hname hget] at h
    split at h
    · cases h
      exact hget
    · exact hjump _ _ _ h

theorem walk_tells {s : Spot} (h : d.walk follow links here names = .ok s) : s.Tells d := by
  induction links generalizing here names s with
  | zero => exact walkNames_tells (fun _ _ _ h => by cases h) h
  | succ links ih => exact walkNames_tells (fun _ _ _ h => ih h) h

theorem get?_of_locate_found {p : Path} {place : Place} {e : Entry}
    (h : d.locate follow p = .ok (.found place e)) : d.get? place = some e := walk_tells h

theorem get?_of_locate_free {p : Path} {place : Place} (h : d.locate follow p = .ok (.free place)) :
    d.get? place = none := walk_tells h

/-! ### Directories and files -/

theorem exists_of_entry? {p : Path} {e : Entry} (h : d.entry? p = some e) :
    ∃ place, d.locate true p = .ok (.found place e) := by
  unfold entry? at h
  split at h
  · next place e' hlocate =>
    cases h
    exact ⟨place, hlocate⟩
  · cases h

theorem exists_of_isDirectory {p : Path} (h : d.isDirectory p = true) :
    ∃ place, d.locate true p = .ok (.found place .directory) := by
  rw [isDirectory] at h
  split at h
  · next hentry => exact exists_of_entry? hentry
  · cases h

theorem exists_of_isFile {p : Path} (h : d.isFile p = true) :
    ∃ place content, d.locate true p = .ok (.found place (.file content)) := by
  rw [isFile] at h
  split at h
  · next content hentry =>
    obtain ⟨place, hlocate⟩ := exists_of_entry? hentry
    exact ⟨place, content, hlocate⟩
  · cases h

theorem isFile_of_locate {p : Path} {place : Place} {content : Bytes}
    (h : d.locate true p = .ok (.found place (.file content))) : d.isFile p = true := by
  simp [isFile, entry?, h]

theorem isDirectory_of_locate {p : Path} {place : Place}
    (h : d.locate true p = .ok (.found place .directory)) : d.isDirectory p = true := by
  simp [isDirectory, entry?, h]

/-! ### Ways to directories -/

theorem descendNames_of_walkNames {jump : Place → List Text → Except Failure Spot}
    {jumpTo : Place → List Text → Except Failure Place}
    (hjump : ∀ here names there, jump here names = .ok (.found there .directory) →
      jumpTo here names = .ok there)
    {here there : Place} {names : List Text}
    (h : d.walkNames true jump here names = .ok (.found there .directory)) :
    d.descendNames jumpTo here names = .ok there := by
  induction here, names using d.names_induction with
  | nil here =>
    rw [walkNames] at h
    cases hget : d.get? here with
    | none => simp [hget] at h
    | some e =>
      simp only [hget, Except.ok.injEq, Spot.found.injEq] at h
      rw [descendNames, h.1]
  | dots here rest ih =>
    rw [walkNames_dots] at h
    rw [descendNames_dots]
    exact ih h
  | long here name rest hname hlong =>
    rw [walkNames_long hname hlong] at h
    cases h
  | missing here name rest hname hget =>
    rw [walkNames_missing hname hget] at h
    split at h <;> cases h
  | file here name rest content hname hget =>
    rw [walkNames_file hname hget] at h
    split at h <;> cases h
  | directory here name rest hname hget ih =>
    rw [walkNames_directory hname hget] at h
    rw [descendNames_directory hname hget]
    exact ih h
  | link here name rest target hname hget =>
    rw [walkNames_followed hname hget] at h
    rw [descendNames_link hname hget]
    exact hjump _ _ _ h

theorem descend_of_walk (h : d.walk true links here names = .ok (.found there .directory)) :
    d.descend links here names = .ok there := by
  induction links generalizing here names there with
  | zero => exact descendNames_of_walkNames (fun _ _ _ h => by cases h) h
  | succ links ih => exact descendNames_of_walkNames (fun _ _ _ h => ih h) h

theorem walkNames_of_descendNames {jump : Place → List Text → Except Failure Spot}
    {jumpTo : Place → List Text → Except Failure Place} (hdir : d.get? there = some .directory)
    (hjump : ∀ here names, jumpTo here names = .ok there →
      jump here names = .ok (.found there .directory))
    {here : Place} {names : List Text} (h : d.descendNames jumpTo here names = .ok there) :
    d.walkNames true jump here names = .ok (.found there .directory) := by
  induction here, names using d.names_induction with
  | nil here =>
    cases h
    rw [walkNames, hdir]
  | dots here rest ih =>
    rw [descendNames_dots] at h
    rw [walkNames_dots]
    exact ih h
  | long here name rest hname hlong =>
    rw [descendNames_long hname hlong] at h
    cases h
  | missing here name rest hname hget =>
    rw [descendNames_missing hname hget] at h
    cases h
  | file here name rest content hname hget =>
    rw [descendNames_file hname hget] at h
    cases h
  | directory here name rest hname hget ih =>
    rw [descendNames_directory hname hget] at h
    rw [walkNames_directory hname hget]
    exact ih h
  | link here name rest target hname hget =>
    rw [descendNames_link hname hget] at h
    rw [walkNames_followed hname hget]
    exact hjump _ _ h

theorem walk_of_descend (hdir : d.get? there = some .directory) (h : d.descend links here names = .ok there) :
    d.walk true links here names = .ok (.found there .directory) := by
  induction links generalizing here names with
  | zero => exact walkNames_of_descendNames hdir (fun _ _ h => by cases h) h
  | succ links ih => exact walkNames_of_descendNames hdir (fun _ _ h => ih h) h

theorem isDirectory_of_descendTo {p : Path} (hdir : d.get? there = some .directory)
    (h : d.descendTo p = .ok there) : d.isDirectory p = true :=
  isDirectory_of_locate (walk_of_descend hdir h)

theorem exists_descendTo_of_isDirectory {p : Path} (h : d.isDirectory p = true) :
    ∃ there, d.descendTo p = .ok there := by
  obtain ⟨place, hlocate⟩ := exists_of_isDirectory h
  exact ⟨place, descend_of_walk hlocate⟩

end Disk
end Componentry.Files
