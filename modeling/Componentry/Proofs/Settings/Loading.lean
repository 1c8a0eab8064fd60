import Componentry.Settings.Config
import Componentry.Proofs.Files.RealPath
import Componentry.Proofs.Yaml.FaultyScalars

/-!
What comes of loading the settings file of a project, whatever its bytes: settings that can be used, a
refusal, or a crash. It crashes if the bytes are no text, if a scalar has the form of its kind but stands
for nothing of that kind, or if a setting is a number too long to be made a text of.
-/
namespace Componentry.Settings
open Componentry.Files Componentry.Text

variable {root : Path} {es : Entries} {s : Settings} {c : Crash} {why : Refusal}

/-! ### The entries of the file -/

/-- The number of workers is refused. -/
def RefusesWorkers (es : Entries) : Prop := ∃ n, (lookup es "workers").asInt = some n ∧ n < 1

/-- A number of too many digits stands where a text is wanted, and is met before the workers are refused. -/
def MeetsLong (es : Entries) : Prop :=
  (∃ key ∈ pathKeys, isLong es key = true) ∨
    ¬RefusesWorkers es ∧
      ((∃ key ∈ textKeys, isLong es key = true) ∨ (lookup es "components").holdsLong = true)

/-- Settings that a run can start from. -/
structure Usable (s : Settings) : Prop where
  workers : 1 ≤ s.workers
  repository : s.repository ≠ []

theorem given?_ne_nil {v : Value} : given? v ≠ some [] := by
  intro h
  rw [given?] at h
  cases htext : v.asText with
  | none =>
    rw [htext] at h
    cases h
  | some t =>
    rw [htext] at h
    cases t with
    | nil => cases h
    | cons x t => cases h

theorem defaultRepository_ne_nil : defaultRepository ≠ [] := by
  intro h
  have hlength := congrArg List.length h
  revert hlength
  decide

theorem any_workers_iff :
    ((lookup es "workers").asInt.any fun n => decide (n < 1)) = true ↔ RefusesWorkers es := by
  rw [Option.any_eq_true]
  simp only [decide_eq_true_eq, RefusesWorkers]

theorem one_le_workers (h : ¬RefusesWorkers es) : 1 ≤ (lookup es "workers").asInt.getD 1 := by
  cases hworkers : (lookup es "workers").asInt with
  | none => simp
  | some n =>
    by_contra hsmall
    exact h ⟨n, hworkers, by simpa using hsmall⟩

theorem getD_given?_ne_nil (v : Value) : (given? v).getD defaultRepository ≠ [] := by
  cases h : given? v with
  | none => exact defaultRepository_ne_nil
  | some t =>
    intro hnil
    exact given?_ne_nil (h.trans (congrArg some hnil))

/-- What comes of the entries of a settings file. -/
theorem ofEntries_cases (root : Path) (es : Entries) :
    (MeetsLong es ∧ ofEntries root es = .error tooLong) ∨
      (¬MeetsLong es ∧ RefusesWorkers es ∧ ofEntries root es = .error (.refused .workers)) ∨
      (¬MeetsLong es ∧ ∃ s, ofEntries root es = .ok s ∧ Usable s) := by
  have hpaths : pathKeys.any (isLong es) = true ↔ ∃ key ∈ pathKeys, isLong es key = true :=
    List.any_eq_true
  have htexts : (textKeys.any (isLong es) || (lookup es "components").holdsLong) = true ↔
      (∃ key ∈ textKeys, isLong es key = true) ∨ (lookup es "components").holdsLong = true := by
    rw [Bool.or_eq_true, List.any_eq_true]
  rw [ofEntries]
  by_cases hpath : ∃ key ∈ pathKeys, isLong es key = true
  · exact .inl ⟨.inl hpath, if_pos (hpaths.2 hpath)⟩
  · rw [if_neg (mt hpaths.1 hpath)]
    by_cases hworkers : RefusesWorkers es
    · refine .inr (.inl ⟨?_, hworkers, if_pos (any_workers_iff.2 hworkers)⟩)
      rintro (h | ⟨h, -⟩)
      · exact hpath h
      · exact h hworkers
    · rw [if_neg (mt any_workers_iff.1 hworkers)]
      by_cases hlong : (∃ key ∈ textKeys, isLong es key = true) ∨ (lookup es "components").holdsLong = true
      · exact .inl ⟨.inr ⟨hworkers, hlong⟩, if_pos (htexts.2 hlong)⟩
      · refine .inr (.inr ⟨?_, _, if_neg (mt htexts.1 hlong), one_le_workers hworkers, getD_given?_ne_nil _⟩)
        rintro (h | ⟨-, h⟩)
        · exact hpath h
        · exact hlong h

/-! ### The text of the file -/

theorem lookup_nil (key : Text) : lookup [] key = .null := rfl

theorem not_meetsLong_nil : ¬MeetsLong [] := by
  have hnone (key : Text) : isLong [] key ≠ true := by
    rw [isLong, lookup_nil]
    exact Bool.false_ne_true
  rintro (⟨key, -, h⟩ | ⟨-, ⟨key, -, h⟩ | h⟩)
  · exact hnone key h
  · exact hnone key h
  · rw [lookup_nil] at h
    exact Bool.false_ne_true h

/-- The text of a settings file, with its line ends made line feeds. -/
def textOf (content : Bytes) : Except Malformed Text := (decode content).map normaliseLineEnds

/-- The crash that the bytes of a settings file lead to. -/
inductive Escapes (content : Bytes) : Crash → Prop
  | malformed {m : Malformed} (htext : textOf content = .error m) : Escapes content (.malformed m)
  | scalar {t : Text} {why : Yaml.ScalarFault} (htext : textOf content = .ok t) (hblank : allBlank t = false)
    (hload : Yaml.load t = .error (.scalar why)) : Escapes content (.setting why)
  | long {t : Text} {es : Entries} (htext : textOf content = .ok t) (hblank : allBlank t = false)
    (hload : Yaml.load t = .ok (.map es)) (hlong : MeetsLong es) : Escapes content (.setting .longText)

/-- Settings can be used if there are any, and there is a crash exactly if `crashes` holds. -/
structure Outcome (r : Except Fault Settings) (crashes : Crash → Prop) : Prop where
  usable : ∀ s, r = .ok s → Usable s
  crashed_iff : ∀ c, r = .error (.crashed c) ↔ crashes c

namespace Outcome
variable {r : Except Fault Settings} {crashes crashes' : Crash → Prop}

theorem ok (hs : Usable s) : Outcome (.ok s) fun _ => False where
  usable t ht := by
    cases ht
    exact hs
  crashed_iff c := iff_of_false nofun id

theorem refused (why : Refusal) : Outcome (.error (.refused why)) fun _ => False where
  usable t ht := by cases ht
  crashed_iff c := iff_of_false nofun id

theorem crashed (c : Crash) : Outcome (.error (.crashed c)) (· = c) where
  usable t ht := by cases ht
  crashed_iff c' := by
    constructor
    · intro h
      cases h
      rfl
    · rintro rfl
      rfl

theorem congr (h : Outcome r crashes) (hiff : ∀ c, crashes c ↔ crashes' c) : Outcome r crashes' where
  usable := h.usable
  crashed_iff c := (h.crashed_iff c).trans (hiff c)

end Outcome

theorem outcome_ofEntries (root : Path) (es : Entries) :
    Outcome (ofEntries root es) fun c => MeetsLong es ∧ c = .setting .longText := by
  obtain ⟨hlong, h⟩ | ⟨hlong, -, h⟩ | ⟨hlong, s, h, hs⟩ := ofEntries_cases root es
  · rw [h]
    exact (Outcome.crashed _).congr fun c => by simp [hlong]
  · rw [h]
    exact (Outcome.refused _).congr fun c => by simp [hlong]
  · rw [h]
    exact (Outcome.ok hs).congr fun c => by simp [hlong]

theorem outcome_ofEntries_nil (root : Path) : Outcome (ofEntries root []) fun _ => False :=
  (outcome_ofEntries root []).congr fun c => by simp [not_meetsLong_nil]

theorem outcome_ofText (root : Path) (name t : Text) :
    Outcome (ofText root name t) fun c => allBlank t = false ∧
      ((∃ why, Yaml.load t = .error (.scalar why) ∧ c = .setting why) ∨
        ∃ es, Yaml.load t = .ok (.map es) ∧ MeetsLong es ∧ c = .setting .longText) := by
  rw [ofText]
  cases hblank : allBlank t with
  | true => exact (outcome_ofEntries_nil root).congr fun c => by simp
  | false =>
    cases hload : Yaml.load t with
    | ok v =>
      cases v with
      | map es => exact (outcome_ofEntries root es).congr fun c => by simp
      | null => exact (outcome_ofEntries_nil root).congr fun c => by simp
      | _ => exact (Outcome.refused .notMap).congr fun c => by simp
    | error f =>
      cases f with
      | scalar why => exact (Outcome.crashed _).congr fun c => by simp
      | _ => exact (Outcome.refused _).congr fun c => by simp

/-! ### The file -/

/-- The settings that the bytes of a file give. -/
def ofContent (root : Path) (name : Text) (content : Bytes) : Except Fault Settings :=
  match textOf content with
  | .error m => .error (.crashed (.malformed m))
  | .ok t => ofText root name t

theorem outcome_ofContent (root : Path) (name : Text) (content : Bytes) :
    Outcome (ofContent root name content) (Escapes content) := by
  rw [ofContent]
  cases htext : textOf content with
  | error m =>
    refine (Outcome.crashed _).congr fun c => ⟨?_, fun hc => ?_⟩
    · rintro rfl
      exact .malformed htext
    · cases hc with
      | malformed h =>
        rw [htext] at h
        cases h
        rfl
      | scalar h | long h =>
        rw [htext] at h
        cases h
  | ok t =>
    refine (outcome_ofText root name t).congr fun c => ⟨?_, fun hc => ?_⟩
    · rintro ⟨hblank, ⟨why, hload, rfl⟩ | ⟨es, hload, hlong, rfl⟩⟩
      · exact .scalar htext hblank hload
      · exact .long htext hblank hload hlong
    · cases hc with
      | malformed h =>
        rw [htext] at h
        cases h
      | scalar h hblank hload =>
        rw [htext] at h
        cases h
        exact ⟨hblank, .inl ⟨_, hload, rfl⟩⟩
      | long h hblank hload hlong =>
        rw [htext] at h
        cases h
        exact ⟨hblank, .inr ⟨_, hload, hlong, rfl⟩⟩

variable {d : Disk} {p q : Path} {content : Bytes}

/-- The file in which settings are looked for at a path. -/
def fileAt (d : Disk) (p : Path) : Path := if d.isDirectory p then p.child fileName else p

theorem read_ofPlace (htree : d.IsTree) {place : Place} {name : Text}
    (hget : d.get? (place ++ [name]) = some (.file content)) (root : Path) :
    read d root (Disk.ofPlace (place ++ [name])) = ofContent root name content := by
  have hlocate := Disk.locate_ofPlace_file htree hget
  have hpresent : d.present (Disk.ofPlace (place ++ [name])) = true := by
    rw [Disk.present, Disk.entry?, hlocate]
    rfl
  have hname : (Disk.ofPlace (place ++ [name])).name = name := by
    simp [Disk.ofPlace, Path.name]
  have hbytes : d.readBytes (Disk.ofPlace (place ++ [name])) = .ok content := by
    rw [Disk.readBytes, hlocate]
  rw [read, if_pos hpresent, Disk.readText, hbytes, hname, ofContent, textOf]
  dsimp only
  cases decode content with
  | error m => rfl
  | ok s => rfl

/-- Settings are those of the bytes in the file that their path names. -/
theorem exists_load_eq (htree : d.IsTree) (hhome : expandHome d p = .ok q)
    (hfile : d.readBytes (fileAt d q) = .ok content) :
    ∃ root name, load d p = ofContent root name content := by
  obtain ⟨place, name, hreal, hget⟩ := Disk.realPath_of_readBytes hfile
  have habove : d.get? place = some .directory := by
    have hparent := htree.parent hget
    rwa [List.dropLast_concat] at hparent
  have hlocate : locate d p = .ok (Disk.ofPlace (place ++ [name])) := by
    rw [fileAt] at hreal
    rw [locate, hhome]
    simp only [bind, Except.bind, hreal]
  have hroot : d.realPath (Disk.ofPlace (place ++ [name])).parent = .ok (Disk.ofPlace place) := by
    have hparent : (Disk.ofPlace (place ++ [name])).parent = Disk.ofPlace place := by
      simp [Disk.ofPlace, Path.parent]
    rw [hparent, Disk.realPath, Disk.realPlace, Disk.locate_ofPlace_directory htree habove]
    rfl
  refine ⟨Disk.ofPlace place, name, ?_⟩
  rw [load, hlocate]
  simp only [hroot]
  exact read_ofPlace htree hget _

/-- A settings file does not crash the loading if it is text, its document can be read to the end and holds
no faulty scalar, and no number of too many digits is met. -/
theorem load_of_sound (htree : d.IsTree) (hhome : expandHome d p = .ok q)
    (hfile : d.readBytes (fileAt d q) = .ok content) {t : Text} (htext : textOf content = .ok t)
    (hread : ∀ why, Yaml.document (Yaml.tokens t) ≠ .error (.scalar why))
    (hsound : ∀ n why, Yaml.document (Yaml.tokens t) = .ok (some n) → ¬n.HoldsFaulty why)
    (hshort : ∀ es, Yaml.load t = .ok (.map es) → ¬MeetsLong es) :
    ∀ c, load d p ≠ .error (.crashed c) := by
  intro c hcrash
  obtain ⟨root, name, hload⟩ := exists_load_eq htree hhome hfile
  rw [hload] at hcrash
  cases ((outcome_ofContent root name content).crashed_iff c).1 hcrash with
  | malformed h =>
    rw [htext] at h
    cases h
  | scalar h hblank hscalar =>
    rw [htext] at h
    cases h
    obtain hbroken | ⟨n, hn, hfaulty⟩ := Yaml.load_eq_scalar hscalar
    · exact hread _ hbroken
    · exact hsound n _ hn hfaulty
  | long h hblank hmap hlong =>
    rw [htext] at h
    cases h
    exact hshort _ hmap hlong

/-- Whatever bytes a settings file holds, loading it gives settings with a worker and a repository, refuses
the file, or crashes, and it crashes exactly on the bytes that `Escapes` describes. -/
theorem load_crashes_iff (htree : d.IsTree) (hhome : expandHome d p = .ok q)
    (hfile : d.readBytes (fileAt d q) = .ok content) :
    (∀ s, load d p = .ok s → 1 ≤ s.workers ∧ s.repository ≠ []) ∧
      ∀ c, load d p = .error (.crashed c) ↔ Escapes content c := by
  obtain ⟨root, name, hload⟩ := exists_load_eq htree hhome hfile
  have h := outcome_ofContent root name content
  rw [hload]
  exact ⟨fun s hs => ⟨(h.usable s hs).workers, (h.usable s hs).repository⟩, h.crashed_iff⟩

/-- A project with the given bytes in its settings file. -/
def projectWith (content : Bytes) : Disk := ⟨[([fileName], .file content)], [], "/"⟩

/-- The scalar fault that a text has instead of a value. -/
def scalarFault? (r : Except Yaml.Fault Value) : Option Yaml.ScalarFault :=
  match r with
  | .error (.scalar why) => some why
  | _ => none

theorem eq_of_scalarFault? {r : Except Yaml.Fault Value} {why : Yaml.ScalarFault}
    (h : scalarFault? r = some why) : r = .error (.scalar why) := by
  unfold scalarFault? at h
  split at h
  · cases h
    rfl
  · cases h

/-- A day in a thirteenth month. -/
def unreadableDay : Text := "workers: 2024-13-01"

theorem load_crashes_iff_unreadableDay :
    (projectWith (encode unreadableDay)).IsTree ∧
      load (projectWith (encode unreadableDay)) ⟨[], []⟩ = .error (.crashed (.setting (.time .month))) := by
  have htree : (projectWith (encode unreadableDay)).IsTree := by decide
  have htext : textOf (encode unreadableDay) = .ok unreadableDay := by decide
  have hday : scalarFault? (Yaml.load unreadableDay) = some (.time .month) := by decide +kernel
  have h := load_crashes_iff (p := ⟨[], []⟩) htree rfl rfl
  exact ⟨htree, (h.2 _).2 (.scalar htext (by decide) (eq_of_scalarFault? hday))⟩

/-- Bytes that are no text crash the loading as well. -/
theorem load_escapes : ¬∀ (d : Disk) (p q : Path) (content : Bytes), d.IsTree → expandHome d p = .ok q →
    d.readBytes (fileAt d q) = .ok content →
      (∃ s, load d p = .ok s ∧ Usable s) ∨ ∃ why, load d p = .error (.refused why) := by
  intro h
  have htree : (projectWith [0xff]).IsTree := by decide
  obtain ⟨m, hload⟩ : ∃ m, load (projectWith [0xff]) ⟨[], []⟩ = .error (.crashed (.malformed m)) := ⟨_, rfl⟩
  obtain ⟨s, hs, -⟩ | ⟨why, hwhy⟩ := h (projectWith [0xff]) ⟨[], []⟩ ⟨[], []⟩ [0xff] htree rfl rfl
  · rw [hload] at hs
    cases hs
  · rw [hload] at hwhy
    cases hwhy

end Componentry.Settings
