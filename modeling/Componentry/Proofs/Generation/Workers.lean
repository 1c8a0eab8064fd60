import Componentry.Generation.Run

/-!
Runs by several workers. The work on a page has stages; a worker takes a page through them, and other
workers take turns in between. A run without workers is one of these runs.
-/
namespace Componentry.Generation
open Componentry.Component Componentry.Document Componentry.Files Componentry.Text

/-- How far the work on a page has come. -/
inductive Job where
  | waiting (page : Page)
  /-- The directories for its module are there. -/
  | ready (spec : Spec) (code : Text)
  /-- The module is written, but not yet in its place. -/
  | unfinished (spec : Spec) (code : Text) (place : Place) (shown : Path)
  | ended (r : Result)

def unwritten (plan : Plan) (spec : Spec) (e : FileError) : Result :=
  .failed spec.name (.unwritten (modulePath plan spec).toText e)

/-- The next stage of the work on a page. -/
def Job.turn (l : Layout) (plan : Plan) (d : Disk) : Job → Disk × Job
  | .waiting page =>
    let spec := Spec.ofPage plan.base page
    match renderWith l spec with
    | .error f => (d, .ended (.failed spec.name (.template f)))
    | .ok code =>
      if plan.dryRun then (d, .ended (.done spec (modulePath plan spec).toText true))
      else
        match d.makeDirs (modulePath plan spec).parent with
        | (d, some e) => (d, .ended (unwritten plan spec e))
        | (d, none) => (d, .ready spec code)
  | .ready spec code =>
    match d.createTemporary (modulePath plan spec).parent (modulePath plan spec).name (encode code) with
    | .error e => (d, .ended (unwritten plan spec e))
    | .ok (d, place, shown) => (d, .unfinished spec code place shown)
  | .unfinished spec _ place shown =>
    match d.moveOver place shown (modulePath plan spec) with
    | .ok d => (d, .ended (.done spec (modulePath plan spec).toText false))
    | .error e => (d.erase place, .ended (unwritten plan spec e))
  | .ended r => (d, .ended r)

/-- The disk and the work on each page. -/
structure Works where
  disk : Disk
  jobs : List Job

/-- One turn of the job at a position. -/
def Works.step (l : Layout) (plan : Plan) (w : Works) (i : Nat) : Works :=
  match w.jobs[i]? with
  | none => w
  | some j => ⟨(j.turn l plan w.disk).1, w.jobs.set i (j.turn l plan w.disk).2⟩

/-- Turns of jobs, by their positions. -/
def Works.run (l : Layout) (plan : Plan) (w : Works) (turns : List Nat) : Works :=
  turns.foldl (Works.step l plan) w

/-- What a run ends with if turns are taken in some order: its pages are loaded, and the work on each
of them ends. -/
inductive RunsTo (templates : Option Path) (docs : Path) (names : List Text) (plan : Plan)
    (order : List Page → List Nat) (d : Disk) : Disk → Summary → Prop where
  | intro {files : List Path} {loaded : Loaded} {l : Layout} {d' : Disk} {rs : List Result}
      (found : d.documentation? docs = some files)
      (loads : (load d names files).2 = .ok loaded)
      (template : loaded.pages ≠ [] → layout d templates = .ok l)
      (works : Works.run l plan ⟨d, loaded.pages.map .waiting⟩ (order loaded.pages) =
        ⟨d', rs.map .ended⟩) :
      RunsTo templates docs names plan order d d' ⟨loaded.failures ++ rs, plan.outputDir, plan.dryRun⟩

/-! ### One job -/

variable (l : Layout) (plan : Plan)

/-- Three turns finish the work on a page. -/
theorem turn_turn_turn (page : Page) (d : Disk) :
    let w₁ := Job.turn l plan d (.waiting page)
    let w₂ := Job.turn l plan w₁.1 w₁.2
    Job.turn l plan w₂.1 w₂.2 =
      ((generate l plan page d).1, .ended (generate l plan page d).2.2) := by
  dsimp only
  simp only [Job.turn, generate]
  cases hrender : renderWith l (Spec.ofPage plan.base page) with
  | error f => rfl
  | ok code =>
    dsimp only
    rw [write]
    by_cases hdry : plan.dryRun = true
    · simp only [if_pos hdry]
    · simp only [if_neg hdry, Disk.writeWhole]
      rcases hdirs : d.makeDirs (modulePath plan (Spec.ofPage plan.base page)).parent with ⟨d₁, none | e⟩
      · dsimp only [Job.turn]
        rcases htemp : d₁.createTemporary (modulePath plan (Spec.ofPage plan.base page)).parent
            (modulePath plan (Spec.ofPage plan.base page)).name (encode code) with e | ⟨d₂, place, shown⟩
        · rfl
        · dsimp only [Job.turn]
          rcases hmove : d₂.moveOver place shown (modulePath plan (Spec.ofPage plan.base page)) with e | d₃
          · rfl
          · rfl
      · rfl

variable {l plan} in
theorem Works.step_of_turn {w : Works} {i : Nat} {j j' : Job} {d : Disk} (hj : w.jobs[i]? = some j)
    (hturn : j.turn l plan w.disk = (d, j')) : w.step l plan i = ⟨d, w.jobs.set i j'⟩ := by
  simp [Works.step, hj, hturn]

variable {l plan} in
theorem Works.step_of_none {w : Works} {i : Nat} (hj : w.jobs[i]? = none) : w.step l plan i = w := by
  simp [Works.step, hj]

variable {l plan} in
theorem Works.step_of_ended {w : Works} {i : Nat} {r : Result} (hj : w.jobs[i]? = some (.ended r)) :
    w.step l plan i = w := by
  obtain ⟨hi, hget⟩ := List.getElem?_eq_some_iff.1 hj
  rw [Works.step_of_turn hj rfl, ← hget, List.set_getElem_self]

/-! ### One page after the other -/

theorem step_at (d : Disk) (before after : List Job) (j : Job) :
    Works.step l plan ⟨d, before ++ j :: after⟩ before.length =
      ⟨(j.turn l plan d).1, before ++ (j.turn l plan d).2 :: after⟩ := by
  simp [Works.step]

theorem run_thrice (d : Disk) (before after : List Job) (page : Page) :
    Works.run l plan ⟨d, before ++ .waiting page :: after⟩
        [before.length, before.length, before.length] =
      ⟨(generate l plan page d).1, before ++ .ended (generate l plan page d).2.2 :: after⟩ := by
  have hturns := turn_turn_turn l plan page d
  simp only [Works.run, List.foldl_cons, List.foldl_nil, step_at]
  dsimp only at hturns
  rw [hturns]

/-- Each page in its turn, in the order of the positions from a first one on. -/
def inTurn (first : Nat) : List Page → List Nat
  | [] => []
  | _ :: rest => first :: first :: first :: inTurn (first + 1) rest

theorem run_inTurn (pages : List Page) (d : Disk) (before : List Job) :
    Works.run l plan ⟨d, before ++ pages.map .waiting⟩ (inTurn before.length pages) =
      ⟨(generateAll l plan pages d).1, before ++ (generateAll l plan pages d).2.2.map .ended⟩ := by
  induction pages generalizing d before with
  | nil => simp [inTurn, Works.run, generateAll]
  | cons page rest ih =>
    have hpage := run_thrice l plan d before (rest.map .waiting) page
    have hrest := ih (generate l plan page d).1 (before ++ [.ended (generate l plan page d).2.2])
    rw [List.length_append, List.length_singleton, List.append_assoc, List.singleton_append] at hrest
    have hturns : inTurn before.length (page :: rest) =
        [before.length, before.length, before.length] ++ inTurn (before.length + 1) rest := rfl
    rw [Works.run] at hpage hrest ⊢
    rw [hturns, List.map_cons, List.foldl_append, hpage, hrest]
    simp [generateAll]

theorem generatePages_eq {templates : Option Path} {l : Layout} {pages : List Page} {d : Disk}
    (h : pages ≠ [] → layout d templates = .ok l) :
    ∃ told, generatePages templates plan pages d =
      ((generateAll l plan pages d).1, told, .ok (generateAll l plan pages d).2.2) := by
  cases pages with
  | nil => exact ⟨[], rfl⟩
  | cons page rest => exact ⟨_, by rw [generatePages, h (by simp)]⟩

variable {plan} in
/-- A run without workers takes the pages one after the other. -/
theorem run_iff {templates : Option Path} {docs : Path} {names : List Text} {d d' : Disk} {s : Summary} :
    (∃ told, run templates docs names plan d = (d', told, .ok s)) ↔
      RunsTo templates docs names plan (inTurn 0) d d' s := by
  constructor
  · intro hrun
    obtain ⟨told, h⟩ := hrun
    rw [run, discover] at h
    cases hfound : d.documentation? docs with
    | none => simp [hfound] at h
    | some files =>
      simp only [hfound] at h
      rcases hload : load d names files with ⟨notices, c | loaded⟩
      · simp [hload] at h
      · simp only [hload] at h
        have hloads : (load d names files).2 = .ok loaded := by rw [hload]
        have hlayout : ∃ l, loaded.pages ≠ [] → layout d templates = .ok l := by
          cases hpages : loaded.pages with
          | nil => exact ⟨.ok [], fun hne => absurd rfl hne⟩
          | cons page rest =>
            cases hlayout : layout d templates with
            | error c => simp [hpages, generatePages, hlayout] at h
            | ok l => exact ⟨l, fun _ => rfl⟩
        obtain ⟨l, hlayout⟩ := hlayout
        obtain ⟨more, hgenerate⟩ := generatePages_eq plan hlayout
        simp only [hgenerate, Prod.mk.injEq, Except.ok.injEq] at h
        obtain ⟨rfl, -, rfl⟩ := h
        exact .intro hfound hloads hlayout (run_inTurn l plan loaded.pages d [])
  · intro h
    obtain @⟨files, loaded, l, _, rs, hfound, hloads, hlayout, hworks⟩ := h
    obtain ⟨more, hgenerate⟩ := generatePages_eq plan hlayout
    have hjobs := (run_inTurn l plan loaded.pages d []).symm.trans hworks
    simp only [List.nil_append, Works.mk.injEq] at hjobs
    obtain ⟨rfl, hended⟩ := hjobs
    have hrs : (generateAll l plan loaded.pages d).2.2 = rs :=
      (List.map_inj_right fun _ _ he => Job.ended.inj he).1 hended
    rw [run, discover]
    rcases hload : load d names files with ⟨notices, c | loaded'⟩
    · rw [hload] at hloads
      cases hloads
    · rw [hload] at hloads
      cases hloads
      simp only [hfound, hload, hgenerate, hrs]
      exact ⟨_, rfl⟩

/-- A run comes to a summary, and `p` holds of it and of the disk then. -/
def endedWith (p : Disk → Summary → Bool) : Disk × List Notice × Except Halt Summary → Bool
  | (d, _, .ok s) => p d s
  | _ => false

/-- A run that is known, by evaluation, to end with a summary. -/
theorem exists_of_ended {x : Disk × List Notice × Except Halt Summary} {P : Disk → Summary → Prop}
    [∀ d s, Decidable (P d s)] (h : endedWith (fun d s => decide (P d s)) x = true) :
    ∃ d told s, x = (d, told, .ok s) ∧ P d s := by
  obtain ⟨d, told, h' | s⟩ := x
  · cases h
  · exact ⟨d, told, s, rfl, of_decide_eq_true h⟩

end Componentry.Generation
