import Componentry.Generation.Source
import Componentry.Proofs.Files.Listing

/-!
What is loaded from files: each file contributes a page, a failure or nothing, and only a numeral that is
too long ends the loading.
-/
namespace Componentry.Generation
open Componentry.Component Componentry.Document Componentry.Files Componentry.Markup Componentry.Text

variable {d d' : Disk} {file : Path}

/-- The page that a file contributes. -/
def page? (d : Disk) (file : Path) : Option Page :=
  match (examine d file).2 with
  | .ok (.page p) => some p
  | _ => none

/-- The error result that a file contributes. -/
def failure? (d : Disk) (file : Path) : Option Result :=
  match (examine d file).2 with
  | .ok (.failed component why) => some (.failed component why)
  | _ => none

/-- The first block of the page that cannot be read has a decimal reference with too many digits. -/
def HasLongNumber (d : Disk) (file : Path) : Prop :=
  ∃ shown s f digits, d.shownPath file = .ok shown ∧ d.readText file = .ok s ∧
    examples shown (lines s) = .error f ∧ f.why = .longNumber digits

/-! ### Reading a file -/

theorem shownPath_of_isFile (h : d.isFile file = true) : ∃ shown, d.shownPath file = .ok shown := by
  obtain ⟨place, content, hplace⟩ := Disk.exists_of_isFile h
  rw [Disk.shownPath, Disk.realPlace]
  rw [hplace]
  exact ⟨_, rfl⟩

theorem examples_eq (shown : Text) (ls : List Text) :
    examples shown ls =
      match (verdicts shown (blocks ls)).2 with
      | some f => .error f
      | none => .ok ((verdicts shown (blocks ls)).1.filterMap Verdict.example?) := by
  rw [examples]
  obtain ⟨vs, none | f⟩ := verdicts shown (blocks ls)
  · rfl
  · rfl

theorem extract_eq {shown s : Text} (hshown : d.shownPath file = .ok shown)
    (hread : d.readText file = .ok s) :
    (extract d file).2 =
      match examples shown (lines s) with
      | .error f => .error (.markup f)
      | .ok es => .ok (Page.ofExamples? shown es) := by
  rw [extract]
  rw [examples_eq]
  simp only [hshown, hread]
  cases (verdicts shown (blocks (lines s))).2 <;> rfl

theorem extract_unreadable {shown : Text} {e : ReadError} (hshown : d.shownPath file = .ok shown)
    (hread : d.readText file = .error e) : (extract d file).2 = .error (.unreadable e) := by
  rw [extract]
  rw [hshown]
  dsimp only
  rw [hread]

/-- What a file contributes, by what was extracted from it. -/
theorem examine_eq (d : Disk) (file : Path) :
    (examine d file).2 =
      match (extract d file).2 with
      | .ok (some p) => .ok (.page p)
      | .ok none => .ok .empty
      | .error t =>
        match t.crash?, t with
        | some c, _ => .error c
        | none, .markup f => .ok (.failed (nameOfPath file.toText) (.markup f))
        | none, .unreadable e => .ok (.failed (nameOfPath file.toText) (.unreadable file.toText e))
        | none, .loop l => .error (.loop l) := by
  rw [examine]
  obtain ⟨notices, t | none | p⟩ := extract d file
  · dsimp only
    cases hcrash : t.crash? with
    | some c => rfl
    | none => cases t <;> rfl
  · rfl
  · rfl

theorem crash?_markup {f : Fault} :
    (Trouble.markup f).crash? ≠ none ↔ ∃ digits, f.why = .longNumber digits := by
  cases hwhy : f.why <;> simp [Trouble.crash?, hwhy]

/-- Only a numeral that is too long keeps a file from contributing. -/
theorem examine_error_iff (h : d.isFile file = true) :
    (∃ c, (examine d file).2 = .error c) ↔ HasLongNumber d file := by
  obtain ⟨shown, hshown⟩ := shownPath_of_isFile h
  rw [examine_eq]
  constructor
  · intro herror
    obtain ⟨c, hc⟩ := herror
    cases hread : d.readText file with
    | error e =>
      rw [extract_unreadable hshown hread] at hc
      cases hc
    | ok s =>
      rw [extract_eq hshown hread] at hc
      cases hexamples : examples shown (lines s) with
      | ok es =>
        simp only [hexamples] at hc
        split at hc
        · cases hc
        · cases hc
        · next he => cases he
      | error f =>
        simp only [hexamples] at hc
        by_cases hcrash : (Trouble.markup f).crash? = none
        · simp [hcrash] at hc
        · obtain ⟨digits, hwhy⟩ := crash?_markup.1 hcrash
          exact ⟨shown, s, f, digits, hshown, hread, hexamples, hwhy⟩
  · intro hlong
    obtain ⟨shown', s, f, digits, hshown', hread, hexamples, hwhy⟩ := hlong
    rw [extract_eq hshown' hread, hexamples]
    obtain ⟨c, hcrash⟩ := Option.ne_none_iff_exists'.1 (crash?_markup.2 ⟨digits, hwhy⟩)
    exact ⟨c, by simp [hcrash]⟩

/-! ### Loading files -/

theorem loadAll_eq_ok_iff {files : List Path} {loaded : Loaded} :
    (loadAll d files).2 = .ok loaded ↔
      (∀ file ∈ files, ∀ c, (examine d file).2 ≠ .error c) ∧
        loaded = ⟨files.filterMap (page? d), files.filterMap (failure? d)⟩ := by
  induction files generalizing loaded with
  | nil =>
    simp only [loadAll, Except.ok.injEq, List.not_mem_nil, List.filterMap_nil]
    constructor
    · intro he
      subst he
      exact ⟨fun _ h => absurd h (by simp), rfl⟩
    · intro hloaded
      obtain ⟨-, rfl⟩ := hloaded
      rfl
  | cons file rest ih =>
    rw [loadAll]
    rcases hexamine : examine d file with ⟨notices, c | source⟩
    · constructor
      · intro h
        cases h
      · intro hloaded
        obtain ⟨hall, -⟩ := hloaded
        exact absurd (by rw [hexamine]) (hall file List.mem_cons_self c)
    · have hsource : (examine d file).2 = .ok source := by rw [hexamine]
      have hcons : Loaded.cons source ⟨rest.filterMap (page? d), rest.filterMap (failure? d)⟩ =
          ⟨(file :: rest).filterMap (page? d), (file :: rest).filterMap (failure? d)⟩ := by
        cases source <;> simp [Loaded.cons, page?, failure?, hsource]
      constructor
      · intro h
        cases hrest : (loadAll d rest).2 with
        | error c => simp [hrest, Except.map] at h
        | ok others =>
          obtain ⟨hall, rfl⟩ := ih.1 hrest
          simp only [hrest, Except.map, Except.ok.injEq] at h
          refine ⟨?_, by rw [← h, hcons]⟩
          intro other hother c hc
          cases hother with
          | head =>
            rw [hsource] at hc
            cases hc
          | tail _ hother => exact hall other hother c hc
      · intro hloaded
        obtain ⟨hall, rfl⟩ := hloaded
        have hrest := ih.2 ⟨fun other hother => hall other (List.mem_cons_of_mem file hother), rfl⟩
        simp only [hrest, Except.map, hcons]

theorem isDone_of_failure? {r : Result} (h : failure? d file = some r) : r.isDone = false := by
  rw [failure?] at h
  split at h
  · cases h
    rfl
  · cases h

theorem extract_of_page? {p : Page} (h : page? d file = some p) : (extract d file).2 = .ok (some p) := by
  rw [page?] at h
  rw [examine_eq] at h
  cases hextract : (extract d file).2 with
  | error t =>
    rw [hextract] at h
    cases hcrash : t.crash? with
    | some c => simp [hcrash] at h
    | none => cases t <;> simp [hcrash] at h
  | ok found =>
    rw [hextract] at h
    cases found with
    | none => cases h
    | some p' =>
      cases h
      rfl

/-! ### The files of a run -/

/-- The documentation files that a run reads. -/
def selected (d : Disk) (docs : Path) (names : List Text) : List Path :=
  ((d.documentation? docs).getD []).filter (isSelected names)

variable {docs : Path} {names : List Text}

theorem exists_of_mem_selected (h : file ∈ selected d docs names) :
    d.isFile file = true ∧ ∃ (p : Path) (name : Text), file = p.child name ∧ name ≠ (".." : Text) ∧
      endsWith documentationEnd name = true := by
  rw [selected] at h
  cases hfound : d.documentation? docs with
  | none =>
    rw [hfound] at h
    cases h
  | some files =>
    rw [hfound] at h
    obtain ⟨hfile, p, name, hchild, hend⟩ := Disk.exists_of_mem_documentation hfound (List.mem_filter.1 h).1
    refine ⟨hfile, p, name, hchild, ?_, hend⟩
    intro he
    subst he
    exact absurd hend (by decide)

theorem documentation?_of_isDirectory (h : d.isDirectory docs = true) :
    ∃ files, d.documentation? docs = some files := by
  obtain ⟨place, hlocate⟩ := Disk.exists_of_isDirectory h
  exact ⟨_, Disk.documentation?_eq_some.2 ⟨place, hlocate, rfl⟩⟩

theorem selected_eq {files : List Path} (hfound : d.documentation? docs = some files) :
    selected d docs names = files.filter (isSelected names) := by
  rw [selected, hfound, Option.getD_some]

theorem loaded_eq {files : List Path} {loaded : Loaded} (hfound : d.documentation? docs = some files)
    (hloads : (load d names files).2 = .ok loaded) :
    loaded = ⟨(selected d docs names).filterMap (page? d), (selected d docs names).filterMap (failure? d)⟩ := by
  rw [selected_eq hfound]
  exact (loadAll_eq_ok_iff.1 hloads).2

/-- All files are loaded if none has a numeral that is too long. -/
theorem load_selected {files : List Path} (hfound : d.documentation? docs = some files)
    (hshort : ∀ file ∈ selected d docs names, ¬HasLongNumber d file) :
    (load d names files).2 =
      .ok ⟨(selected d docs names).filterMap (page? d), (selected d docs names).filterMap (failure? d)⟩ := by
  rw [load]
  rw [← selected_eq hfound]
  refine loadAll_eq_ok_iff.2 ⟨?_, rfl⟩
  intro file hfile c hc
  exact hshort file hfile ((examine_error_iff (exists_of_mem_selected hfile).1).1 ⟨c, hc⟩)

/-- A file from which nothing can be extracted fails as its own component. -/
theorem failure?_of_extract_error {t : Trouble} (h : (extract d file).2 = .error t)
    (hexamine : ∀ c, (examine d file).2 ≠ .error c) :
    ∃ why, failure? d file = some (.failed (nameOfPath file.toText) why) := by
  rw [failure?]
  rw [examine_eq, h] at hexamine ⊢
  cases hcrash : t.crash? with
  | some c => exact absurd (by simp [hcrash]) (hexamine c)
  | none =>
    cases t with
    | loop lp => exact absurd hcrash (by simp [Trouble.crash?])
    | unreadable e => exact ⟨_, rfl⟩
    | markup f =>
      dsimp only
      rw [hcrash]
      exact ⟨_, rfl⟩

/-! ### The same file on another disk, or by another name -/

theorem examine_congr (hcwd : d'.cwd = d.cwd) {place : Place} {e : Entry}
    (h : d.locate true file = .ok (.found place e)) (h' : d'.locate true file = .ok (.found place e)) :
    examine d' file = examine d file := by
  have hshown : d'.shownPath file = d.shownPath file := by
    simp only [Disk.shownPath, Disk.realPlace, Disk.relative?, h, h', hcwd]
  have hread : d'.readText file = d.readText file := by
    simp only [Disk.readText, Disk.readBytes, h, h']
  have hextract : extract d' file = extract d file := by
    simp only [extract, hshown, hread]
  simp only [examine, hextract]

/-- Why a reading failed, if it did. -/
def why? {α : Type} : Except Fault α → Option Rejection
  | .error f => some f.why
  | .ok _ => none

/-- Why a block cannot be read does not depend on the path that is shown. -/
theorem verdict_why (path path' : Text) (b : Block) : why? (b.verdict path) = why? (b.verdict path') := by
  unfold Block.verdict
  cases b.title with
  | none => rfl
  | some title =>
    dsimp only
    by_cases hblank : allBlank b.body = true
    · rw [if_pos hblank, if_pos hblank]
    · rw [if_neg hblank, if_neg hblank]
      unfold parseMarkup
      cases parse b.body <;> rfl

theorem verdicts_why (path path' : Text) (bs : List Block) :
    (verdicts path bs).2.map Fault.why = (verdicts path' bs).2.map Fault.why := by
  induction bs with
  | nil => rfl
  | cons b bs ih =>
    have hb := verdict_why path path' b
    unfold verdicts
    cases hv : b.verdict path with
    | error f =>
      cases hv' : b.verdict path' with
      | error f' => simpa [hv, hv', why?] using hb
      | ok v' => simp [hv, hv', why?] at hb
    | ok v =>
      cases hv' : b.verdict path' with
      | error f' => simp [hv, hv', why?] at hb
      | ok v' => exact ih

theorem examples_why (path path' : Text) (ls : List Text) :
    why? (examples path ls) = why? (examples path' ls) := by
  have hwhy := verdicts_why path path' (blocks ls)
  rw [examples_eq, examples_eq]
  cases hv : (verdicts path (blocks ls)).2 with
  | none =>
    cases hv' : (verdicts path' (blocks ls)).2 with
    | none => rfl
    | some f' => simp [hv, hv'] at hwhy
  | some f =>
    cases hv' : (verdicts path' (blocks ls)).2 with
    | none => simp [hv, hv'] at hwhy
    | some f' => simpa [hv, hv', why?] using hwhy

/-- Another path to a file that fails has no page either. -/
theorem page?_eq_none_of_failure? {other : Path} (hfile : d.isFile file = true)
    (hsame : d.locate true other = d.locate true file) {r : Result} (h : failure? d file = some r) :
    page? d other = none := by
  have hother : d.isFile other = true := by
    obtain ⟨place, content, hplace⟩ := Disk.exists_of_isFile hfile
    exact Disk.isFile_of_locate (hsame.trans hplace)
  obtain ⟨shown, hshown⟩ := shownPath_of_isFile hfile
  obtain ⟨shown', hshown'⟩ := shownPath_of_isFile hother
  cases hpage : page? d other with
  | none => rfl
  | some p =>
    exfalso
    have hextract := extract_of_page? hpage
    cases hread : d.readText other with
    | error e =>
      rw [extract_unreadable hshown' hread] at hextract
      cases hextract
    | ok s =>
      have hread' : d.readText file = .ok s := by
        obtain ⟨place, content, hplace⟩ := Disk.exists_of_isFile hfile
        rw [hplace] at hsame
        simpa only [Disk.readText, Disk.readBytes, hsame, hplace] using hread
      rw [extract_eq hshown' hread] at hextract
      have hwhy := examples_why shown' shown (lines s)
      cases hexamples : examples shown' (lines s) with
      | error f =>
        rw [hexamples] at hextract
        cases hextract
      | ok es =>
        rw [hexamples] at hwhy
        cases hexamples' : examples shown (lines s) with
        | error f => simp [hexamples', why?] at hwhy
        | ok es' =>
          -- then the file has a page or nothing, but no failure
          rw [failure?] at h
          rw [examine_eq, extract_eq hshown hread', hexamples'] at h
          cases hfound : Page.ofExamples? shown es' <;> simp [hfound] at h

end Componentry.Generation
