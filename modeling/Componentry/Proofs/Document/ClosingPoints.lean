import Componentry.Document.Fence
import Mathlib.Data.List.Basic
import Mathlib.Data.List.Induction

/-!
The examples of a page described by positions: where blocks close, which title is in force there and
which lines lie between. Main statement: the scan finds exactly what the description says.
-/
namespace Componentry.Document
open Componentry.Text Componentry.Markup

/-! ### The description -/

def kindAt? (lines : List Text) (i : Nat) : Option LineKind :=
  lines[i]?.map fun l => LineKind.ofLine (chomp l)

/-- Some opening line before `c` has no closing line between itself and `c`. -/
def OpenBefore (lines : List Text) (c : Nat) : Prop :=
  ∃ o < c, kindAt? lines o = some .opening ∧ ∀ j < c, o < j → kindAt? lines j ≠ some .closing

instance (lines : List Text) (c : Nat) : Decidable (OpenBefore lines c) := by
  unfold OpenBefore; infer_instance

/-- A closing line, or the end of the page, where a block is open. -/
def ClosesAt (lines : List Text) (c : Nat) : Prop :=
  (kindAt? lines c = some .closing ∨ c = lines.length) ∧ OpenBefore lines c

instance (lines : List Text) (c : Nat) : Decidable (ClosesAt lines c) := by
  unfold ClosesAt; infer_instance

def closingPoints (lines : List Text) : List Nat :=
  (List.range (lines.length + 1)).filter (ClosesAt lines ·)

def LineKind.title? : LineKind → Option Text
  | .title s => some s
  | _ => none

/-- The title of the last title line before `c`. -/
def titleBefore? (lines : List Text) (c : Nat) : Option Text :=
  ((List.range c).filterMap fun i => (kindAt? lines i).bind LineKind.title?).getLast?

def lastOpening? (lines : List Text) (c : Nat) : Option Nat :=
  ((List.range c).filter fun i => kindAt? lines i = some .opening).getLast?

/-- The lines between the last opening line before `c` and `c`, titles left out. -/
def contentBefore (lines : List Text) (c : Nat) : List Text :=
  match lastOpening? lines c with
  | some o =>
    (((lines.take c).drop (o + 1)).map chomp).filter fun l => (LineKind.ofLine l).title?.isNone
  | none => []

/-- Title and text of the block that closes at `c`, unless it is untitled or blank. -/
def titledBody? (lines : List Text) (c : Nat) : Option (Text × Text) :=
  let body := unlines (contentBefore lines c)
  (titleBefore? lines c).bind fun title => if allBlank body then none else some (title, body)

/-! ### One more line -/

section Append
variable (lines : List Text) (l : Text)

theorem kindAt?_append_of_lt {i : Nat} (h : i < lines.length) :
    kindAt? (lines ++ [l]) i = kindAt? lines i := by
  simp [kindAt?, List.getElem?_append_left h]

theorem kindAt?_append_length :
    kindAt? (lines ++ [l]) lines.length = some (LineKind.ofLine (chomp l)) := by
  simp [kindAt?]

theorem openBefore_append {c : Nat} (h : c ≤ lines.length) :
    OpenBefore (lines ++ [l]) c ↔ OpenBefore lines c := by
  rw [OpenBefore]
  constructor
  · intro hopen
    obtain ⟨o, ho, hk, hj⟩ := hopen
    rw [kindAt?_append_of_lt _ _ (by omega)] at hk
    refine ⟨o, ho, hk, fun j hjc hoj => ?_⟩
    rw [← kindAt?_append_of_lt lines l (by omega)]
    exact hj j hjc hoj
  · intro hopen
    obtain ⟨o, ho, hk, hj⟩ := hopen
    refine ⟨o, ho, by rwa [kindAt?_append_of_lt _ _ (by omega)], fun j hjc hoj => ?_⟩
    rw [kindAt?_append_of_lt _ _ (by omega)]
    exact hj j hjc hoj

theorem openBefore_succ :
    OpenBefore (lines ++ [l]) (lines.length + 1) ↔
      LineKind.ofLine (chomp l) = .opening ∨
        (OpenBefore lines lines.length ∧ LineKind.ofLine (chomp l) ≠ .closing) := by
  have hl := kindAt?_append_length lines l
  constructor
  · intro hopen
    obtain ⟨o, ho, hk, hj⟩ := hopen
    obtain ho' | rfl := Nat.lt_succ_iff_lt_or_eq.1 ho
    · refine .inr ⟨(openBefore_append lines l (Nat.le_refl _)).1 ⟨o, ho', hk, fun j hjc => hj j (by omega)⟩, ?_⟩
      have hc := hj lines.length (by omega) ho'
      rw [hl] at hc
      exact fun he => hc (by rw [he])
    · rw [hl] at hk
      exact .inl (Option.some.inj hk)
  · intro hcases
    obtain ho | ⟨hopen, hc⟩ := hcases
    · exact ⟨lines.length, by omega, by rw [hl, ho], fun j hj hlt => by omega⟩
    · obtain ⟨o, ho, hk, hj⟩ := (openBefore_append lines l (Nat.le_refl _)).2 hopen
      refine ⟨o, by omega, hk, fun j hjc hoj => ?_⟩
      obtain hlt | rfl := Nat.lt_succ_iff_lt_or_eq.1 hjc
      · exact hj j hlt hoj
      · rw [hl]
        exact fun he => hc (Option.some.inj he)

theorem titleBefore?_append {c : Nat} (h : c ≤ lines.length) :
    titleBefore? (lines ++ [l]) c = titleBefore? lines c := by
  rw [titleBefore?]
  congr 1
  refine List.filterMap_congr fun i hi => ?_
  rw [kindAt?_append_of_lt _ _ (by have := List.mem_range.1 hi; omega)]

theorem titleBefore?_succ :
    titleBefore? (lines ++ [l]) (lines.length + 1) =
      (LineKind.ofLine (chomp l)).title?.or (titleBefore? lines lines.length) := by
  have hrest := titleBefore?_append lines l (Nat.le_refl lines.length)
  rw [titleBefore?] at hrest ⊢
  rw [List.range_succ, List.filterMap_append, List.getLast?_append, hrest]
  cases h : (LineKind.ofLine (chomp l)).title? <;> simp [kindAt?_append_length, h]

theorem lastOpening?_append {c : Nat} (h : c ≤ lines.length) :
    lastOpening? (lines ++ [l]) c = lastOpening? lines c := by
  rw [lastOpening?]
  congr 1
  refine List.filter_congr fun i hi => ?_
  rw [kindAt?_append_of_lt _ _ (by have := List.mem_range.1 hi; omega)]

theorem lastOpening?_succ :
    lastOpening? (lines ++ [l]) (lines.length + 1) =
      if LineKind.ofLine (chomp l) = .opening then some lines.length
      else lastOpening? lines lines.length := by
  have hrest := lastOpening?_append lines l (Nat.le_refl lines.length)
  rw [lastOpening?] at hrest ⊢
  rw [List.range_succ, List.filter_append, List.getLast?_append, hrest]
  by_cases h : LineKind.ofLine (chomp l) = .opening <;> simp [kindAt?_append_length, h]

theorem lastOpening?_lt {c o : Nat} (h : lastOpening? lines c = some o) : o < c := by
  have hm := List.mem_of_getLast? h
  simpa using (List.mem_filter.1 hm).1

theorem contentBefore_append {c : Nat} (h : c ≤ lines.length) :
    contentBefore (lines ++ [l]) c = contentBefore lines c := by
  simp only [contentBefore, lastOpening?_append lines l h, List.take_append_of_le_length h]

theorem contentBefore_succ_of_opening (h : LineKind.ofLine (chomp l) = .opening) :
    contentBefore (lines ++ [l]) (lines.length + 1) = [] := by
  simp [contentBefore, lastOpening?_succ, h]

theorem contentBefore_succ_of_ne (h : LineKind.ofLine (chomp l) ≠ .opening)
    (hopen : (lastOpening? lines lines.length).isSome) :
    contentBefore (lines ++ [l]) (lines.length + 1) =
      contentBefore lines lines.length ++
        if (LineKind.ofLine (chomp l)).title?.isNone then [chomp l] else [] := by
  obtain ⟨o, ho⟩ := Option.isSome_iff_exists.1 hopen
  have hlt := lastOpening?_lt lines ho
  simp only [contentBefore, lastOpening?_succ, if_neg h, ho]
  rw [List.take_of_length_le (by simp), List.take_of_length_le (Nat.le_refl _),
    List.drop_append_of_le_length (by omega), List.map_append, List.filter_append]
  cases ht : (LineKind.ofLine (chomp l)).title?.isNone <;> simp [ht]

theorem lastOpening?_isSome_of_openBefore {c : Nat} (h : OpenBefore lines c) :
    (lastOpening? lines c).isSome := by
  obtain ⟨o, ho, hk, -⟩ := h
  have hm : o ∈ (List.range c).filter fun i => kindAt? lines i = some .opening := by
    simpa using ⟨ho, hk⟩
  rw [lastOpening?, List.getLast?_isSome]
  exact List.ne_nil_of_mem hm

end Append

/-! ### The scan agrees -/

def blockAt (lines : List Text) (c : Nat) : Block := ⟨titleBefore? lines c, contentBefore lines c⟩

/-- The blocks that closing lines have closed. -/
def closedBlocks (lines : List Text) : List Block :=
  ((List.range lines.length).filter (ClosesAt lines ·)).map (blockAt lines)

/-- The state of a scan, told by the lines it has read. -/
structure Describes (lines : List Text) (s : Scan) : Prop where
  title : s.title = titleBefore? lines lines.length
  open? : s.open? =
    if OpenBefore lines lines.length then some (contentBefore lines lines.length).reverse else none
  closed : s.closed.reverse = closedBlocks lines

theorem describes_start : Describes [] Scan.start :=
  ⟨rfl, by rw [if_neg (by simp [OpenBefore])]; rfl, rfl⟩

theorem blockAt_append (lines : List Text) (l : Text) {c : Nat} (h : c ≤ lines.length) :
    blockAt (lines ++ [l]) c = blockAt lines c := by
  simp only [blockAt, titleBefore?_append lines l h, contentBefore_append lines l h]

theorem closesAt_append (lines : List Text) (l : Text) {c : Nat} (h : c < lines.length) :
    ClosesAt (lines ++ [l]) c ↔ ClosesAt lines c := by
  have hc : c ≠ (lines ++ [l]).length := by simp; omega
  have hc' : c ≠ lines.length := by omega
  simp only [ClosesAt, kindAt?_append_of_lt lines l h, openBefore_append lines l (Nat.le_of_lt h), hc, hc']

theorem closesAt_append_length (lines : List Text) (l : Text) :
    ClosesAt (lines ++ [l]) lines.length ↔
      LineKind.ofLine (chomp l) = .closing ∧ OpenBefore lines lines.length := by
  simp [ClosesAt, kindAt?_append_length, openBefore_append lines l (Nat.le_refl _)]

theorem closedBlocks_append (lines : List Text) (l : Text) :
    closedBlocks (lines ++ [l]) =
      closedBlocks lines ++
        if LineKind.ofLine (chomp l) = .closing ∧ OpenBefore lines lines.length
        then [blockAt lines lines.length] else [] := by
  rw [closedBlocks]
  rw [List.length_append, List.length_singleton, List.range_succ, List.filter_append,
    List.map_append]
  congr 1
  · have hf : (List.range lines.length).filter (ClosesAt (lines ++ [l]) ·) =
        (List.range lines.length).filter (ClosesAt lines ·) :=
      List.filter_congr fun i hi => by
        simp only [closesAt_append lines l (List.mem_range.1 hi)]
    rw [hf]
    refine List.map_congr_left fun i hi => blockAt_append lines l ?_
    exact Nat.le_of_lt (List.mem_range.1 (List.mem_filter.1 hi).1)
  · by_cases h : LineKind.ofLine (chomp l) = .closing ∧ OpenBefore lines lines.length
    · simp [h, closesAt_append_length, blockAt_append]
    · simp [h, closesAt_append_length]

theorem describes_line {lines : List Text} {s : Scan} (h : Describes lines s) (l : Text) :
    Describes (lines ++ [l]) (s.line l) := by
  have hlen : (lines ++ [l]).length = lines.length + 1 := by simp
  have htitle := titleBefore?_succ lines l
  have hopen := openBefore_succ lines l
  have hcontent := contentBefore_succ_of_ne lines l
  have hclosed := closedBlocks_append lines l
  cases hk : LineKind.ofLine (chomp l) with
  | title t =>
    simp only [hk, LineKind.title?] at htitle hopen hcontent hclosed
    refine ⟨by simp [Scan.line, hk, hlen, htitle], ?_, by simp [Scan.line, hk, hclosed, h.closed]⟩
    by_cases ho : OpenBefore lines lines.length
    · simp [Scan.line, hk, hlen, hopen, ho, h.open?,
        hcontent (by simp) (lastOpening?_isSome_of_openBefore lines ho)]
    · simp [Scan.line, hk, hlen, hopen, ho, h.open?]
  | opening =>
    simp only [hk, LineKind.title?] at htitle hopen hclosed
    refine ⟨by simp [Scan.line, hk, hlen, htitle, h.title], ?_, by simp [Scan.line, hk, hclosed, h.closed]⟩
    simp [Scan.line, hk, hlen, hopen, contentBefore_succ_of_opening lines l hk]
  | closing =>
    simp only [hk, LineKind.title?] at htitle hopen hclosed
    by_cases ho : OpenBefore lines lines.length
    · exact ⟨by simp [Scan.line, hk, Scan.close, hlen, htitle, h.open?, ho, h.title],
        by simp [Scan.line, hk, Scan.close, hlen, hopen, h.open?, ho],
        by simp [Scan.line, hk, Scan.close, hclosed, h.open?, ho, h.closed, h.title, blockAt]⟩
    · exact ⟨by simp [Scan.line, hk, Scan.close, hlen, htitle, h.open?, ho, h.title],
        by simp [Scan.line, hk, Scan.close, hlen, hopen, h.open?, ho],
        by simp [Scan.line, hk, Scan.close, hclosed, h.open?, ho, h.closed]⟩
  | other =>
    simp only [hk, LineKind.title?] at htitle hopen hcontent hclosed
    refine ⟨by simp [Scan.line, hk, hlen, htitle, h.title], ?_, by simp [Scan.line, hk, hclosed, h.closed]⟩
    by_cases ho : OpenBefore lines lines.length
    · simp [Scan.line, hk, hlen, hopen, ho, h.open?,
        hcontent (by simp) (lastOpening?_isSome_of_openBefore lines ho)]
    · simp [Scan.line, hk, hlen, hopen, ho, h.open?]

theorem describes_scan (lines : List Text) : Describes lines (lines.foldl Scan.line Scan.start) := by
  induction lines using List.reverseRecOn with
  | nil => exact describes_start
  | append_singleton lines l ih =>
    rw [List.foldl_append]
    exact describes_line ih l

/-- The blocks of a page are those of its closing points. -/
theorem blocks_eq (lines : List Text) :
    blocks lines = (closingPoints lines).map (blockAt lines) := by
  have h := describes_scan lines
  have hend : ClosesAt lines lines.length ↔ OpenBefore lines lines.length := by simp [ClosesAt]
  rw [blocks, Scan.finish, closingPoints, List.range_succ, List.filter_append, List.map_append,
    ← closedBlocks]
  by_cases ho : OpenBefore lines lines.length
  · simp [Scan.close, h.open?, ho, h.closed, h.title, hend, blockAt]
  · simp [Scan.close, h.open?, ho, h.closed, hend]

/-! ### The examples -/

/-- The example of a titled text, or the fault in its markup. -/
def exampleOf (path : Text) (b : Text × Text) : Except Fault Example :=
  (parseMarkup path (some b.1) b.2).map fun nodes => ⟨b.1, nodes⟩

def Block.titled? (b : Block) : Option (Text × Text) :=
  b.title.bind fun title => if allBlank b.body then none else some (title, b.body)

theorem verdict_of_titled?_eq_none (path : Text) {b : Block} (h : b.titled? = none) :
    ∃ v, b.verdict path = .ok v ∧ v.example? = none := by
  obtain ⟨title, ls⟩ := b
  cases title with
  | none => exact ⟨.untitled, rfl, rfl⟩
  | some t =>
    have hb : allBlank (Block.body ⟨some t, ls⟩) = true := by simpa [Block.titled?] using h
    exact ⟨.blank t, by simp [Block.verdict, hb], rfl⟩

theorem verdict_of_titled?_eq_some (path : Text) {b : Block} {t : Text × Text}
    (h : b.titled? = some t) : b.verdict path = (exampleOf path t).map .found := by
  obtain ⟨title, ls⟩ := b
  cases title with
  | none => simp [Block.titled?] at h
  | some s =>
    by_cases hb : allBlank (Block.body ⟨some s, ls⟩) = true
    · simp [Block.titled?, hb] at h
    · obtain rfl : (s, Block.body ⟨some s, ls⟩) = t := by simpa [Block.titled?, hb] using h
      simp only [Block.verdict, hb, exampleOf]
      cases parseMarkup path (some s) (Block.body ⟨some s, ls⟩) <;> rfl

/-- What the verdicts of blocks come to: the examples among them, or the first fault. -/
def conclude : List Verdict × Option Fault → Except Fault (List Example)
  | (_, some f) => .error f
  | (vs, none) => .ok (vs.filterMap Verdict.example?)

theorem conclude_verdicts (path : Text) (bs : List Block) :
    conclude (verdicts path bs) = (bs.filterMap Block.titled?).mapM (exampleOf path) := by
  induction bs with
  | nil => rfl
  | cons b bs ih =>
    cases ht : b.titled? with
    | none =>
      obtain ⟨v, hv, he⟩ := verdict_of_titled?_eq_none path ht
      rw [List.filterMap_cons_none ht, ← ih, verdicts, hv]
      cases h : verdicts path bs with
      | mk vs fault => cases fault <;> simp [conclude, he]
    | some t =>
      rw [List.filterMap_cons_some ht, List.mapM_cons, ← ih, verdicts, verdict_of_titled?_eq_some path ht]
      cases exampleOf path t with
      | error f => rfl
      | ok e =>
        cases h : verdicts path bs with
        | mk vs fault => cases fault <;> rfl

/-- The examples of a page, in order, are those of the closing points that have a title before them
and content that is not blank; the first fault in the markup of one of them is the page's. -/
theorem examples_eq_mapM_closingPoints (path : Text) (lines : List Text) :
    examples path lines =
      ((closingPoints lines).filterMap (titledBody? lines)).mapM (exampleOf path) := by
  have hblocks : (blocks lines).filterMap Block.titled? =
      (closingPoints lines).filterMap (titledBody? lines) := by
    rw [blocks_eq, List.filterMap_map]
    rfl
  rw [← hblocks, ← conclude_verdicts]
  rfl

end Componentry.Document
