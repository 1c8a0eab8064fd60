import Componentry.Proofs.Text.Split
import Componentry.Text.Blank

/-!
The lines of a text of which line feeds end some or all.
-/
namespace Componentry.Text

theorem linesFrom_returnLineFeed (line s : Text) :
    linesFrom line ('\r' :: '\n' :: s) = line.reverse :: lines s := by
  rw [linesFrom]
  rfl

theorem linesFrom_cons {c : Char} {s : Text} (h : c = '\r' → s.head? ≠ some '\n') (line : Text) :
    linesFrom line (c :: s) = if isLineBreak c then line.reverse :: lines s else linesFrom (c :: line) s := by
  rw [linesFrom]
  · rfl
  · intro rest hc hs
    exact h hc (by rw [hs]; rfl)

/-- A text without ends of lines has none of their characters. -/
theorem isLineBreak_of_mem {s : Text} (h : s.any isLineBreak = false) {c : Char} (hc : c ∈ s) :
    isLineBreak c = false := by
  simpa using List.any_eq_false.1 h c hc

theorem lineFeed_not_mem {s : Text} (h : ∀ c ∈ s, isLineBreak c = false) : '\n' ∉ s :=
  fun hin => absurd (h _ hin) (by decide)

theorem isLineBreak_of_not_blank {c : Char} (h : isBlank c = false) : isLineBreak c = false := by
  cases hbreak : isLineBreak c with
  | false => rfl
  | true =>
    rw [isBlank_of_isLineBreak hbreak] at h
    cases h

theorem lines_nil : lines [] = [] := by
  rw [lines, linesFrom, if_pos rfl]

theorem linesFrom_lineFeed (line s : Text) : linesFrom line ('\n' :: s) = line.reverse :: lines s := by
  rw [linesFrom_cons fun h => absurd h (by decide)]
  rfl

/-- What follows a line feed is cut into lines by itself. -/
theorem linesFrom_append_lineFeed (line u s : Text) :
    linesFrom line (u ++ '\n' :: s) = linesFrom line (u ++ ['\n']) ++ lines s := by
  fun_induction linesFrom line u with
  | case1 =>
    rw [List.nil_append, List.nil_append, linesFrom_lineFeed, linesFrom_lineFeed, lines_nil]
    rfl
  | case2 =>
    rw [List.nil_append, List.nil_append, linesFrom_lineFeed, linesFrom_lineFeed, lines_nil]
    rfl
  | case3 line u ih =>
    simp only [List.cons_append, linesFrom_returnLineFeed]
    exact congrArg _ ih
  | case4 line c u hreturn hbreak ih =>
    by_cases hlast : c = '\r' ∧ u = []
    · -- the line feed that follows ends the line together with the carriage return
      obtain ⟨rfl, rfl⟩ := hlast
      rw [List.singleton_append, List.singleton_append, linesFrom_returnLineFeed, linesFrom_returnLineFeed,
        lines_nil]
      rfl
    · have hhead (v : Text) : c = '\r' → (u ++ '\n' :: v).head? ≠ some '\n' := by
        intro hc
        cases u with
        | nil => exact absurd ⟨hc, rfl⟩ hlast
        | cons d u => exact fun hd => hreturn u hc (by rw [Option.some.inj hd])
      rw [List.cons_append, List.cons_append, linesFrom_cons (hhead s), linesFrom_cons (hhead []),
        if_pos hbreak, if_pos hbreak]
      exact congrArg _ ih
  | case5 line c u hreturn hbreak ih =>
    have hc : c ≠ '\r' := by
      rintro rfl
      exact hbreak rfl
    rw [List.cons_append, List.cons_append, linesFrom_cons fun h => absurd h hc,
      linesFrom_cons fun h => absurd h hc, if_neg hbreak, if_neg hbreak, ih]

theorem linesFrom_append {u : Text} (h : u.any isLineBreak = false) (line s : Text) :
    linesFrom line (u ++ '\n' :: s) = (line.reverse ++ u) :: lines s := by
  induction u generalizing line with
  | nil => rw [List.nil_append, List.append_nil, linesFrom_lineFeed]
  | cons c u ih =>
    rw [List.any_cons, Bool.or_eq_false_iff] at h
    have hc : c ≠ '\r' := by
      rintro rfl
      exact absurd h.1 (by decide)
    rw [List.cons_append, linesFrom_cons fun he => absurd he hc, if_neg (by simp [h.1]), ih h.2]
    simp

/-- A line that a line feed ends. -/
theorem lines_append {u : Text} (h : u.any isLineBreak = false) (s : Text) :
    lines (u ++ '\n' :: s) = u :: lines s := linesFrom_append h [] s

/-- Between the line feeds the other ends of lines make their cuts. -/
theorem lines_append_lineFeed (s : Text) :
    lines (s ++ ['\n']) = (splitOn '\n' s).flatMap fun l => lines (l ++ ['\n']) := by
  have hjoin : ∀ ls : List Text, ls ≠ [] →
      lines (unlines ls ++ ['\n']) = ls.flatMap fun l => lines (l ++ ['\n']) := by
    intro ls
    induction ls with
    | nil => exact fun h => absurd rfl h
    | cons l ls ih =>
      intro _
      by_cases hls : ls = []
      · subst hls
        simp [unlines_singleton]
      · rw [unlines, joinWith_cons l hls, List.append_assoc, List.append_assoc, List.singleton_append, lines,
          linesFrom_append_lineFeed, ← unlines, ih hls, List.flatMap_cons]
        rfl
  rw [← hjoin _ (splitOn_ne_nil '\n' s), unlines, joinWith_splitOn]

theorem mem_lines_of_mem_splitOn {s l : Text} (hl : l ∈ splitOn '\n' s) (hbreak : l.any isLineBreak = false) :
    l ∈ lines (s ++ ['\n']) := by
  rw [lines_append_lineFeed]
  refine List.mem_flatMap.2 ⟨l, hl, ?_⟩
  rw [lines_append hbreak]
  exact List.mem_cons_self

/-! ### Lines, whatever ends them -/

/-- No line has a character in it that ends one. -/
theorem isLineBreak_of_mem_lines {s l : Text} (hl : l ∈ lines s) : ∀ c ∈ l, isLineBreak c = false := by
  have hopen : ∀ line : Text, (∀ c ∈ line, isLineBreak c = false) →
      ∀ l ∈ linesFrom line s, ∀ c ∈ l, isLineBreak c = false := by
    intro line hline
    clear hl
    fun_induction linesFrom line s with
    | case1 => simp
    | case2 line hne => simpa using hline
    | case3 line s ih =>
      refine List.forall_mem_cons.2 ⟨by simpa using hline, ih (by simp)⟩
    | case4 line c s hreturn hbreak ih =>
      refine List.forall_mem_cons.2 ⟨by simpa using hline, ih (by simp)⟩
    | case5 line c s hreturn hbreak ih =>
      exact ih (List.forall_mem_cons.2 ⟨Bool.eq_false_iff.2 hbreak, hline⟩)
  exact hopen [] (by simp) l hl

/-- A text whose first and last characters belong to lines. -/
structure IsBlock (s : Text) : Prop where
  first : ∃ c, s.head? = some c ∧ isLineBreak c = false
  last : ∃ c, s.getLast? = some c ∧ isLineBreak c = false

section Block
variable {s t : Text}

theorem IsBlock.ne_nil (h : IsBlock s) : s ≠ [] := by
  rintro rfl
  obtain ⟨c, hc, -⟩ := h.first
  cases hc

theorem IsBlock.append (hs : ∃ c, s.head? = some c ∧ isLineBreak c = false)
    (ht : ∃ c, t.getLast? = some c ∧ isLineBreak c = false) : IsBlock (s ++ t) := by
  obtain ⟨c, hc, hfirst⟩ := hs
  obtain ⟨d, hd, hlast⟩ := ht
  exact ⟨⟨c, by rw [List.head?_append, hc]; rfl, hfirst⟩, ⟨d, by rw [List.getLast?_append, hd]; rfl, hlast⟩⟩

/-- A text without ends of lines. -/
theorem isBlock_of_forall (hne : s ≠ []) (h : ∀ c ∈ s, isLineBreak c = false) : IsBlock s := by
  obtain ⟨c, t, rfl⟩ := List.exists_cons_of_ne_nil hne
  exact ⟨⟨c, rfl, h c List.mem_cons_self⟩, ⟨_, List.getLast?_eq_some_getLast hne, h _ (List.getLast_mem hne)⟩⟩

/-- What is left of a text that does not begin with a blank. -/
theorem isBlock_trimEnd {c : Char} (hc : isBlank c = false) (t : Text) : IsBlock (trimEnd (c :: t)) := by
  have hend : trimEnd (c :: t) = c :: (t.reverse.dropWhile isBlank).reverse := by
    rw [trimEnd, List.reverse_cons, List.dropWhile_append]
    split
    · next hempty =>
      rw [List.isEmpty_iff.1 hempty, List.dropWhile_cons_of_neg (by simp [hc])]
      rfl
    · rw [List.reverse_append]
      rfl
  refine ⟨⟨c, by rw [hend]; rfl, isLineBreak_of_not_blank hc⟩, ?_⟩
  have hne : (c :: t).reverse.dropWhile isBlank ≠ [] := by
    intro hnil
    rw [trimEnd, hnil] at hend
    cases hend
  refine ⟨((c :: t).reverse.dropWhile isBlank).head hne, ?_, ?_⟩
  · rw [trimEnd, List.getLast?_reverse, List.head?_eq_some_head]
  · exact isLineBreak_of_not_blank (by simpa using List.head_dropWhile_not isBlank hne)

theorem isBlock_joinWith {sep : Text} {ss : List Text} (hne : ss ≠ []) (h : ∀ s ∈ ss, IsBlock s) :
    IsBlock (joinWith sep ss) := by
  induction ss with
  | nil => exact absurd rfl hne
  | cons s ss ih =>
    obtain ⟨hs, hss⟩ := List.forall_mem_cons.1 h
    by_cases hnil : ss = []
    · subst hnil
      exact hs
    · rw [joinWith_cons s hnil]
      refine .append hs.first ?_
      obtain ⟨c, hc, hlast⟩ := (ih hnil hss).last
      exact ⟨c, by rw [List.getLast?_append, hc]; rfl, hlast⟩

/-- A line feed after a line that is not ended yet makes no other line. -/
theorem lines_concat (h : IsBlock s) : lines (s ++ ['\n']) = lines s := by
  have hopen : ∀ line : Text, (s = [] → line ≠ []) → (∀ c, s.getLast? = some c → isLineBreak c = false) →
      linesFrom line (s ++ ['\n']) = linesFrom line s := by
    intro line hne hlast
    clear h
    fun_induction linesFrom line s with
    | case1 => exact absurd rfl (hne rfl)
    | case2 line hline => rw [List.nil_append, linesFrom_lineFeed, lines_nil]
    | case3 line s ih =>
      have hs : s ≠ [] := by
        rintro rfl
        exact absurd (hlast '\n' rfl) (by decide)
      rw [List.cons_append, List.cons_append, linesFrom_returnLineFeed, lines,
        ih (fun hnil => absurd hnil hs) fun c hc => hlast c (by simp [List.getLast?_cons, hc])]
    | case4 line c s hreturn hbreak ih =>
      have hs : s ≠ [] := by
        rintro rfl
        exact absurd (hlast c rfl) (by simp [hbreak])
      have hhead : c = '\r' → (s ++ ['\n']).head? ≠ some '\n' := by
        intro hc
        cases s with
        | nil => exact absurd rfl hs
        | cons d s => exact fun hd => hreturn s hc (by rw [Option.some.inj hd])
      rw [List.cons_append, linesFrom_cons hhead, if_pos hbreak, lines,
        ih (fun hnil => absurd hnil hs) fun d hd => hlast d (by simp [List.getLast?_cons, hd])]
    | case5 line c s hreturn hbreak ih =>
      have hc : c ≠ '\r' := by
        rintro rfl
        exact hbreak rfl
      rw [List.cons_append, linesFrom_cons fun he => absurd he hc, if_neg hbreak]
      refine ih (fun _ => List.cons_ne_nil c line) fun d hd => hlast d ?_
      rw [List.getLast?_cons, hd]
      rfl
  obtain ⟨c, hc, hbreak⟩ := h.last
  refine hopen [] (fun hnil => absurd hnil h.ne_nil) fun d hd => ?_
  rw [hc] at hd
  exact Option.some.inj hd ▸ hbreak

/-- The first line of a block is not empty. -/
theorem exists_lines_eq_cons (h : IsBlock s) : ∃ l ls, lines s = l :: ls ∧ l ≠ [] := by
  have hopen : ∀ line t : Text, line ≠ [] → ∃ l ls, linesFrom line t = l :: ls ∧ l ≠ [] := by
    intro line t hline
    fun_induction linesFrom line t with
    | case1 => exact absurd rfl hline
    | case2 line => exact ⟨_, _, rfl, by simpa using hline⟩
    | case3 line t ih => exact ⟨_, _, rfl, by simpa using hline⟩
    | case4 line c t hreturn hbreak ih => exact ⟨_, _, rfl, by simpa using hline⟩
    | case5 line c t hreturn hbreak ih => exact ih (List.cons_ne_nil c line)
  obtain ⟨c, hc, hbreak⟩ := h.first
  obtain ⟨t, rfl⟩ := List.head?_eq_some_iff.1 hc
  have hreturn : c ≠ '\r' := by
    rintro rfl
    cases hbreak
  rw [lines, linesFrom_cons fun he => absurd he hreturn, if_neg (by simp [hbreak])]
  exact hopen [c] t (List.cons_ne_nil c [])

theorem splitOn_unlines_lines (h : IsBlock s) : splitOn '\n' (unlines (lines s)) = lines s := by
  obtain ⟨l, ls, hlines, -⟩ := exists_lines_eq_cons h
  exact splitOn_joinWith (by simp [hlines]) fun l hl => lineFeed_not_mem (isLineBreak_of_mem_lines hl)

/-- A block in which line feeds alone end lines is its lines joined by them. -/
theorem unlines_lines (h : IsBlock s) (hlf : ∀ c ∈ s, isLineBreak c = true → c = '\n') :
    unlines (lines s) = s := by
  have hline : ∀ l ∈ splitOn '\n' s, lines (l ++ ['\n']) = [l] := by
    intro l hl
    have hbreak : l.any isLineBreak = false := by
      refine List.any_eq_false.2 fun c hc hbreak => not_mem_of_mem_splitOn hl ?_
      exact hlf c (mem_of_mem_splitOn hl hc) hbreak ▸ hc
    rw [lines_append hbreak, lines_nil]
  have hlines : lines s = splitOn '\n' s := by
    rw [← lines_concat h, lines_append_lineFeed, List.flatMap_def,
      List.map_congr_left hline, ← List.flatMap_def, List.flatMap_singleton']
  rw [hlines, unlines, joinWith_splitOn]

end Block

end Componentry.Text
