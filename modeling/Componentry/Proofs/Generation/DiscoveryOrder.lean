import Componentry.Proofs.Generation.FailSoft
import Componentry.Proofs.Generation.Outcome

/-!
The order of the results of a run. The files that fail come before all pages, either of them in the order
of discovery, whatever turns workers take. So the results as a whole are in that order exactly if no file
that fails is found after one with a page.
-/
namespace Componentry.Generation
open Componentry.Component Componentry.Document Componentry.Files Componentry.Text

/-! ### Lists with items of two kinds -/

section Kinds
variable {α β : Type} {early late : α → Bool} {xs ys zs : List α}

theorem forall₂_filterMap (f : α → Option β) (xs : List α) :
    List.Forall₂ (fun x y => f x = some y) (xs.filter fun x => (f x).isSome) (xs.filterMap f) := by
  induction xs with
  | nil => exact .nil
  | cons x xs ih =>
    cases hx : f x with
    | none => simpa [hx] using ih
    | some y => simpa [hx] using ih

theorem exists_of_forall₂_append {R : β → α → Prop} {as bs : List β} (h : List.Forall₂ R (as ++ bs) xs) :
    ∃ ys zs, xs = ys ++ zs ∧ List.Forall₂ R as ys ∧ List.Forall₂ R bs zs := by
  refine ⟨xs.take as.length, xs.drop as.length, (List.take_append_drop _ _).symm, ?_, ?_⟩
  · simpa using List.forall₂_take as.length h
  · simpa using List.forall₂_drop as.length h

theorem perm_of_kinds (hkinds : ∀ x ∈ xs, early x = true → late x = false) :
    (xs.filter early ++ xs.filter late).Perm (xs.filter fun x => early x || late x) := by
  have hsplit := List.filter_append_perm early (xs.filter fun x => early x || late x)
  rw [List.filter_filter, List.filter_filter] at hsplit
  have hearly : xs.filter (fun x => early x && (early x || late x)) = xs.filter early :=
    List.filter_congr fun x _ => by cases early x <;> rfl
  have hlate : xs.filter (fun x => !early x && (early x || late x)) = xs.filter late := by
    apply List.filter_congr
    intro x hx
    cases he : early x with
    | true => rw [hkinds x hx he]; rfl
    | false => rfl
  rwa [hearly, hlate] at hsplit

/-- To put the items of one kind first keeps the order only if none of them comes late. -/
theorem kinds_sublist_iff (hkinds : ∀ x ∈ xs, early x = true → late x = false) :
    (xs.filter early ++ xs.filter late).Sublist xs ↔
      xs.Pairwise fun x later => late x = true → early later = false := by
  constructor
  · intro hsub
    have hkind : ∀ x ∈ xs.filter early ++ xs.filter late, (early x || late x) = true := by
      intro x hx
      rw [Bool.or_eq_true]
      exact (List.mem_append.1 hx).imp (fun h => (List.mem_filter.1 h).2) fun h => (List.mem_filter.1 h).2
    have hkept := hsub.filter fun x => early x || late x
    rw [List.filter_eq_self.2 hkind] at hkept
    have hpairs : (xs.filter early ++ xs.filter late).Pairwise
        fun x later => late x = true → early later = false := by
      have hearly : ∀ x ∈ xs.filter early, late x = false :=
        fun x hx => hkinds x (List.mem_filter.1 hx).1 (List.mem_filter.1 hx).2
      refine List.pairwise_append.2 ⟨?_, ?_, ?_⟩
      · refine List.pairwise_of_forall_mem_list fun x hx _ _ hlate => ?_
        cases (hearly x hx).symm.trans hlate
      · refine List.pairwise_of_forall_mem_list fun _ _ y hy _ => ?_
        obtain ⟨hy, hlate⟩ := List.mem_filter.1 hy
        rw [← Bool.not_eq_true]
        exact fun he => by cases (hkinds y hy he).symm.trans hlate
      · intro x hx _ _ hlate
        cases (hearly x hx).symm.trans hlate
    -- the items of neither kind do not matter
    rw [hkept.eq_of_length (perm_of_kinds hkinds).length_eq, List.pairwise_filter] at hpairs
    refine hpairs.imp fun {x y} h hlate => ?_
    cases he : early y with
    | false => rfl
    | true => exact he.symm.trans (h (by rw [hlate, Bool.or_true]) (by rw [he, Bool.true_or]) hlate)
  · intro hpairs
    induction xs with
    | nil => exact List.Sublist.refl []
    | cons x xs ih =>
      obtain ⟨hx, hpairs⟩ := List.pairwise_cons.1 hpairs
      have hrest := ih (fun y hy => hkinds y (List.mem_cons_of_mem x hy)) hpairs
      cases he : early x with
      | true =>
        rw [List.filter_cons_of_pos he, List.filter_cons_of_neg (by simp [hkinds x List.mem_cons_self he])]
        exact hrest.cons_cons x
      | false =>
        cases hlate : late x with
        | false =>
          rw [List.filter_cons_of_neg (by simp [he]), List.filter_cons_of_neg (by simp [hlate])]
          exact hrest.cons x
        | true =>
          have hnone : (x :: xs).filter early = [] :=
            List.filter_eq_nil_iff.2 (by simpa [he] using fun y hy => hx y hy hlate)
          rw [hnone, List.nil_append]
          exact List.filter_sublist

/-- A part of a list in which either kind is as often as in the list has the items of these kinds. -/
theorem eq_of_split (hsub : (ys ++ zs).Sublist xs) (hys : ∀ x ∈ ys, early x = true)
    (hzs : ∀ x ∈ zs, late x = true) (hearly : ys.length = (xs.filter early).length)
    (hlate : zs.length = (xs.filter late).length) : ys = xs.filter early ∧ zs = xs.filter late := by
  have hys' := ((List.sublist_append_left ys zs).trans hsub).filter early
  have hzs' := ((List.sublist_append_right ys zs).trans hsub).filter late
  rw [List.filter_eq_self.2 hys] at hys'
  rw [List.filter_eq_self.2 hzs] at hzs'
  exact ⟨hys'.eq_of_length hearly, hzs'.eq_of_length hlate⟩

end Kinds

/-! ### Files and results -/

variable {l : Layout} {plan : Plan} {page : Page} {d d' : Disk} {templates : Option Path} {docs : Path}
  {names : List Text} {order : List Page → List Nat} {file : Path} {files : List Path} {r : Result} {s : Summary}

/-- The result is a failure of the file, or one that the work on its page can come to. -/
def Result.IsAbout (templates : Option Path) (plan : Plan) (d : Disk) (r : Result) (file : Path) : Prop :=
  failure? d file = some r ∨
    ∃ l page, layout d templates = .ok l ∧ page? d file = some page ∧ r.ComesOf l plan page

/-- Each result is about a file of its own, and these files are found in that order. -/
def InDiscoveryOrder (templates : Option Path) (plan : Plan) (d : Disk) (files : List Path)
    (rs : List Result) : Prop :=
  List.SublistForall₂ (Result.IsAbout templates plan d) rs files

/-- The files that fail, in the order of discovery. -/
def failing (d : Disk) (files : List Path) : List Path := files.filter fun file => (failure? d file).isSome

/-- The files with a page, in the order of discovery. -/
def paged (d : Disk) (files : List Path) : List Path := files.filter fun file => (page? d file).isSome

theorem page?_isSome_of_failure? (h : (failure? d file).isSome = true) : (page? d file).isSome = false := by
  obtain ⟨r, hr⟩ := Option.isSome_iff_exists.1 h
  rw [failure?] at hr
  rw [page?]
  cases hexamine : (examine d file).2 with
  | error c => rfl
  | ok source =>
    rw [hexamine] at hr
    cases source with
    | page p => cases hr
    | empty => rfl
    | failed component why => rfl

/-- Whether a result is about the work on a page. -/
def Result.isOfPage : Result → Bool
  | .done .. => true
  | .failed _ (.template _) => true
  | .failed _ (.unwritten _ _) => true
  | .failed _ _ => false

theorem isOfPage_of_failure? (h : failure? d file = some r) : r.isOfPage = false := by
  obtain ⟨f, rfl⟩ | ⟨e, rfl⟩ := failure?_cases h
  · rfl
  · rfl

theorem Result.ComesOf.isOfPage (h : r.ComesOf l plan page) : r.isOfPage = true := by
  cases h <;> rfl

theorem Result.IsAbout.failure?_isSome (h : r.IsAbout templates plan d file) (hr : r.isOfPage = false) :
    (failure? d file).isSome = true := by
  obtain hfailure | ⟨l, page, -, -, hcomes⟩ := h
  · rw [hfailure]
    rfl
  · cases hr.symm.trans hcomes.isOfPage

theorem Result.IsAbout.page?_isSome (h : r.IsAbout templates plan d file) (hr : r.isOfPage = true) :
    (page? d file).isSome = true := by
  obtain hfailure | ⟨l, page, -, hpage, -⟩ := h
  · cases hr.symm.trans (isOfPage_of_failure? hfailure)
  · rw [hpage]
    rfl

/-! ### Runs -/

/-- The results of a run are failures of files, then results of pages. -/
theorem RunsTo.isAbout (h : RunsTo templates docs names plan order d d' s) :
    ∃ failures generated, s.results = failures ++ generated ∧
      (∀ r ∈ failures, r.isOfPage = false) ∧ (∀ r ∈ generated, r.isOfPage = true) ∧
      List.Forall₂ (Result.IsAbout templates plan d) failures (failing d (selected d docs names)) ∧
      List.Forall₂ (Result.IsAbout templates plan d) generated (paged d (selected d docs names)) := by
  obtain ⟨generated, hresults, hpages⟩ := h.results_of
  refine ⟨_, generated, hresults, ?_, ?_, ?_, ?_⟩
  · intro r hr
    obtain ⟨file, -, hfailure⟩ := List.mem_filterMap.1 hr
    exact isOfPage_of_failure? hfailure
  · refine forall_of_forall₂ hpages ?_
    rintro page r ⟨l, -, hcomes⟩
    exact hcomes.isOfPage
  · exact (forall₂_filterMap (failure? d) _).flip.imp fun r file hfailure => .inl hfailure
  · refine forall₂_of_common ?_ hpages (forall₂_filterMap (page? d) _).flip
    rintro page r file ⟨l, hlayout, hcomes⟩ hpage
    exact .inr ⟨l, page, hlayout, hpage, hcomes⟩

theorem RunsTo.inDiscoveryOrder_iff (h : RunsTo templates docs names plan order d d' s) :
    InDiscoveryOrder templates plan d (selected d docs names) s.results ↔
      (selected d docs names).Pairwise fun file later =>
        (page? d file).isSome = true → (failure? d later).isSome = false := by
  obtain ⟨failures, generated, hresults, hfailures, hgenerated, hfailing, hpaged⟩ := h.isAbout
  rw [← kinds_sublist_iff fun file _ => page?_isSome_of_failure?, InDiscoveryOrder,
    List.sublistForall₂_iff, hresults]
  constructor
  · intro howners
    obtain ⟨owners, habout, hsub⟩ := howners
    obtain ⟨ys, zs, rfl, hys, hzs⟩ := exists_of_forall₂_append habout
    -- each result tells whether its owner fails or has a page
    have hys' := forall_of_forall₂ ((List.forall₂_and_left _ _).2 ⟨hfailures, hys⟩)
      fun r file hr => hr.2.failure?_isSome hr.1
    have hzs' := forall_of_forall₂ ((List.forall₂_and_left _ _).2 ⟨hgenerated, hzs⟩)
      fun r file hr => hr.2.page?_isSome hr.1
    obtain ⟨rfl, rfl⟩ := eq_of_split hsub hys' hzs' (hys.length_eq.symm.trans hfailing.length_eq)
      (hzs.length_eq.symm.trans hpaged.length_eq)
    exact hsub
  · intro hsub
    exact ⟨_, List.rel_append hfailing hpaged, hsub⟩

/-! ### The main statement -/

/-- In whatever order workers take turns, the results of a run are those of the files that fail and then
those of the files with a page, either in the order of discovery. They are in that order as a whole
exactly if no file that fails is found after one with a page. -/
theorem results_in_order_iff (templates : Option Path) (docs : Path) (names : List Text) (plan : Plan) (d : Disk) :
    let files := selected d docs names
    (∀ d' s, (∃ told, run templates docs names plan d = (d', told, .ok s)) ↔
      RunsTo templates docs names plan (inTurn 0) d d' s) ∧
    ∀ order d' s, RunsTo templates docs names plan order d d' s →
      List.Forall₂ (Result.IsAbout templates plan d) s.results (failing d files ++ paged d files) ∧
      (InDiscoveryOrder templates plan d files s.results ↔
        files.Pairwise fun file later => (page? d file).isSome = true → (failure? d later).isSome = false) := by
  intro files
  refine ⟨fun d' s => run_iff, ?_⟩
  intro order d' s hruns
  obtain ⟨failures, generated, hresults, -, -, hfailing, hpaged⟩ := hruns.isAbout
  rw [hresults]
  refine ⟨List.rel_append hfailing hpaged, ?_⟩
  rw [← hresults]
  exact hruns.inDiscoveryOrder_iff

theorem results_in_order_iff_broken :
    ∃ d' told s, run none (Path.ofText "docs") [] ⟨Path.ofText "out", "B", false⟩ broken = (d', told, .ok s) ∧
      s.results.map Result.component = ["A", "B"] ∧
      InDiscoveryOrder none ⟨Path.ofText "out", "B", false⟩ broken
        (selected broken (Path.ofText "docs") []) s.results := by
  obtain ⟨hiff, hmain⟩ := results_in_order_iff none (Path.ofText "docs") []
    ⟨Path.ofText "out", "B", false⟩ broken
  obtain ⟨d', told, s, hrun, hcomponents⟩ :=
    @exists_of_ended (run none (Path.ofText "docs") [] ⟨Path.ofText "out", "B", false⟩ broken)
      (fun _ s => s.results.map Result.component = ["A", "B"]) _ (by decide +kernel)
  obtain ⟨-, horder⟩ := hmain (inTurn 0) d' s ((hiff d' s).1 ⟨told, hrun⟩)
  exact ⟨d', told, s, hrun, hcomponents, horder.2 (by decide)⟩

/-- A page that can be read, and after it one whose bytes are no text. -/
def brokenLater : Disk where
  entries := [(["docs"], .directory), (["docs", "a"], .directory), (["docs", "b"], .directory),
    (["docs", "a", "x.md"], plainPage), (["docs", "b", "x.md"], .file [0xFF])]
  cwd := []
  home := "/"

/-- The failure of the second file comes before the result of the first one. -/
theorem results_out_of_order :
    ∃ d' told s,
      run none (Path.ofText "docs") [] ⟨Path.ofText "out", "B", false⟩ brokenLater = (d', told, .ok s) ∧
      (selected brokenLater (Path.ofText "docs") []).map Path.toText = ["docs/a/x.md", "docs/b/x.md"] ∧
      s.results.map Result.component = ["B", "A"] ∧
      ¬InDiscoveryOrder none ⟨Path.ofText "out", "B", false⟩ brokenLater
        (selected brokenLater (Path.ofText "docs") []) s.results := by
  obtain ⟨d', told, s, hrun, hcomponents⟩ :=
    @exists_of_ended (run none (Path.ofText "docs") [] ⟨Path.ofText "out", "B", false⟩ brokenLater)
      (fun _ s => s.results.map Result.component = ["B", "A"]) _ (by decide +kernel)
  refine ⟨d', told, s, hrun, by decide, hcomponents, ?_⟩
  rw [(run_iff.1 ⟨told, hrun⟩).inDiscoveryOrder_iff]
  decide +kernel

end Componentry.Generation
