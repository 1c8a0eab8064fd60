import Componentry.Proofs.Generation.Loading
import Componentry.Proofs.Generation.Workers

/-!
The work on every page ends once each page had its turns, and what it ends with is about the component
of that page.
-/
namespace Componentry.Generation
open Componentry.Component Componentry.Document Componentry.Files Componentry.Text

variable {l : Layout} {plan : Plan} {w : Works} {pages : List Page}

/-! ### Turns that are left -/

/-- How many turns a job needs at most. -/
def Job.left : Job → Nat
  | .waiting _ => 3
  | .ready .. => 2
  | .unfinished .. => 1
  | .ended _ => 0

theorem Job.left_turn (j : Job) (d : Disk) : (j.turn l plan d).2.left ≤ j.left - 1 := by
  cases j with
  | waiting page =>
    simp only [Job.turn]
    cases renderWith l (Spec.ofPage plan.base page) with
    | error f => exact Nat.zero_le _
    | ok code =>
      dsimp only
      split
      · exact Nat.zero_le _
      · obtain ⟨d', none | e⟩ := d.makeDirs (modulePath plan (Spec.ofPage plan.base page)).parent
        · exact Nat.le_refl _
        · exact Nat.zero_le _
  | ready spec code =>
    simp only [Job.turn]
    split
    · exact Nat.zero_le _
    · exact Nat.le_refl _
  | unfinished spec code place shown =>
    simp only [Job.turn]
    split
    · exact Nat.le_refl _
    · exact Nat.le_refl _
  | ended r => exact Nat.le_refl _

theorem Works.left_step {k i : Nat} {j : Job} (h : (w.step l plan k).jobs[i]? = some j) :
    ∃ j₀, w.jobs[i]? = some j₀ ∧ j.left ≤ j₀.left - [k].count i := by
  rw [Works.step] at h
  cases hk : w.jobs[k]? with
  | none =>
    rw [hk] at h
    have hne : k ≠ i := by
      intro he
      subst he
      rw [hk] at h
      cases h
    exact ⟨j, h, by simp [hne]⟩
  | some j₀ =>
    rw [hk] at h
    by_cases hki : k = i
    · subst hki
      have hlength := (List.getElem?_eq_some_iff.1 hk).1
      rw [List.getElem?_set_self hlength] at h
      cases h
      refine ⟨j₀, hk, ?_⟩
      rw [List.count_singleton_self]
      exact Job.left_turn j₀ w.disk
    · rw [List.getElem?_set_ne hki] at h
      exact ⟨j, h, by simp [hki]⟩

theorem Works.left_run {turns : List Nat} {i : Nat} {j : Job}
    (h : (w.run l plan turns).jobs[i]? = some j) :
    ∃ j₀, w.jobs[i]? = some j₀ ∧ j.left ≤ j₀.left - turns.count i := by
  induction turns generalizing w with
  | nil => exact ⟨j, h, Nat.le_refl _⟩
  | cons k turns ih =>
    obtain ⟨j₁, h₁, hle₁⟩ := ih h
    obtain ⟨j₀, h₀, hle₀⟩ := Works.left_step h₁
    refine ⟨j₀, h₀, ?_⟩
    have hcount : (k :: turns).count i = [k].count i + turns.count i := by
      rw [← List.singleton_append, List.count_append]
    omega

theorem exists_results {jobs : List Job} (h : ∀ j ∈ jobs, j.left = 0) :
    ∃ rs : List Result, jobs = rs.map .ended := by
  induction jobs with
  | nil => exact ⟨[], rfl⟩
  | cons j jobs ih =>
    obtain ⟨rs, rfl⟩ := ih fun other hother => h other (List.mem_cons_of_mem j hother)
    have hj := h j List.mem_cons_self
    cases j with
    | ended r => exact ⟨r :: rs, rfl⟩
    | waiting page => cases hj
    | ready spec code => cases hj
    | unfinished spec code place shown => cases hj

/-- All work ends if each page has three turns. -/
theorem exists_run_eq {turns : List Nat} (h : ∀ i < pages.length, 3 ≤ turns.count i) (d : Disk) :
    ∃ d' rs, Works.run l plan ⟨d, pages.map .waiting⟩ turns = ⟨d', List.map .ended rs⟩ := by
  have hended : ∀ j ∈ (Works.run l plan ⟨d, pages.map .waiting⟩ turns).jobs, j.left = 0 := by
    intro j hj
    obtain ⟨i, hi⟩ := List.mem_iff_getElem?.1 hj
    obtain ⟨j₀, h₀, hle⟩ := Works.left_run hi
    rw [List.getElem?_map, Option.map_eq_some_iff] at h₀
    obtain ⟨page, hpage, rfl⟩ := h₀
    have hthree := h i (List.getElem?_eq_some_iff.1 hpage).1
    simp only [Job.left] at hle ⊢
    omega
  obtain ⟨rs, hrs⟩ := exists_results hended
  exact ⟨_, rs, by rw [← hrs]⟩

/-! ### Orders in which each page has its turns -/

def IsFair (order : List Page → List Nat) : Prop :=
  ∀ pages i, i < pages.length → 3 ≤ (order pages).count i

theorem count_inTurn {first i : Nat} (hfirst : first ≤ i) (hi : i < first + pages.length) :
    3 ≤ (inTurn first pages).count i := by
  induction pages generalizing first with
  | nil =>
    rw [List.length_nil] at hi
    omega
  | cons page rest ih =>
    rw [inTurn]
    by_cases hsame : first = i
    · subst hsame
      simp only [List.count_cons_self]
      omega
    · rw [List.length_cons] at hi
      have hrest := @ih (first + 1) (by omega) (by omega)
      simpa only [List.count_cons_of_ne hsame] using hrest

theorem isFair_inTurn : IsFair (inTurn 0) := fun _ i hi => count_inTurn (Nat.zero_le i) (by omega)

theorem exists_runsTo {templates : Option Path} {docs : Path} {names : List Text}
    {order : List Page → List Nat} (hfair : IsFair order) {d : Disk} {files : List Path} {loaded : Loaded}
    (hfound : d.documentation? docs = some files) (hloads : (load d names files).2 = .ok loaded)
    (htemplate : loaded.pages ≠ [] → layout d templates = .ok l) :
    ∃ d' s, RunsTo templates docs names plan order d d' s := by
  obtain ⟨d', rs, hworks⟩ := @exists_run_eq l plan _ _ (hfair loaded.pages) d
  exact ⟨d', _, .intro hfound hloads htemplate hworks⟩

/-- The results of a run: the failures to read, and what each page came to. -/
theorem RunsTo.results_eq {templates : Option Path} {docs : Path} {names : List Text}
    {order : List Page → List Nat} {d d' : Disk} {s : Summary}
    (h : RunsTo templates docs names plan order d d' s) :
    ∃ l generated, s.results = (selected d docs names).filterMap (failure? d) ++ generated ∧
      ((selected d docs names).filterMap (page? d) ≠ [] → layout d templates = .ok l) ∧
      Works.run l plan ⟨d, ((selected d docs names).filterMap (page? d)).map .waiting⟩
        (order ((selected d docs names).filterMap (page? d))) = ⟨d', generated.map .ended⟩ := by
  obtain @⟨files, loaded, l, _, rs, hfound, hloads, htemplate, hworks⟩ := h
  obtain rfl := loaded_eq hfound hloads
  exact ⟨l, rs, rfl, htemplate, hworks⟩

/-! ### Components -/

/-- The component that a job is about. -/
def Job.component (plan : Plan) : Job → Text
  | .waiting page => (Spec.ofPage plan.base page).name
  | .ready spec _ => spec.name
  | .unfinished spec .. => spec.name
  | .ended r => r.component

end Componentry.Generation
