import Componentry.Proofs.Generation.Ending
import Componentry.Proofs.Generation.Overlay

/-!
What the work on a page can come to, whatever turns are taken and whatever else happens to the disk: only
the write of the module may go one way or the other.
-/
namespace Componentry.Generation
open Componentry.Component Componentry.Document Componentry.Files Componentry.Text

variable {l : Layout} {plan : Plan} {pages : List Page} {page : Page} {d d' : Disk} {w : Works}

/-- Two lists that are related to a third one item by item are so to each other. -/
theorem forall₂_of_common {α β γ : Type} {R : α → β → Prop} {S : α → γ → Prop} {T : β → γ → Prop}
    (hitem : ∀ x y z, R x y → S x z → T y z) {xs : List α} {ys : List β} {zs : List γ}
    (hleft : List.Forall₂ R xs ys) (hright : List.Forall₂ S xs zs) : List.Forall₂ T ys zs := by
  induction hleft generalizing zs with
  | nil =>
    cases hright
    exact .nil
  | cons hxy _ ih =>
    cases hright with
    | cons hxz hrest => exact .cons (hitem _ _ _ hxy hxz) (ih hrest)

theorem forall_of_forall₂ {α β : Type} {R : α → β → Prop} {P : β → Prop} {xs : List α} {ys : List β}
    (h : List.Forall₂ R xs ys) (hitem : ∀ x y, R x y → P y) : ∀ y ∈ ys, P y := by
  induction h with
  | nil => exact fun _ hx => absurd hx List.not_mem_nil
  | cons hxy _ ih => exact List.forall_mem_cons.2 ⟨hitem _ _ hxy, ih⟩

/-! ### Pages -/

/-- A result that the work on a page can come to. -/
inductive Result.ComesOf (l : Layout) (plan : Plan) (page : Page) : Result → Prop
  | unrendered {f : Template.Fault} (render : renderWith l (Spec.ofPage plan.base page) = .error f) :
    ComesOf l plan page (.failed (Spec.ofPage plan.base page).name (.template f))
  | done {code : Text} (render : renderWith l (Spec.ofPage plan.base page) = .ok code) :
    ComesOf l plan page
      (.done (Spec.ofPage plan.base page) (modulePath plan (Spec.ofPage plan.base page)).toText plan.dryRun)
  | unwritten {code : Text} (render : renderWith l (Spec.ofPage plan.base page) = .ok code)
    (writes : plan.dryRun = false) (e : FileError) :
    ComesOf l plan page (unwritten plan (Spec.ofPage plan.base page) e)

/-- A stage of the work on a page. -/
def Job.WorksOn (l : Layout) (plan : Plan) (page : Page) : Job → Prop
  | .waiting page' => page' = page
  | .ready spec code =>
    plan.dryRun = false ∧ spec = Spec.ofPage plan.base page ∧ renderWith l spec = .ok code
  | .unfinished spec code _ _ =>
    plan.dryRun = false ∧ spec = Spec.ofPage plan.base page ∧ renderWith l spec = .ok code
  | .ended r => r.ComesOf l plan page

theorem Job.WorksOn.turn {j : Job} (h : j.WorksOn l plan page) (d : Disk) :
    (j.turn l plan d).2.WorksOn l plan page := by
  cases j with
  | waiting page' =>
    obtain rfl : page' = page := h
    simp only [Job.turn]
    cases hrender : renderWith l (Spec.ofPage plan.base page') with
    | error f => exact .unrendered hrender
    | ok code =>
      cases hdry : plan.dryRun with
      | true =>
        have hdone : Result.ComesOf l plan page' (.done (Spec.ofPage plan.base page')
            (modulePath plan (Spec.ofPage plan.base page')).toText plan.dryRun) := .done hrender
        rw [hdry] at hdone
        exact hdone
      | false =>
        obtain ⟨d', none | e⟩ := d.makeDirs (modulePath plan (Spec.ofPage plan.base page')).parent
        · exact ⟨hdry, rfl, hrender⟩
        · exact .unwritten hrender hdry e
  | ready spec code =>
    obtain ⟨hdry, rfl, hrender⟩ := h
    simp only [Job.turn]
    split
    · exact .unwritten hrender hdry _
    · exact ⟨hdry, rfl, hrender⟩
  | unfinished spec code place shown =>
    obtain ⟨hdry, rfl, hrender⟩ := h
    simp only [Job.turn]
    split
    · have hdone := Result.ComesOf.done hrender
      rw [hdry] at hdone
      exact hdone
    · exact .unwritten hrender hdry _
  | ended r => exact h

/-- What every turn keeps of each job is kept by a run. -/
theorem Works.Each.run {about : Page → Job → Prop}
    (hturn : ∀ page j d, about page j → about page (j.turn l plan d).2) (h : w.Each about pages)
    (turns : List Nat) : (w.run l plan turns).Each about pages := by
  induction turns generalizing w with
  | nil => exact h
  | cons i turns ih =>
    refine @ih (w.step l plan i) ?_
    cases hj : w.jobs[i]? with
    | none =>
      rw [Works.step_of_none hj]
      exact h
    | some j =>
      obtain ⟨page, hpage, habout⟩ := h.jobs i j hj
      rw [Works.step_of_turn hj rfl]
      exact h.set hpage (hturn page j w.disk habout) _

/-- The results of a run, by its pages. -/
theorem results_of_run_eq {turns : List Nat} {rs : List Result}
    (h : Works.run l plan ⟨d, pages.map .waiting⟩ turns = ⟨d', rs.map .ended⟩) :
    List.Forall₂ (Result.ComesOf l plan) pages rs := by
  have heach := (Works.Each.start (fun page => (rfl : page = page)) pages d :
    Works.Each (fun page j => j.WorksOn l plan page) pages _)
  have hended := heach.run (fun _ _ d hworks => hworks.turn d) turns
  rw [h] at hended
  exact hended.forall₂

/-! ### Files -/

/-- A file that fails is malformed or cannot be read. -/
theorem failure?_cases {file : Path} {r : Result} (h : failure? d file = some r) :
    (∃ f, r = .failed (nameOfPath file.toText) (.markup f)) ∨
      ∃ e, r = .failed (nameOfPath file.toText) (.unreadable file.toText e) := by
  rw [failure?, examine_eq] at h
  cases hextract : (extract d file).2 with
  | ok found => cases found <;> simp [hextract] at h
  | error t =>
    rw [hextract] at h
    cases hcrash : t.crash? with
    | some c => simp [hcrash] at h
    | none =>
      cases t with
      | loop lp => simp [Trouble.crash?] at hcrash
      | unreadable e => exact .inr ⟨e, by simpa [hcrash] using h.symm⟩
      | markup f => exact .inl ⟨f, by simpa [hcrash] using h.symm⟩

/-- The results of a run: failures of files, then what each page came to. -/
theorem RunsTo.results_of {templates : Option Path} {docs : Path} {names : List Text}
    {order : List Page → List Nat} {s : Summary} (h : RunsTo templates docs names plan order d d' s) :
    ∃ generated, s.results = (selected d docs names).filterMap (failure? d) ++ generated ∧
      List.Forall₂ (fun page r => ∃ l, layout d templates = .ok l ∧ r.ComesOf l plan page)
        ((selected d docs names).filterMap (page? d)) generated := by
  obtain ⟨l, generated, hresults, hlayout, hworks⟩ := h.results_eq
  refine ⟨generated, hresults, ?_⟩
  refine ((List.forall₂_and_left _ _).2 ⟨fun page hpage => ?_, results_of_run_eq hworks⟩).imp
    fun page r hr => ⟨l, hr⟩
  exact hlayout (List.ne_nil_of_mem hpage)

end Componentry.Generation
