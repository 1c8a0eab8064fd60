import Componentry.Proofs.Files.WholeFile
import Componentry.Proofs.Generation.Turns
import Componentry.Proofs.Generation.Written

/-!
The work on one page: its module is written as a whole, or the disk is left as it was, but for
directories on the way to the output directory.
-/
namespace Componentry.Generation
open Componentry.Component Componentry.Document Componentry.Files Componentry.Text

variable {l : Layout} {plan : Plan} {page : Page} {d : Disk}

/-! ### Rendering and writing -/

theorem generate_of_error {f : Template.Fault}
    (hrender : renderWith l (Spec.ofPage plan.base page) = .error f) :
    (generate l plan page d).1 = d ∧
      (generate l plan page d).2.2 = .failed (Spec.ofPage plan.base page).name (.template f) := by
  simp [generate, hrender]

/-- What the work on a page comes to, given how writing its module ends. -/
def writtenResult (plan : Plan) (spec : Spec) : Option FileError → Result
  | none => .done spec (modulePath plan spec).toText false
  | some e => unwritten plan spec e

theorem generate_of_written (hdry : plan.dryRun = false) {code : Text}
    (hrender : renderWith l (Spec.ofPage plan.base page) = .ok code) {d' : Disk} {e? : Option FileError}
    (hwrite : d.writeWhole (plan.outputDir.child (moduleFile (Spec.ofPage plan.base page))) (encode code) =
      (d', e?)) :
    (generate l plan page d).1 = d' ∧
      (generate l plan page d).2.2 = writtenResult plan (Spec.ofPage plan.base page) e? := by
  rw [← modulePath_ofPage] at hwrite
  simp only [generate, hrender, write, hdry, Bool.false_eq_true, if_false, hwrite]
  cases e? with
  | none => exact ⟨rfl, rfl⟩
  | some e => exact ⟨rfl, rfl⟩

/-- The disk with the directories for modules, as far as they could be made. -/
def Plan.made (plan : Plan) (d : Disk) : Disk := (d.makeDirs plan.outputDir).1

/-- The disk and the result that the work on a page can leave. -/
inductive Generated (l : Layout) (plan : Plan) (page : Page) (d : Disk) : Disk → Result → Prop
  | unrendered (f : Template.Fault) (render : renderWith l (Spec.ofPage plan.base page) = .error f) :
    Generated l plan page d d (.failed (Spec.ofPage plan.base page).name (.template f))
  | done {d' : Disk} (code : Text) (there : Place)
    (render : renderWith l (Spec.ofPage plan.base page) = .ok code)
    (way : (plan.made d).descendTo plan.outputDir = .ok there)
    (short : (encode (moduleFile (Spec.ofPage plan.base page))).length ≤ Disk.longestName)
    (free : (plan.made d).get? (there ++ [moduleFile (Spec.ofPage plan.base page)]) ≠ some .directory)
    (gains : (plan.made d).Gains (there ++ [moduleFile (Spec.ofPage plan.base page)]) (encode code) d') :
    Generated l plan page d d'
      (.done (Spec.ofPage plan.base page) (modulePath plan (Spec.ofPage plan.base page)).toText false)
  | unwritten {d' : Disk} (code : Text) (e : FileError)
    (render : renderWith l (Spec.ofPage plan.base page) = .ok code) (same : (plan.made d).Same d') :
    Generated l plan page d d' (unwritten plan (Spec.ofPage plan.base page) e)

theorem generated (l : Layout) (hdry : plan.dryRun = false) (page : Page) (d : Disk) :
    Generated l plan page d (generate l plan page d).1 (generate l plan page d).2.2 := by
  cases hrender : renderWith l (Spec.ofPage plan.base page) with
  | error f =>
    obtain ⟨hdisk, hresult⟩ := generate_of_error (d := d) hrender
    rw [hdisk, hresult]
    exact .unrendered f hrender
  | ok code =>
    have hwritten := d.writeWhole_child plan.outputDir (moduleFile_ne_dots (Spec.ofPage plan.base page))
      (encode code)
    rcases hwrite : d.writeWhole (plan.outputDir.child (moduleFile (Spec.ofPage plan.base page)))
        (encode code) with ⟨d', e?⟩
    obtain ⟨hdisk, hresult⟩ := generate_of_written hdry hrender hwrite
    rw [hwrite] at hwritten
    rw [hdisk, hresult]
    obtain ⟨there, hnone, hway, hshort, hdir, hgains⟩ | ⟨⟨e, hsome⟩, hsame⟩ := hwritten
    · dsimp only at hnone
      subst hnone
      exact .done code there hrender hway hshort hdir hgains
    · dsimp only at hsome
      subst hsome
      exact .unwritten code e hrender hsame

/-! ### The main statements -/

end Componentry.Generation
