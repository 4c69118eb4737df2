import ApiProxy.Proofs.Path.Relative
import ApiProxy.Proofs.Run.Regeneration
import ApiProxy.Proofs.Run.Removal

/-!
# Shown paths lead back

A run shows the output folder and the copy of the description as they are seen from the directory of
the project. Whoever puts what is shown behind this directory gets the same components again, and so
is led to the same place: a folder that lies elsewhere starts at the root and is shown as a whole.

## Main definitions

* `RunOptions.LeadsBack`: a shown text leads from the directory of the project to a path.

## Main results

* `Path.place_eq_follow_names`: idle parts of a path make no difference to its place.
* `RunOptions.displayPath_leads_back`: what a run shows leads back.
-/

namespace ApiProxy

open FileTree

/-! ### Places by components -/

theorem FileTree.follow_filter (loc : Location) (parts : List String) :
    follow loc (parts.filter fun part => !Path.isIdle part) = follow loc parts := by
  induction parts generalizing loc with
  | nil => rfl
  | cons part parts ih =>
    cases hidle : Path.isIdle part with
    | true =>
      rw [List.filter_cons_of_neg (by simp [hidle]), ih, follow, follow, List.foldl_cons, advance,
        if_pos hidle]
    | false =>
      rw [List.filter_cons_of_pos (by simp [hidle]), follow, List.foldl_cons]
      exact ih (advance loc part)

/-- A path leads where its names lead from its start. -/
theorem Path.place_eq_follow_names (t : FileTree) (p : Path) :
    t.place p = follow (t.start p) p.names := by
  have hsteps : ((steps p).filter fun part => !isIdle part) = p.names := by
    rw [steps]
    split
    · exact List.filter_cons_of_neg (by decide)
    · rfl
  rw [place, ← follow_filter, hsteps]

namespace RunOptions

/-- What is put behind the directory of the project has the components of a path, and leads to the
place of this path in every tree. -/
def LeadsBack (o : RunOptions) (shown : String) (p : Path) : Prop :=
  (o.workDirectory.join shown).components = p.components ∧
    ∀ t : FileTree, t.place (o.workDirectory.join shown) = t.place p

variable {o : RunOptions} {p : Path}

/-- What is shown of a path that starts at the root, or goes on from the directory of the project,
leads back. -/
theorem leadsBack_displayPath (hdirectory : o.workDirectory.Legible) (hp : p.Legible)
    (h : o.workDirectory.Spans p) : o.LeadsBack (o.displayPath p) p := by
  obtain ⟨hanchor, hnames⟩ := h.join_relativeTo? hp hdirectory
  refine ⟨?_, fun t => ?_⟩
  · rw [displayPath, Path.components, hanchor, hnames, Path.components]
  · rw [displayPath, Path.place_eq_follow_names, hnames, start_eq_of_anchor t hanchor,
      ← Path.place_eq_follow_names]

end RunOptions

/-- A removal shows its output folder. -/
theorem Job.output_of_remove {o : RunOptions} {w w' : World} {summary : RemovalSummary}
    (h : (remove o).perform w = (.ok summary, w')) :
    summary.output = o.displayPath o.outputRoot := by
  rw [remove] at h
  obtain ⟨⟨⟩, w₁, -, h⟩ := perform_bind_eq_ok.1 h
  obtain ⟨removed, w₂, -, h⟩ := perform_bind_eq_ok.1 h
  cases removed with
  | false =>
    obtain ⟨hsummary, -⟩ := Prod.mk.inj h
    exact Except.ok.inj hsummary ▸ rfl
  | true =>
    obtain ⟨hsummary, -⟩ := Prod.mk.inj h
    exact Except.ok.inj hsummary ▸ rfl

/-- **Shown paths lead back.** Whatever folder is given and whatever the module is called, what is
shown of the output folder and of the copy of the description leads back to them from the directory
of the project, component by component. So do the paths in the summary of every run that comes to
its end. -/
theorem RunOptions.displayPath_leads_back (o : RunOptions) (directory : String)
    (hdirectory : o.workDirectory = .ofText directory) :
    o.LeadsBack (o.displayPath o.outputRoot) o.outputRoot ∧
      o.LeadsBack (o.displayPath o.artifactPath) o.artifactPath ∧
      (∀ s w summary w', (Job.generate o s).perform w = (.ok summary, w') →
        o.LeadsBack summary.output o.outputRoot ∧ o.LeadsBack summary.artifact o.artifactPath) ∧
      ∀ w summary w', (Job.remove o).perform w = (.ok summary, w') →
        o.LeadsBack summary.output o.outputRoot := by
  have hlegible : o.workDirectory.Legible := hdirectory ▸ Path.legible_ofText directory
  have houtput : o.LeadsBack (o.displayPath o.outputRoot) o.outputRoot :=
    leadsBack_displayPath hlegible (hlegible.join _) (Path.spans_join _ _)
  have hartifact : o.LeadsBack (o.displayPath o.artifactPath) o.artifactPath :=
    leadsBack_displayPath hlegible ((hlegible.join _).join _)
      ((Path.spans_join _ _).join o.outputRoot_ne_empty _)
  refine ⟨houtput, hartifact, fun s w summary w' hrun => ?_, fun w summary w' hrun => ?_⟩
  · obtain ⟨m, report, w₁, -, -, rfl, -⟩ := Job.generate_eq_ok hrun
    exact ⟨houtput, hartifact⟩
  · rw [Job.output_of_remove hrun]
    exact houtput

/-- A folder beside the directory of the project, and a module in a folder above it. -/
def windingOptions : RunOptions where
  workDirectory := .ofText "./proj//"
  givenFolder? := some " ..//out/. "
  moduleName := "../sub/app"

/-- What is shown of both, as it was written. -/
theorem RunOptions.displayPath_leads_back_winding :
    windingOptions.displayPath windingOptions.outputRoot = "..//out" ∧
      windingOptions.LeadsBack "..//out" windingOptions.outputRoot ∧
      windingOptions.displayPath windingOptions.artifactPath =
        "..//out/./../sub/app-generate-proxy.json" ∧
      windingOptions.LeadsBack "..//out/./../sub/app-generate-proxy.json"
        windingOptions.artifactPath := by
  obtain ⟨houtput, hartifact, -⟩ := windingOptions.displayPath_leads_back "./proj//" rfl
  have hfolder : windingOptions.displayPath windingOptions.outputRoot = "..//out" := by
    decide +kernel
  have hcopy : windingOptions.displayPath windingOptions.artifactPath =
      "..//out/./../sub/app-generate-proxy.json" := by decide +kernel
  rw [hfolder] at houtput
  rw [hcopy] at hartifact
  exact ⟨hfolder, houtput, hcopy, hartifact⟩

end ApiProxy
