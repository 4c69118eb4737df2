import ApiProxy.Proofs.Description.Narrowing
import ApiProxy.Proofs.Run.Regeneration

/-!
# Running from the saved description

A run saves the description that it worked on. Whoever takes the saved file as the source of a run
for the same module, with contracts, works on this description again, so the same files are
generated, and the description is saved as the same text.

In the tree that the first run left, such a run comes to its end unless a directory is in the place
of a temporary file. A slash in the name of a controller or of the module can make such a directory.

## Main definitions

* `Source.GivesRead`: whatever a source gives was read from a document.
* `FileTree.Drives`: runs that take a file as their source work on a description.

## Main results

* `Source.givesRead_file`, `Source.givesRead_service`: saved files and services are such sources.
* `FileTree.drives_of_readFile`: which files runs can take as their source.
* `Job.generate_saved`: what can be done with the description that a run saved.
-/

namespace ApiProxy

/-! ### What sources give -/

namespace ApiDescription

theorem read_eq_ok {text : String} {m : ApiDescription} :
    ApiDescription.read text = .ok m ↔ ofText text = .ok m :=
  mapError_eq_ok

end ApiDescription

namespace Source

/-- Whatever a source gives together with its data types was read from a document. -/
def GivesRead (s : Source) : Prop :=
  ∀ w m, (s.supply w true).result = .ok m → ∃ document, ApiDescription.ofText document = .ok m

/-- What is in a saved file. -/
theorem supply_file {p : Path} {w : World} {text : String} (h : w.tree.readFile p = .ok text) :
    ((file p).supply w true).result = ApiDescription.read text := by
  rw [file]
  dsimp only
  rw [h]
  dsimp only
  cases ApiDescription.read text <;> rfl

theorem givesRead_file (p : Path) : (file p).GivesRead := by
  intro w m h
  cases hfile : w.tree.readFile p with
  | error f =>
    rw [file] at h
    dsimp only at h
    rw [hfile] at h
    cases h
  | ok text => exact ⟨text, ApiDescription.read_eq_ok.1 ((supply_file hfile).symm.trans h)⟩

theorem givesRead_service (address : String) : (service address).GivesRead := by
  intro w m h
  rw [service] at h
  dsimp only at h
  split at h
  · cases h
  · next text _ => exact ⟨text, ApiDescription.read_eq_ok.1 h⟩

theorem givesRead_given {location document : String} {m : ApiDescription}
    (h : ApiDescription.ofText document = .ok m) : (given location (.ok m)).GivesRead := by
  rintro w m' hm
  obtain rfl := Except.ok.inj hm
  exact ⟨document, h⟩

end Source

namespace Job

variable {o : RunOptions} {s : Source} {m : ApiDescription} {p : Path} {w w' : World}

/-- What a source gives is narrowed to the module. -/
theorem fst_perform_fetchModule (s : Source) (includeTypes : Bool) (moduleName : String)
    (w : World) : ((fetchModule s includeTypes moduleName).perform w).1 =
      (s.supply w includeTypes).result.bind (·.selectModule moduleName) := by
  rw [fetchModule, perform_bind, perform_get]
  dsimp only
  rw [perform_bind, perform_note]
  dsimp only
  rw [perform_bind, perform_ofExcept]
  cases (s.supply w includeTypes).result with
  | error e => rfl
  | ok m =>
    dsimp only
    rw [perform_bind, perform_note]
    dsimp only
    rw [perform_ofExcept]
    rfl

/-- A description is requested by asking the source with contracts or without. -/
theorem exists_request_eq (o : RunOptions) (s : Source) (w : World) : ∃ w₁,
    ((request o s).perform w).1 =
        (s.supply w₁ o.withContracts).result.bind (·.selectModule o.moduleName) ∧
      w₁.tree = w.tree := by
  rw [request, perform_bind, perform_note]
  exact ⟨_, fst_perform_fetchModule .., rfl⟩

/-- What a run with contracts gets from a source was read from a document and then narrowed. -/
theorem exists_ofText_of_request (hsource : s.GivesRead) (hcontracts : o.withoutContracts = false)
    (h : ((request o s).perform w).1 = .ok m) : ∃ document fetched,
      ApiDescription.ofText document = .ok fetched ∧ fetched.selectModule o.moduleName = .ok m := by
  obtain ⟨w₁, hrequest, -⟩ := exists_request_eq o s w
  rw [h, RunOptions.withContracts, hcontracts] at hrequest
  obtain ⟨fetched, hsupply, hselect⟩ := bind_eq_ok.1 hrequest.symm
  obtain ⟨document, hdocument⟩ := hsource w₁ fetched hsupply
  exact ⟨document, fetched, hdocument, hselect⟩

end Job

/-! ### Files as sources -/

/-- Every run for a module, with contracts, that takes a file as its source works on the given
description, and if it comes to its end, on whatever disk, it saves the description as the same
text. -/
structure FileTree.Drives (t : FileTree) (p : Path) (moduleName : String) (m : ApiDescription) :
    Prop where
  request (o : RunOptions) (w : World) (hmodule : o.moduleName = moduleName)
    (hcontracts : o.withoutContracts = false) (hw : w.tree = t) :
    ((Job.request o (.file p)).perform w).1 = .ok m
  saves (o : RunOptions) (w w' : World) (disk : Disk) (summary : GenerationSummary)
    (hmodule : o.moduleName = moduleName) (hcontracts : o.withoutContracts = false)
    (hw : w.tree = t) (hrun : (Job.generate o (.file p)).perform w disk = (.ok summary, w')) :
    w'.tree.readFile o.artifactPath = .ok m.text

theorem RunOptions.Left.readFile {o : RunOptions} {m : ApiDescription} {t : FileTree}
    (h : o.Left m t) : t.readFile o.artifactPath = .ok m.text := by
  obtain ⟨loc, name, hend⟩ := h.roomy.ended
  exact hend.readFile h.artifact

/-- A file drives runs if the description is read from it and the module is all that is in it. -/
theorem FileTree.drives_of_readFile {t : FileTree} {p : Path} {moduleName : String}
    {m : ApiDescription} (hg : t.Grounded) (hfile : t.readFile p = .ok m.text)
    (hread : ApiDescription.ofText m.text = .ok m) (hselect : m.selectModule moduleName = .ok m) :
    t.Drives p moduleName m := by
  have hrequest (o : RunOptions) (w : World) (hmodule : o.moduleName = moduleName)
      (hcontracts : o.withoutContracts = false) (hw : w.tree = t) :
      ((Job.request o (.file p)).perform w).1 = .ok m := by
    obtain ⟨w₁, hrequest, htree⟩ := Job.exists_request_eq o (.file p) w
    rw [← hw, ← htree] at hfile
    rw [hrequest, RunOptions.withContracts, hcontracts]
    refine bind_eq_ok.2 ⟨m, ?_, hmodule ▸ hselect⟩
    exact (Source.supply_file hfile).trans (ApiDescription.read_eq_ok.2 hread)
  refine ⟨hrequest, fun o w w' disk summary hmodule hcontracts hw hrun => ?_⟩
  obtain ⟨m', report, w₁, hrequest', hemit, -, htree⟩ :=
    Job.generate_eq_ok ((Job.steady_generate o _).perform_eq hrun)
  obtain rfl := Except.ok.inj ((hrequest o w hmodule hcontracts hw).symm.trans hrequest')
  rw [htree]
  exact (Job.left_of_emit (hw ▸ hg) hemit).2.readFile

namespace Job

/-- A run with contracts that comes to its end, on whatever disk, saves the description that it
worked on. Every file with the saved text drives runs for the same module. In the tree that was
left, and if nothing is refused, the run can be repeated with the saved description as its source
exactly if no directory is in the place of a temporary file; there is none if neither the
controllers nor the module have slashes in their names. -/
theorem generate_saved (o : RunOptions) (s : Source) (m : ApiDescription) (w w' : World)
    (disk : Disk) (summary : GenerationSummary) (hg : w.tree.Grounded) (hsource : s.GivesRead)
    (hcontracts : o.withoutContracts = false)
    (hdouble : ∀ d, Json.Number.double d ∈ (ApiDescription.codec.write m).numbers →
      (Json.Number.double d).ReadsBack)
    (hrequest : ((request o s).perform w).1 = .ok m)
    (hrun : (generate o s).perform w disk = (.ok summary, w')) :
    w'.tree.readFile o.artifactPath = .ok m.text ∧
      (∀ (t : FileTree) (p : Path), t.Grounded → t.readFile p = .ok m.text →
        t.Drives p o.moduleName m) ∧
      (∀ w₂, w₂.tree = w'.tree →
        (((generate o (.file o.artifactPath)).perform w₂).1.isOk = true ↔
          ∀ f ∈ o.files m, f.Free o.outputRoot w'.tree)) ∧
      ((∀ c ∈ m.serviceControllers, '/' ∉ c.controllerName.toList) →
        '/' ∉ o.moduleName.toList → ∀ f ∈ o.files m, f.Free o.outputRoot w'.tree) := by
  obtain ⟨document, fetched, hdocument, hselect⟩ :=
    exists_ofText_of_request hsource hcontracts hrequest
  have hread := ApiDescription.ofText_text_of_selectModule hdocument hselect hdouble
  have hdrives (t : FileTree) (p : Path) (hg : t.Grounded) (hfile : t.readFile p = .ok m.text) :
      t.Drives p o.moduleName m :=
    FileTree.drives_of_readFile hg hfile hread (ApiDescription.selectModule_of_selectModule hselect)
  obtain ⟨m', report, w₁, hrequest', hemit, -, htree⟩ :=
    generate_eq_ok ((steady_generate o s).perform_eq hrun)
  obtain rfl := Except.ok.inj (hrequest.symm.trans hrequest')
  obtain ⟨hret, hleft⟩ := left_of_emit hg hemit
  rw [htree]
  refine ⟨hleft.readFile, hdrives, fun w₂ hw₂ => ?_, fun hcontrollers hmodule f hf => ?_⟩
  · have hg₁ := hret.grounded hg
    have hrequest₂ := (hdrives _ _ hg₁ hleft.readFile).request o w₂ rfl hcontracts hw₂
    obtain ⟨hresult, -⟩ := perform_generate_of_ok hrequest₂ .sound
    rw [hresult, ← hw₂, ← isOk_emit_again_iff (hw₂ ▸ hg₁) (hw₂ ▸ hleft)]
    cases ((emit o m).perform w₂).1 <;> rfl
  · exact SourceFile.Vacant.free (vacant_of_emit hg hcontrollers hmodule hemit f hf)

end Job

/-! ### A name with a slash -/

/-- A service for books, and a controller with a name whose stub stands in a directory that is named
like the temporary file of the proxy class of the service. -/
def crowdedDescription : ApiDescription :=
  let controller (name : String) : Controller :=
    ⟨name, none, true, false, none, "Acme.BookController", [⟨"Acme.IBookService", none, []⟩],
      .empty⟩
  ⟨.ofList [("app", ⟨"app", "Default", .ofList [("a", controller "Book"),
    ("b", controller "BookClientProxy.Generated.cs.tmp/Other")]⟩)], .empty⟩

/-- A project with nothing generated in it. -/
def crowdedWorld : World where
  tree := ⟨.directory [("App.csproj", .file "")], []⟩
  network := .silent

/-- The options of runs in this project. -/
def crowdedOptions : RunOptions := { workDirectory := ⟨.here, []⟩, givenFolder? := some "out" }

/-- A run in this project. -/
def crowdedRun : Except Failure GenerationSummary × World :=
  (Job.generate crowdedOptions (.given "inline" (.ok crowdedDescription))).perform crowdedWorld

/-- The run succeeds, but it cannot be repeated with the description that it saved. -/
theorem Job.generate_saved_crowded : ∃ summary w', crowdedRun = (.ok summary, w') ∧
    w'.tree.readFile crowdedOptions.artifactPath = .ok crowdedDescription.text ∧
    (∀ (t : FileTree) (p : Path), t.Grounded → t.readFile p = .ok crowdedDescription.text →
      t.Drives p "app" crowdedDescription) ∧
    ((generate crowdedOptions (.file crowdedOptions.artifactPath)).perform w').1.isOk = false := by
  obtain ⟨hok, hcrowded⟩ : crowdedRun.1.isOk = true ∧
      ¬∀ f ∈ crowdedOptions.files crowdedDescription,
        f.Free crowdedOptions.outputRoot crowdedRun.2.tree := by decide +kernel
  have hnone : ∀ n, n ∉ (ApiDescription.codec.write crowdedDescription).numbers := by
    have hnumbers : (ApiDescription.codec.write crowdedDescription).numbers = [] := by
      decide +kernel
    rw [hnumbers]
    exact fun n => List.not_mem_nil
  have hread : ApiDescription.ofText crowdedDescription.text = .ok crowdedDescription :=
    Json.Codec.Restores.ofText_indented ⟨by rfl, fun n hn => absurd hn (hnone n)⟩
      fun d hd => absurd hd (hnone _)
  rcases hrun : crowdedRun with ⟨e | summary, w'⟩
  · rw [hrun] at hok
    cases hok
  rw [hrun] at hcrowded
  obtain ⟨hfile, hdrives, hagain, -⟩ := generate_saved crowdedOptions _ crowdedDescription
    crowdedWorld w' .sound summary (by decide) (Source.givesRead_given hread) rfl
    (fun d hd => absurd hd (hnone _)) (by rfl) hrun
  refine ⟨summary, w', rfl, hfile, hdrives, ?_⟩
  rw [← Bool.not_eq_true, hagain w' rfl]
  exact hcrowded

end ApiProxy
