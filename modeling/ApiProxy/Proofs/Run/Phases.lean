import ApiProxy.Proofs.Export.Effect
import ApiProxy.Proofs.Run.Regeneration

/-!
# The two exports of a run

A run generates and exports the files of the controllers first and then, with contracts, those of
the data types. Since all files can be generated, it comes to the same as generating all files and
exporting them at once: what the first export has done when it stops is what the single one has done
then. So the counts that a run yields can be read off the files of the description and the report.

## Main definitions

* `Job.emitInPhases`: the two exports of a run.

## Main results

* `Job.alike_emitInPhases`: the two exports are one.
* `Job.emitInPhases_single`: the two exports are one, and what a run that succeeds has counted.
-/

namespace ApiProxy

/-! ### Counting files -/

namespace ApiDescription

variable {m : ApiDescription} {o : GeneratorOptions} {files : List SourceFile}

theorem countP_stub_of_controllerFiles (h : m.controllerFiles o = .ok files) :
    files.countP (·.kind == .classStub) = m.serviceControllers.length := by
  have hkinds := congrArg (List.countP (· == FileKind.classStub)) (kinds_of_controllerFiles h)
  rw [List.countP_map, List.countP_flatMap] at hkinds
  refine hkinds.trans ?_
  cases o.withContracts <;> simp [Function.comp_def]

theorem length_of_controllerFiles (h : m.controllerFiles o = .ok files) :
    files.length = (if o.withContracts then 3 else 2) * m.serviceControllers.length := by
  have hkinds := congrArg List.length (kinds_of_controllerFiles h)
  rw [List.length_map, List.length_flatMap] at hkinds
  refine hkinds.trans ?_
  cases o.withContracts <;> simp [Nat.mul_comm]

theorem filter_createOnce_of_generate (h : m.generate o = .ok files) :
    files.filter (·.policy == .createOnce) = files.filter (·.kind == .classStub) := by
  refine List.filter_congr fun f hf => ?_
  rw [(isUsual_of_generate h hf).policy]
  cases f.kind <;> rfl

end ApiDescription

namespace RunOptions

variable (o : RunOptions) (m : ApiDescription)

/-- The files that a run exports are all that are generated for the description. -/
theorem generate_eq_ok_files : m.generate o.generator = .ok (o.files m) := by
  obtain ⟨classes, types, hclasses, htypes, hfiles, -⟩ := Job.exists_files_eq o m
  rw [hfiles, ApiDescription.generate, hclasses, ok_bind, htypes]
  change (if o.withContracts = true then Except.ok (classes ++ types) else .ok classes) = _
  split
  · rfl
  · rw [List.append_nil]

/-- The files that a run exports, counted by their kinds. -/
theorem count_files : (o.files m).countP (·.kind == .classStub) = m.serviceControllers.length ∧
    (o.files m).length = (if o.withContracts then 3 else 2) * m.serviceControllers.length +
      (o.files m).countP (·.kind == .dataType) := by
  obtain ⟨classes, types, hclasses, htypes, hfiles, hcount⟩ := Job.exists_files_eq o m
  have hnone : types.countP (·.kind == .classStub) = 0 := by
    rw [List.countP_eq_zero]
    intro f hf
    rw [(ApiDescription.mem_dataTypeFiles htypes hf).2]
    decide
  have hstubs := ApiDescription.countP_stub_of_controllerFiles hclasses
  have hlength := ApiDescription.length_of_controllerFiles hclasses
  rw [hcount, hfiles, List.countP_append, List.length_append, hstubs, hlength]
  have hmore : o.generator.withContracts = o.withContracts := rfl
  rw [hmore]
  split
  · exact ⟨by rw [hnone, Nat.add_zero], rfl⟩
  · exact ⟨rfl, rfl⟩

end RunOptions

/-! ### The two exports -/

namespace Job

/-- The two exports of a run, one after the other. -/
def emitInPhases (o : RunOptions) (m : ApiDescription) : Job ExportReport := do
  let classes ← emitControllers o m
  let types ←
    if o.withContracts then do
      let emitted ← emitDataTypes o m
      pure emitted.2
    else pure .empty
  return classes ++ types

/-- The two exports of a run are one: they yield the same, also when they stop, and make the same of
the tree. -/
theorem alike_emitInPhases (o : RunOptions) (m : ApiDescription) :
    Alike (emitInPhases o m) (exportFiles o.exporter o.outputRoot (o.files m)) := by
  obtain ⟨classes, types, hclasses, htypes, hfiles, -⟩ := exists_files_eq o m
  have hclasses' : (ofExcept (m.controllerFiles o.generator) : Job _) = pure classes := by
    rw [hclasses]
    rfl
  have htypes' : (ofExcept (m.dataTypeFiles o.generator) : Job _) = pure types := by
    rw [htypes]
    rfl
  rw [emitInPhases, emitControllers, bind_assoc]
  refine alike_note_bind ?_
  rw [hclasses', pure_bind, hfiles, exportFiles_append]
  refine (onTree_exportFiles _ _ _).alike.bind fun r => ?_
  cases hcontracts : o.withContracts with
  | false =>
    rw [if_neg Bool.false_ne_true, if_neg Bool.false_ne_true, pure_bind, exportFiles, pure_bind]
    exact alike_pure rfl
  | true =>
    rw [if_pos rfl, if_pos rfl, emitDataTypes, bind_assoc, bind_assoc]
    refine alike_note_bind ?_
    rw [htypes', pure_bind, bind_assoc]
    refine (onTree_exportFiles _ _ _).alike.bind fun s => ?_
    rw [pure_bind, pure_bind]
    exact alike_pure rfl

variable {o : RunOptions} {s : Source} {m : ApiDescription} {w w' : World}
  {summary : GenerationSummary} {report : ExportReport}

/-- What a run has counted that succeeds. -/
theorem counts_of_generate (hrequest : ((request o s).perform w).1 = .ok m)
    (h : (generate o s).perform w = (.ok summary, w')) :
    summary.controllers = (o.files m).countP (·.kind == .classStub) ∧
      summary.dataTypes = (o.files m).countP (·.kind == .dataType) ∧
      summary.written.length + summary.skipped.length =
        (if o.withContracts then 3 else 2) * summary.controllers + summary.dataTypes ∧
      summary.skipped.Sublist (((o.files m).filter (·.kind == .classStub)).map (·.path)) := by
  obtain ⟨hresult, -⟩ := perform_generate_of_ok hrequest .sound
  rw [h] at hresult
  obtain ⟨report, hemit, rfl⟩ := map_eq_ok.1 hresult.symm
  obtain ⟨report', w₁, hexport, hrest⟩ := perform_bind_eq_ok.1 (Prod.ext hemit rfl)
  obtain ⟨⟨⟩, w₂, -, hpure⟩ := perform_bind_eq_ok.1 hrest
  obtain rfl : report' = report := Except.ok.inj (Prod.mk.inj hpure).1
  have hsorts := sorts_of_exportFiles hexport
  obtain ⟨hstubs, hlength⟩ := o.count_files m
  refine ⟨hstubs.symm, rfl, hsorts.total_eq.trans hlength, ?_⟩
  rw [← ApiDescription.filter_createOnce_of_generate (o.generate_eq_ok_files m)]
  exact hsorts.skipped_sublist

/-- The two exports of a run come to the same as a single one of all files that are generated for
its description, whatever the disk. If a run succeeds, it has counted the stubs and the data types
of these files, its report is about all of them, and only stubs were skipped. -/
theorem emitInPhases_single (o : RunOptions) :
    (∀ m, ∃ files, m.generate o.generator = .ok files ∧
      Alike (emitInPhases o m) (exportFiles o.exporter o.outputRoot files)) ∧
    ∀ s w disk summary w', (generate o s).perform w disk = (.ok summary, w') → ∃ m files,
      ((request o s).perform w).1 = .ok m ∧ m.generate o.generator = .ok files ∧
        summary.controllers = files.countP (·.kind == .classStub) ∧
        summary.dataTypes = files.countP (·.kind == .dataType) ∧
        summary.written.length + summary.skipped.length =
          (if o.withContracts then 3 else 2) * summary.controllers + summary.dataTypes ∧
        summary.skipped.Sublist ((files.filter (·.kind == .classStub)).map (·.path)) := by
  refine ⟨fun m => ⟨o.files m, o.generate_eq_ok_files m, alike_emitInPhases o m⟩,
    fun s w disk summary w' h => ?_⟩
  replace h := (steady_generate o s).perform_eq h
  cases hrequest : ((request o s).perform w).1 with
  | error e =>
    obtain ⟨hresult, -⟩ := perform_generate_of_error hrequest .sound
    cases (congrArg Prod.fst h).symm.trans hresult
  | ok m =>
    exact ⟨m, o.files m, rfl, o.generate_eq_ok_files m, counts_of_generate hrequest h⟩

end Job

/-- A run for a service and a data type, in a project with a stub of the user. -/
def shelfRun : Except Failure GenerationSummary × World :=
  (Job.generate staleOptions (.given "inline" (.ok (bookDescription
    (.ofList [("Acme.Book", ⟨none, false, none, none, none, none⟩)]))))).perform staleWorld

/-- The run succeeds, with one service, one data type, and the stub skipped. -/
theorem Job.emitInPhases_single_shelf : ∃ summary w', shelfRun = (.ok summary, w') ∧
    (summary.controllers, summary.dataTypes, summary.written.length, summary.skipped.length) =
      (1, 1, 3, 1) ∧
    ∃ files : List SourceFile, summary.controllers = files.countP (·.kind == .classStub) ∧
      summary.dataTypes = files.countP (·.kind == .dataType) ∧
      summary.written.length + summary.skipped.length =
        (if staleOptions.withContracts then 3 else 2) * summary.controllers + summary.dataTypes ∧
      summary.skipped.Sublist ((files.filter (·.kind == .classStub)).map (·.path)) := by
  have hcounts : (shelfRun.1.toOption.map fun summary => (summary.controllers, summary.dataTypes,
      summary.written.length, summary.skipped.length)) = some (1, 1, 3, 1) := by decide +kernel
  rcases hrun : shelfRun with ⟨e | summary, w'⟩
  · rw [hrun] at hcounts
    cases hcounts
  · rw [hrun] at hcounts
    obtain ⟨m, files, -, -, hfiles⟩ := (emitInPhases_single staleOptions).2 _ _ .sound _ _ hrun
    exact ⟨summary, w', rfl, Option.some.inj hcounts, files, hfiles⟩

end ApiProxy
