import ApiProxy.Proofs.Export.Repetition
import ApiProxy.Proofs.Run.Course

/-!
# What a run leaves

A run that generates and comes to its end leaves everything as another run with the same description
needs it: all files are settled, and the copy of the description stands in its place. The writing of
such a run can be repeated, unless a directory is in the place of a temporary file.

## Main definitions

* `FileTree.Stored`: a copy has been stored at its place.
* `RunOptions.Left`: a run with a description has left everything in its place.

## Main results

* `Job.left_of_emit`: what the writing of a run leaves.
* `Job.get?_of_emit`: the last of the files that are put at a place stands there.
* `Job.emit_again`, `Job.isOk_emit_again_iff`: what is written again, and when.
-/

namespace ApiProxy

open FileTree

/-! ### The files of a run -/

theorem RunOptions.isUsual_of_mem_files {o : RunOptions} {m : ApiDescription} {f : SourceFile}
    (hf : f ∈ o.files m) : f.IsUsual := by
  obtain ⟨classes, types, hclasses, htypes, hfiles, -⟩ := Job.exists_files_eq o m
  rw [hfiles] at hf
  rcases List.mem_append.1 hf with hf | hf
  · exact (ApiDescription.mem_controllerFiles hclasses hf).1
  · split at hf
    · exact (ApiDescription.mem_dataTypeFiles htypes hf).1
    · exact absurd hf List.not_mem_nil

/-- The folders of the files of a description have no dots in their names, if the names of its
controllers have no slashes. -/
theorem RunOptions.dotlessFolders_of_mem_files {o : RunOptions} {m : ApiDescription}
    {f : SourceFile} (hnames : ∀ c ∈ m.serviceControllers, '/' ∉ c.controllerName.toList)
    (hf : f ∈ o.files m) : DotlessFolders f.path := by
  obtain ⟨classes, types, hclasses, htypes, hfiles, -⟩ := Job.exists_files_eq o m
  rw [hfiles] at hf
  rcases List.mem_append.1 hf with hf | hf
  · exact ApiDescription.dotlessFolders_of_controllerFiles hnames hclasses hf
  · split at hf
    · exact ApiDescription.dotlessFolders_of_dataTypeFiles htypes hf
    · exact absurd hf List.not_mem_nil

theorem descriptionEnding_isEnding : IsEnding descriptionEnding := ⟨by decide, by decide⟩

theorem RunOptions.ends_artifactPath (o : RunOptions) (t : FileTree) :
    Ends (t.place o.artifactPath) descriptionEnding :=
  ends_join t _ _ descriptionEnding_isEnding

theorem RunOptions.not_ends_artifactPath (o : RunOptions) (t : FileTree) :
    ¬Ends (t.place o.artifactPath) temporaryEnding :=
  not_ends_of_ends (o.ends_artifactPath t) (by decide)

/-- The name of the copy has no slash, if the name of the module has none. -/
theorem RunOptions.slashParts_copy {o : RunOptions} (h : '/' ∉ o.moduleName.toList) :
    slashParts (o.moduleName ++ descriptionEnding) = [o.moduleName ++ descriptionEnding] := by
  have hslash : '/' ∉ (o.moduleName ++ descriptionEnding).toList := by
    rw [String.toList_append, List.mem_append, not_or]
    exact ⟨h, by decide⟩
  rw [slashParts, splitSlash_of_not_mem hslash, List.map_singleton, String.ofList_toList]

/-- The copy is put right behind the base, if the name of the module has no slash. -/
theorem RunOptions.steps_artifactPath {o : RunOptions} (h : '/' ∉ o.moduleName.toList) :
    o.artifactPath.anchor = o.outputRoot.anchor ∧
      steps o.artifactPath = o.outputRoot.lead ++ ([] ++ [o.moduleName ++ descriptionEnding]) := by
  have hjoin : o.artifactPath = ⟨o.outputRoot.anchor,
      o.outputRoot.front ++ [o.moduleName ++ descriptionEnding]⟩ :=
    Path.join_part o.outputRoot_ne_empty (slashParts_copy h)
  rw [hjoin]
  exact ⟨rfl, Path.steps_append ..⟩

namespace FileTree

/-- A content has been stored at the place of a path, and nothing else has been done but to make
directories on the way. -/
structure Stored (t : FileTree) (p : Path) (content : String) (t' : FileTree) : Prop where
  changes : t.ChangesOnly (· = t.place p) t'
  roomy : t'.Roomy p
  file : t'.get? (t.place p) = some (.file content)
  seen (loc : Location) (hloc : loc ≠ t.place p) :
    t'.seen? loc = t.seen? loc ∨ MadeOnWay p t t' loc

theorem Stored.retains {t t' : FileTree} {p : Path} {content : String}
    (h : t.Stored p content t') : t.Retains t' :=
  h.changes.retains_of_file fun _ hloc _ => hloc ▸ ⟨content, h.file⟩

end FileTree

namespace Job

variable {p : Path} {m : ApiDescription} {w w' : World}

/-- A copy is saved in two steps. -/
theorem saveDescription_steps (h : (saveDescription p m).perform w = (.ok (), w')) :
    ∃ w₁, (makeRoom p).perform w = (.ok (), w₁) ∧ w₁.tree.writeFile p m.text = .ok w'.tree := by
  obtain ⟨⟨⟩, w₁, hroom, h⟩ := perform_bind_eq_ok.1 h
  obtain ⟨⟨⟩, w₂, hwrite, h⟩ := perform_bind_eq_ok.1 h
  obtain ⟨-, rfl⟩ := Prod.mk.inj h
  obtain ⟨t, hwritten, rfl⟩ := changePartly_eq_ok.1 hwrite
  exact ⟨w₁, hroom, Disk.writeFile_eq_ok hwritten⟩

theorem get?_of_saveDescription (h : (saveDescription p m).perform w = (.ok (), w')) :
    w'.tree.get? (w.tree.place p) = some (.file m.text) := by
  obtain ⟨w₁, hroom, hwrite⟩ := saveDescription_steps h
  have hcurrent := (perform_makeRoom p w .sound).current
  rw [hroom] at hcurrent
  rw [← place_congr hcurrent]
  exact (writeFile_eq_ok hwrite).2.2.1

theorem saveDescription_eq_ok (hg : w.tree.Grounded)
    (h : (saveDescription p m).perform w = (.ok (), w')) : w.tree.Stored p m.text w'.tree := by
  have hchanges := perform_saveDescription p m w .sound
  rw [h] at hchanges
  obtain ⟨w₁, hroom, hwrite⟩ := saveDescription_steps h
  have hway := opensWay_makeRoom p w
  have hroomy := isDirectory_of_makeRoom hg hroom
  have hext := (perform_makeRoom p w).toExtends
  rw [hroom] at hway hext
  have hg₁ := hext.grounded hg
  obtain ⟨⟨loc, name, hend⟩, -, -, hagrees⟩ := writeFile_eq_ok hwrite
  have hext' := (changesOnly_writeFile hwrite).toExtends
  rw [hext.place] at hagrees
  refine ⟨hchanges, ⟨fun q hq => ?_, loc, name, hend.later hext' hg₁⟩, get?_of_saveDescription h,
    fun other hother => ?_⟩
  · exact (hroomy q hq).imp_right (isDirectory_later hext' hg₁)
  · have hsame := hagrees.seen other hother
    exact (hway.seen other).imp hsame.trans fun hmade =>
      ⟨hmade.passes, hmade.before, hsame.trans hmade.after⟩

/-- A copy is stored again where one is. -/
theorem saveDescription_again {content : String} (hg : w.tree.Grounded) (h : w.tree.Roomy p)
    (hfile : w.tree.get? (w.tree.place p) = some (.file content)) :
    ∃ w', (saveDescription p m).perform w = (.ok (), w') ∧
      w.tree.AgreesOff (· = w.tree.place p) w'.tree := by
  obtain ⟨loc, name, hend⟩ := h.ended
  have hfree : w.tree.isDirectoryAt (w.tree.place p) = false := by
    rw [← Bool.not_eq_true, isDirectoryAt_iff_seen?, seen?, Node.seen?_eq_some_some.2 hfile]
    intro hdir
    cases hdir
  obtain ⟨t, hwrite⟩ := hend.writeFile hfree m.text
  rcases hperform : (saveDescription p m).perform w with ⟨r, w'⟩
  rw [saveDescription, perform_bind, perform_makeRoom_of_roomy hg h] at hperform
  dsimp only at hperform
  rw [perform_bind, perform_writeFile, hwrite] at hperform
  obtain ⟨rfl, rfl⟩ := Prod.mk.inj hperform
  exact ⟨_, rfl, (writeFile_eq_ok hwrite).2.2.2⟩

/-! ### The writing of a run -/

variable {o : RunOptions} {report : ExportReport}

/-- The writing of a run is an export and the storing of a copy. -/
theorem emit_eq_ok (h : (emit o m).perform w = (.ok report, w')) : ∃ w₁,
    (exportFiles o.exporter o.outputRoot (o.files m)).perform w = (.ok report, w₁) ∧
      (saveDescription o.artifactPath m).perform w₁ = (.ok (), w') := by
  obtain ⟨report', w₁, hexport, h⟩ := perform_bind_eq_ok.1 h
  obtain ⟨⟨⟩, w₂, hsave, h⟩ := perform_bind_eq_ok.1 h
  obtain ⟨hreport, rfl⟩ := Prod.mk.inj h
  obtain rfl := Except.ok.inj hreport
  exact ⟨w₁, hexport, hsave⟩

end Job

/-- A run with a description has left everything in its place. -/
structure RunOptions.Left (o : RunOptions) (m : ApiDescription) (t : FileTree) : Prop where
  settled : ∀ f ∈ o.files m, f.Settled o.outputRoot t
  roomy : t.Roomy o.artifactPath
  artifact : t.get? (t.place o.artifactPath) = some (.file m.text)

namespace Job

variable {o : RunOptions} {m : ApiDescription} {report : ExportReport} {w w' : World}

/-- The writing of a run that comes to its end leaves everything in its place. -/
theorem left_of_emit (hg : w.tree.Grounded) (h : (emit o m).perform w = (.ok report, w')) :
    w.tree.Retains w'.tree ∧ o.Left m w'.tree := by
  obtain ⟨w₁, hexport, hsave⟩ := emit_eq_ok h
  obtain ⟨hret, hsettled⟩ :=
    settled_of_exportFiles rfl hg (fun f => RunOptions.isUsual_of_mem_files) hexport
  have hg₁ := hret.grounded hg
  have hstored := saveDescription_eq_ok hg₁ hsave
  refine ⟨hret.trans hstored.retains, fun f hf => ?_, hstored.roomy, ?_⟩
  · exact (hsettled f hf).later (RunOptions.isUsual_of_mem_files hf) hg₁ hstored.retains
  · rw [hstored.retains.place]
    exact hstored.file

/-- No temporary file is left, and no directory is in the place of one, if neither the controllers
nor the module have slashes in their names. -/
theorem vacant_of_emit (hg : w.tree.Grounded)
    (hcontrollers : ∀ c ∈ m.serviceControllers, '/' ∉ c.controllerName.toList)
    (hmodule : '/' ∉ o.moduleName.toList) (h : (emit o m).perform w = (.ok report, w')) :
    ∀ f ∈ o.files m, f.policy = .overwrite → f.Vacant o.outputRoot w'.tree := by
  intro f hf hpolicy p hp
  obtain ⟨w₁, hexport, hsave⟩ := emit_eq_ok h
  have husual (f : SourceFile) : f ∈ o.files m → f.IsUsual := RunOptions.isUsual_of_mem_files
  obtain ⟨hret, hsettled⟩ := settled_of_exportFiles rfl hg husual hexport
  have hvacant := vacant_of_exportFiles rfl o.outputRoot_ne_empty hg husual
    (fun f => RunOptions.dotlessFolders_of_mem_files hcontrollers) hexport f hf hpolicy p hp
  have hg₁ := hret.grounded hg
  have hstored := saveDescription_eq_ok hg₁ hsave
  rw [hstored.retains.place]
  have hends := ends_temporaryPath w₁.tree p
  have hne : w₁.tree.place (temporaryPath p) ≠ w₁.tree.place o.artifactPath :=
    fun heq => o.not_ends_artifactPath w₁.tree (heq ▸ hends)
  refine (hstored.seen _ hne).elim (·.trans hvacant) fun hmade => ?_
  -- the copy is put into the base itself, which was entered
  obtain ⟨hanchor, hsteps⟩ := RunOptions.steps_artifactPath hmodule
  have hlead := (hsettled f hf).leadsIn o.outputRoot_ne_empty
  rw [← start_eq_of_anchor w₁.tree hanchor] at hlead
  obtain ⟨front, name, hname, -⟩ := hmade.exists_mem hg₁ hlead hsteps List.not_mem_nil hne
  exact absurd hname List.not_mem_nil

/-- What a run has left is written again, unless a directory is in the place of a temporary file. -/
theorem emit_again (hg : w.tree.Grounded) (h : o.Left m w.tree)
    (hfree : ∀ f ∈ o.files m, f.Free o.outputRoot w.tree) :
    ∃ w', (emit o m).perform w = (.ok (.ofFiles (o.files m)), w') ∧
      w.tree.AgreesOff (fun loc => (∃ f ∈ o.files m, f.Touches o.outputRoot w.tree loc) ∨
        loc = w.tree.place o.artifactPath) w'.tree ∧
      ∀ f ∈ o.files m, f.policy = .overwrite → f.Vacant o.outputRoot w'.tree := by
  have husual (f : SourceFile) : f ∈ o.files m → f.IsUsual := RunOptions.isUsual_of_mem_files
  obtain ⟨w₁, hexport, hagrees, hvacant⟩ :=
    exportFiles_again (o := o.exporter) rfl hg husual h.settled hfree
  have hret := (settled_of_exportFiles rfl hg husual hexport).1
  have hg₁ := hret.grounded hg
  obtain ⟨content, hfile⟩ := hret.file _ (o.not_ends_artifactPath w.tree) ⟨_, h.artifact⟩
  rw [← hret.place] at hfile
  obtain ⟨w', hsave, hagrees'⟩ :=
    saveDescription_again (m := m) hg₁ (h.roomy.later hret.toExtends hg) hfile
  refine ⟨w', ?_, (hagrees.mono fun _ => .inl).trans (hagrees'.mono fun loc hloc => .inr ?_),
    fun f hf hpolicy p hp => ?_⟩
  · rw [emit, perform_bind, hexport]
    dsimp only
    rw [perform_bind, hsave]
    rfl
  · rw [hloc, hret.place]
  · rw [hagrees'.place, hagrees'.seen _ fun heq => ?_]
    · exact hvacant f hf hpolicy p hp
    · exact o.not_ends_artifactPath w₁.tree (heq ▸ ends_temporaryPath w₁.tree p)

/-- What a run has left is written again exactly if no directory is in the place of a temporary
file. -/
theorem isOk_emit_again_iff (hg : w.tree.Grounded) (h : o.Left m w.tree) :
    ((emit o m).perform w).1.isOk = true ↔ ∀ f ∈ o.files m, f.Free o.outputRoot w.tree := by
  constructor
  · intro hok
    rcases hperform : (emit o m).perform w with ⟨e | report, w'⟩
    · rw [hperform] at hok
      cases hok
    · obtain ⟨w₁, hexport, -⟩ := emit_eq_ok hperform
      exact free_of_exportFiles rfl hg (fun f => RunOptions.isUsual_of_mem_files) h.settled hexport
  · intro hfree
    obtain ⟨w', hperform, -⟩ := emit_again hg h hfree
    rw [hperform]
    rfl

end Job

end ApiProxy
