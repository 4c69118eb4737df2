import ApiProxy.Proofs.Run.SavedDescription

/-!
# What the stages of runs record

A run enters a stage when the work of that stage is done, so what its stages say about the file
tree is true: no file has changed before there is a description, the files of the controllers are
in their places once their stage has been entered, and so is the copy of the description. A run
that stops has only entered the first stages of its kind.

Several calls with the same options continue one record. Each call adds the stages that it enters,
whatever happens in between.

## Main definitions

* `Job.GoesOn`: which stages a job enters, whether it comes to its end, and which tree it leaves.
* `Course`: the ways in which a run that generates can go.
* `Call`, `calls`, `stagesAfter`: calls that continue one record.

## Main results

* `Job.goesOn_generate`, `Job.stages_remove`: what one call adds to the record.
* `Call.stages_outcome`: what the stages that one call adds say.
* `stagesAfter_eq_flatMap_segment`: what the record of many calls says.
-/

namespace ApiProxy

open FileTree

/-! ### Files in their places -/

section

variable {base : Path} {fs : List SourceFile} {t t' : FileTree} {finished : Bool}

/-- One of some generated files is found at its path, and if it is always written, generated
content stands there. -/
def SourceFile.InPlace (base : Path) (fs : List SourceFile) (t : FileTree) (f : SourceFile) :
    Prop :=
  ∃ p, locate base f.path = .ok p ∧ t.contains p = true ∧
    (f.policy = .overwrite → Holds base fs (t.place p) t)

/-- A file whose export did not stop is found at its path. -/
theorem Exported.contains {f : SourceFile} {written : Bool} (hg : t.Grounded)
    (h : Exported base f t (.ok written) t') :
    ∃ p, locate base f.path = .ok p ∧ t'.contains p = true := by
  cases h with
  | kept p hp _ hthere => exact ⟨p, hp, hthere⟩
  | written p _ hp _ hwritten =>
    obtain ⟨t₁, loc, name, hext, -, hend, hext'⟩ := hwritten.ended
    refine ⟨p, hp, (hend.later hext' (hext.grounded hg)).contains ?_⟩
    rw [hwritten.changes.place]
    exact Option.isSome_of_eq_some hwritten.file

/-- Files that were exported to the end are found at their paths. -/
theorem ExportedAll.contains (hg : t.Grounded) (hfs : ∀ f ∈ fs, f.IsUsual)
    (h : ExportedAll base fs t finished t') (hfinished : finished = true) :
    ∀ f ∈ fs, ∃ p, locate base f.path = .ok p ∧ t'.contains p = true := by
  induction h with
  | done t => exact List.forall_mem_nil _
  | next f fs t t₁ t' written finished h hrest ih =>
    rw [List.forall_mem_cons] at hfs ⊢
    have hg₁ := h.extends.grounded hg
    refine ⟨?_, ih hg₁ hfs.2 hfinished⟩
    obtain ⟨p, hp, hthere⟩ := h.contains hg
    exact ⟨p, hp, hrest.retains.contains hg₁ (hfs.1.not_ends hp) hthere⟩
  | stopped f fs t t' e h => exact nomatch hfinished

theorem ExportedAll.inPlace (hg : t.Grounded) (hfs : ∀ f ∈ fs, f.IsUsual)
    (h : ExportedAll base fs t true t') : ∀ f ∈ fs, f.InPlace base fs t' := by
  intro f hf
  obtain ⟨p, hp, hthere⟩ := h.contains hg hfs rfl f hf
  refine ⟨p, hp, hthere, fun hpolicy => ?_⟩
  rw [h.extends.place]
  have hput : ∃ g ∈ fs, g.PutAt base t (t.place p) ∧ g.policy ≠ .createOnce := by
    refine ⟨f, hf, ⟨p, hp, rfl⟩, ?_⟩
    rw [hpolicy]
    decide
  exact h.replaces rfl (List.Subset.refl fs) ((hfs f hf).not_ends hp) (.inl hput)

end

namespace Job

variable {α β : Type}

/-! ### Jobs that enter no stage -/

/-- A job enters no stage. -/
def KeepsStages (j : Job α) : Prop :=
  ∀ (w : World) (disk : Disk), (j.perform w disk).2.stages = w.stages

theorem keepsStages_pure (a : α) : KeepsStages (pure a) := fun _ _ => rfl

theorem keepsStages_note (es : List LogEntry) : KeepsStages (note es) := fun _ _ => rfl

theorem keepsStages_ofExcept (r : Except Failure α) : KeepsStages (ofExcept r) := fun w disk => by
  rw [perform_ofExcept]

theorem KeepsStages.bind {j : Job α} {k : α → Job β} (hj : KeepsStages j)
    (hk : ∀ a, KeepsStages (k a)) : KeepsStages (j >>= k) := by
  intro w disk
  have hfirst := hj w disk
  rw [perform_bind]
  generalize j.perform w disk = x at hfirst ⊢
  rcases x with ⟨e | a, w₁⟩
  · exact hfirst
  · exact (hk a w₁ disk).trans hfirst

theorem keepsStages_get_bind {k : World → Job α} (h : ∀ w, KeepsStages (k w)) :
    KeepsStages (get >>= k) := by
  intro w disk
  rw [perform_bind, perform_get]
  exact h w w disk

theorem keepsStages_change (p : Path)
    (operation : Disk → FileTree → Except FileFault FileTree) :
    KeepsStages (change p operation) := by
  intro w disk
  rw [perform_change]
  split <;> rfl

theorem keepsStages_changePartly (p : Path)
    (operation : Disk → FileTree → FileTree × Except FileFault Unit) :
    KeepsStages (changePartly p operation) := by
  intro w disk
  rw [perform_changePartly]

theorem keepsStages_makeRoom (p : Path) : KeepsStages (makeRoom p) := by
  rw [makeRoom]
  split
  · exact keepsStages_pure _
  · exact keepsStages_changePartly _ _

theorem keepsStages_write (atomic : Bool) (p : Path) (content : String) :
    KeepsStages (write atomic p content) := by
  rw [write]
  split
  · exact (keepsStages_changePartly _ _).bind fun _ => (keepsStages_change _ _).bind fun _ =>
      keepsStages_change _ _
  · exact keepsStages_changePartly _ _

theorem keepsStages_exportFile (o : ExportOptions) (base : Path) (f : SourceFile) :
    KeepsStages (exportFile o base f) := by
  refine (keepsStages_ofExcept _).bind fun p => keepsStages_get_bind fun w => ?_
  split
  · exact (keepsStages_note _).bind fun _ => keepsStages_pure _
  · exact (keepsStages_makeRoom p).bind fun _ => (keepsStages_write _ _ _).bind fun _ =>
      (keepsStages_note _).bind fun _ => keepsStages_pure _

theorem keepsStages_exportFiles (o : ExportOptions) (base : Path) (fs : List SourceFile) :
    KeepsStages (exportFiles o base fs) := by
  induction fs with
  | nil => exact keepsStages_pure _
  | cons f fs ih =>
    exact (keepsStages_exportFile o base f).bind fun _ => ih.bind fun _ => keepsStages_pure _

theorem keepsStages_saveDescription (p : Path) (m : ApiDescription) :
    KeepsStages (saveDescription p m) :=
  (keepsStages_makeRoom p).bind fun _ => (keepsStages_changePartly p _).bind fun _ =>
    keepsStages_note _

theorem keepsStages_request (o : RunOptions) (s : Source) : KeepsStages (request o s) :=
  (keepsStages_note _).bind fun _ => keepsStages_get_bind fun _ =>
    (keepsStages_note _).bind fun _ => (keepsStages_ofExcept _).bind fun _ =>
      (keepsStages_note _).bind fun _ => keepsStages_ofExcept _

theorem keepsStages_removeOutput (p : Path) : KeepsStages (removeOutput p) := by
  refine keepsStages_get_bind fun w => ?_
  split
  · exact (keepsStages_changePartly _ _).bind fun _ => (keepsStages_note _).bind fun _ =>
      keepsStages_pure _
  · exact (keepsStages_note _).bind fun _ => keepsStages_pure _

/-! ### How jobs go on -/

/-- A job that is started in a tree, on whatever disk, after some stages have been entered behind
those of an older record, goes on to an end with a property: the stages behind the older record,
whether the job came to its end, and the tree that it leaves. -/
def GoesOn (before : List Stage) (Q : List Stage → Bool → FileTree → Prop) (segment : List Stage)
    (t : FileTree) (j : Job α) : Prop :=
  ∀ (disk : Disk) w, w.stages = before ++ segment → w.tree = t →
    ∃ segment', (j.perform w disk).2.stages = before ++ segment' ∧
      Q segment' (j.perform w disk).1.isOk (j.perform w disk).2.tree

section

variable {before segment : List Stage} {Q : List Stage → Bool → FileTree → Prop} {t : FileTree}

theorem goesOn_pure {a : α} (h : Q segment true t) :
    GoesOn before Q segment t (pure a : Job α) := by
  rintro disk w hstages rfl
  exact ⟨segment, hstages, h⟩

/-- A job that enters no stage either ends everything, or the next job goes on from its tree. -/
theorem goesOn_bind {j : Job α} {k : α → Job β} (hj : KeepsStages j)
    (herror : ∀ disk w e w', w.tree = t → j.perform w disk = (.error e, w') →
      Q segment false w'.tree)
    (hok : ∀ disk w a w', w.tree = t → j.perform w disk = (.ok a, w') →
      GoesOn before Q segment w'.tree (k a)) :
    GoesOn before Q segment t (j >>= k) := by
  intro disk w hstages htree
  have hkept := hj w disk
  rw [hstages] at hkept
  rw [perform_bind]
  rcases hperform : j.perform w disk with ⟨e | a, w'⟩
  all_goals rw [hperform] at hkept
  · exact ⟨segment, hkept, herror disk w e w' htree hperform⟩
  · exact hok disk w a w' htree hperform disk w' hkept rfl

theorem goesOn_note_bind {es : List LogEntry} {k : Unit → Job α}
    (h : GoesOn before Q segment t (k ())) : GoesOn before Q segment t (note es >>= k) := by
  intro disk w hstages htree
  rw [perform_bind, perform_note]
  exact h disk _ hstages htree

theorem goesOn_enter_bind {s : Stage} {k : Unit → Job α}
    (h : GoesOn before Q (segment ++ [s]) t (k ())) :
    GoesOn before Q segment t (enter s >>= k) := by
  intro disk w hstages htree
  obtain ⟨es, henter⟩ := perform_enter s w disk
  rw [perform_bind, henter]
  refine h disk _ ?_ htree
  rw [← List.append_assoc, ← hstages]

theorem goesOn_exportFiles_bind {o : ExportOptions} {base : Path} {fs : List SourceFile}
    {k : ExportReport → Job α}
    (hstopped : ∀ t', ExportedAll base fs t false t' → Q segment false t')
    (hfinished : ∀ report t', ExportedAll base fs t true t' →
      GoesOn before Q segment t' (k report)) :
    GoesOn before Q segment t (exportFiles o base fs >>= k) := by
  refine goesOn_bind (keepsStages_exportFiles o base fs) (fun disk w e w' htree h => ?_)
    fun disk w report w' htree h => ?_
  all_goals
    have hexported := perform_exportFiles o base fs w disk
    rw [h, htree] at hexported
  · exact hstopped _ hexported
  · exact hfinished report _ hexported

end

/-! ### Saving the description -/

/-- A copy of a description that was saved stands in its place and is read from there. -/
theorem copy_of_saveDescription {p : Path} {m : ApiDescription} {w w' : World} {disk : Disk}
    (h : (saveDescription p m).perform w disk = (.ok (), w')) :
    w'.tree.get? (w'.tree.place p) = some (.file m.text) ∧
      (w.tree.Grounded → w'.tree.readFile p = .ok m.text) := by
  have hchanges := perform_saveDescription p m w disk
  rw [h] at hchanges
  have hsound := (steady_saveDescription p m).perform_eq h
  have hfile : w'.tree.get? (w'.tree.place p) = some (.file m.text) := by
    rw [hchanges.place]
    exact get?_of_saveDescription hsound
  refine ⟨hfile, fun hg => ?_⟩
  obtain ⟨loc, name, hend⟩ := (saveDescription_eq_ok hg hsound).roomy.ended
  exact hend.readFile hfile

theorem retains_saveDescription (p : Path) (m : ApiDescription) (w : World) (disk : Disk) :
    w.tree.Retains ((saveDescription p m).perform w disk).2.tree := by
  refine relates_saveDescription .refl (fun _ _ _ => .trans)
    (fun w disk => (perform_makeRoom p w disk).retains_of_file fun _ => False.elim)
    (fun t t' other hwrite => ?_) w disk
  obtain ⟨-, -, hfile, -⟩ := writeFile_eq_ok hwrite
  exact (changesOnly_writeFile hwrite).retains_of_file fun loc hloc _ => ⟨_, hloc ▸ hfile⟩

end Job

/-! ### Runs that generate -/

/-- A run works on a description: that which its source has given, narrowed to its module. -/
structure RunOptions.WorksOn (o : RunOptions) (s : Source) (w : World) (m : ApiDescription) :
    Prop where
  requested : ((Job.request o s).perform w).1 = .ok m
  narrowed : ∃ w' fetched, w'.tree = w.tree ∧
    (s.supply w' o.withContracts).result = .ok fetched ∧ fetched.selectModule o.moduleName = .ok m

theorem RunOptions.worksOn_of_request {o : RunOptions} {s : Source} {w : World}
    {m : ApiDescription} (h : ((Job.request o s).perform w).1 = .ok m) : o.WorksOn s w m := by
  obtain ⟨w', hrequest, htree⟩ := Job.exists_request_eq o s w
  obtain ⟨fetched, hsupply, hselect⟩ := bind_eq_ok.1 (hrequest.symm.trans h)
  exact ⟨h, w', fetched, htree, hsupply, hselect⟩

/-- All files of the controllers of a description have been exported. -/
def RunOptions.ExportsClasses (o : RunOptions) (m : ApiDescription) (t t' : FileTree) : Prop :=
  ∃ fs, m.controllerFiles o.generator = .ok fs ∧ ExportedAll o.outputRoot fs t true t'

/-- With contracts, all files of the data types of a description have been exported. -/
def RunOptions.ExportsDataTypes (o : RunOptions) (m : ApiDescription) (t t' : FileTree) : Prop :=
  if o.withContracts then
    ∃ fs, m.dataTypeFiles o.generator = .ok fs ∧ ExportedAll o.outputRoot fs t true t'
  else t' = t

section

variable {o : RunOptions} {m : ApiDescription} {t t' : FileTree}

theorem RunOptions.ExportsClasses.retains (h : o.ExportsClasses m t t') : t.Retains t' := by
  obtain ⟨fs, -, hexport⟩ := h
  exact hexport.retains

theorem RunOptions.ExportsDataTypes.retains (h : o.ExportsDataTypes m t t') : t.Retains t' := by
  rw [ExportsDataTypes] at h
  split at h
  · obtain ⟨fs, -, hexport⟩ := h
    exact hexport.retains
  · exact h ▸ .refl t

end

/-- A run that started in a tree has left a copy of a description: it stands in its place and, if
there was a current directory, is read from there. -/
structure RunOptions.KeepsCopy (o : RunOptions) (m : ApiDescription) (t t' : FileTree) :
    Prop where
  stands : t'.get? (t'.place o.artifactPath) = some (.file m.text)
  isRead : t.Grounded → t'.readFile o.artifactPath = .ok m.text

/-- The stage of the data types, if there are contracts. -/
def RunOptions.dataTypeStages (o : RunOptions) : List Stage :=
  if o.withContracts then [.dataTypesEmitted] else []

/-- How a run that generates can go: the stages that it enters, whether it comes to its end, and
the tree that it leaves. It stops without a description, among the files of the controllers, among
those of the data types, or where the copy of the description is to be saved. -/
inductive Course (o : RunOptions) (s : Source) (w : World) : List Stage → Bool → FileTree → Prop
  | withoutDescription (h : ((Job.request o s).perform w).1.isOk = false) :
      Course o s w [] false w.tree
  | amongClasses (m : ApiDescription) (t : FileTree) (hm : o.WorksOn s w m)
      (hlater : w.tree.Retains t) : Course o s w [.modelFetched, .filtered] false t
  | amongDataTypes (m : ApiDescription) (t t' : FileTree) (hm : o.WorksOn s w m)
      (hclasses : o.ExportsClasses m w.tree t) (hcontracts : o.withContracts = true)
      (hlater : t.Retains t') : Course o s w [.modelFetched, .filtered, .classesEmitted] false t'
  | unsaved (m : ApiDescription) (t t₁ t' : FileTree) (hm : o.WorksOn s w m)
      (hclasses : o.ExportsClasses m w.tree t) (htypes : o.ExportsDataTypes m t t₁)
      (hlater : t₁.Retains t') :
      Course o s w ([.modelFetched, .filtered, .classesEmitted] ++ o.dataTypeStages) false t'
  | finished (m : ApiDescription) (t t₁ t' : FileTree) (hm : o.WorksOn s w m)
      (hclasses : o.ExportsClasses m w.tree t) (htypes : o.ExportsDataTypes m t t₁)
      (hlater : t₁.Retains t') (hcopy : o.KeepsCopy m w.tree t') :
      Course o s w (Stage.generation o.withContracts) true t'

namespace Job

/-- After its exports a run saves the description and comes to its end, or stops there. -/
theorem goesOn_saveDescription_bind {o : RunOptions} {s : Source} {m : ApiDescription}
    {w : World} {before segment : List Stage} {t t₁ : FileTree} {summary : GenerationSummary}
    {es : List LogEntry} (hm : o.WorksOn s w m) (hclasses : o.ExportsClasses m w.tree t)
    (htypes : o.ExportsDataTypes m t t₁)
    (hsegment : segment = [.modelFetched, .filtered, .classesEmitted] ++ o.dataTypeStages) :
    GoesOn before (Course o s w) segment t₁ (do
      saveDescription o.artifactPath m
      enter .modelPersisted
      enter .done
      note es
      return summary) := by
  subst hsegment
  refine goesOn_bind (keepsStages_saveDescription _ m) (fun disk w₁ e w₂ htree h => ?_)
    fun disk w₁ a w₂ htree h =>
      goesOn_enter_bind (goesOn_enter_bind (goesOn_note_bind (goesOn_pure ?_)))
  all_goals
    have hlater := retains_saveDescription o.artifactPath m w₁ disk
    rw [h, htree] at hlater
  · exact .unsaved m t t₁ _ hm hclasses htypes hlater
  · obtain ⟨hstands, hread⟩ := copy_of_saveDescription h
    have hcopy : o.KeepsCopy m w.tree w₂.tree := by
      refine ⟨hstands, fun hg => hread ?_⟩
      rw [htree]
      exact (hclasses.retains.trans htypes.retains).grounded hg
    have hend := Course.finished m t t₁ _ hm hclasses htypes hlater hcopy
    rw [List.append_assoc]
    exact hend

/-- A run that generates goes one of its ways. -/
theorem goesOn_generate (o : RunOptions) (s : Source) (w : World) (disk : Disk) : ∃ segment,
    ((generate o s).perform w disk).2.stages = w.stages ++ segment ∧
      Course o s w segment ((generate o s).perform w disk).1.isOk
        ((generate o s).perform w disk).2.tree := by
  obtain ⟨hsame, htree⟩ := perform_request o s w disk
  have hstages := keepsStages_request o s w disk
  rw [hsame] at htree hstages
  rw [generate, perform_bind, hsame]
  rcases hrequest : (request o s).perform w with ⟨e | m, w₁⟩
  all_goals rw [hrequest] at htree hstages
  · have hcourse : Course o s w [] false w.tree := .withoutDescription (by rw [hrequest]; rfl)
    rw [← htree] at hcourse
    exact ⟨[], by rw [List.append_nil]; exact hstages, hcourse⟩
  have hm : o.WorksOn s w m := RunOptions.worksOn_of_request (by rw [hrequest])
  obtain ⟨fs, gs, hfs, hgs, -⟩ := exists_files_eq o m
  have hfs' : (ofExcept (m.controllerFiles o.generator) : Job _) = pure fs := by rw [hfs]; rfl
  have hgs' : (ofExcept (m.dataTypeFiles o.generator) : Job _) = pure gs := by rw [hgs]; rfl
  suffices hgoes : GoesOn w.stages (Course o s w) [] w.tree _ from
    hgoes disk w₁ (by rw [List.append_nil]; exact hstages) htree
  refine goesOn_enter_bind (goesOn_note_bind (goesOn_enter_bind ?_))
  rw [emitControllers, bind_assoc]
  refine goesOn_note_bind ?_
  rw [hfs', pure_bind]
  refine goesOn_exportFiles_bind (fun t hexport => .amongClasses m t hm hexport.retains)
    fun classes t hexport => goesOn_enter_bind ?_
  have hclasses : o.ExportsClasses m w.tree t := ⟨fs, hfs, hexport⟩
  cases hcontracts : o.withContracts with
  | false =>
    have htypes : o.ExportsDataTypes m t t := by
      rw [RunOptions.ExportsDataTypes, hcontracts]
      rfl
    rw [if_neg Bool.false_ne_true, pure_bind]
    refine goesOn_saveDescription_bind hm hclasses htypes ?_
    rw [RunOptions.dataTypeStages, hcontracts]
    rfl
  | true =>
    rw [if_pos rfl, emitDataTypes, bind_assoc, bind_assoc]
    refine goesOn_note_bind ?_
    rw [hgs', pure_bind, bind_assoc]
    refine goesOn_exportFiles_bind
      (fun t' hexport' => .amongDataTypes m t t' hm hclasses hcontracts hexport'.retains)
      fun types t' hexport' => ?_
    have htypes : o.ExportsDataTypes m t t' := by
      rw [RunOptions.ExportsDataTypes, hcontracts, if_pos rfl]
      exact ⟨gs, hgs, hexport'⟩
    rw [pure_bind]
    refine goesOn_enter_bind ?_
    rw [pure_bind]
    refine goesOn_saveDescription_bind hm hclasses htypes ?_
    rw [RunOptions.dataTypeStages, hcontracts]
    rfl

/-- A run that removes enters its first stage, and its last one if it comes to its end. -/
theorem stages_remove (o : RunOptions) (w : World) (disk : Disk) :
    ((remove o).perform w disk).2.stages = w.stages ++ .removalRequested ::
      if ((remove o).perform w disk).1.isOk then [.done] else [] := by
  suffices hgoes : GoesOn w.stages
      (fun segment finished _ =>
        segment = .removalRequested :: if finished then [.done] else []) [] w.tree (remove o) by
    obtain ⟨segment, hstages, rfl⟩ := hgoes disk w (List.append_nil _).symm rfl
    exact hstages
  refine goesOn_enter_bind (goesOn_bind (keepsStages_removeOutput _) (fun _ _ _ _ _ _ => rfl)
    fun _ _ removed _ _ _ => ?_)
  dsimp only
  split
  · exact goesOn_note_bind (goesOn_enter_bind (goesOn_pure rfl))
  · exact goesOn_enter_bind (goesOn_pure rfl)

end Job

namespace Course

variable {o : RunOptions} {s : Source} {w : World} {segment : List Stage} {finished : Bool}
  {t : FileTree}

theorem isPrefix (h : Course o s w segment finished t) :
    segment <+: Stage.generation o.withContracts := by
  cases h with
  | withoutDescription => exact List.nil_prefix
  | amongClasses => exact ⟨_, rfl⟩
  | amongDataTypes => exact ⟨_, rfl⟩
  | unsaved => exact ⟨_, rfl⟩
  | finished => exact List.prefix_rfl

/-- The description has been saved when its stage is entered. -/
theorem copy (h : Course o s w segment finished t) (hstage : .modelPersisted ∈ segment) :
    finished = true ∧ ∃ m, o.WorksOn s w m ∧ o.KeepsCopy m w.tree t := by
  cases h with
  | withoutDescription => exact absurd hstage List.not_mem_nil
  | amongClasses => exact absurd hstage (by decide)
  | amongDataTypes => exact absurd hstage (by decide)
  | unsaved =>
    rw [RunOptions.dataTypeStages] at hstage
    split at hstage
    all_goals exact absurd hstage (by decide)
  | finished m t₀ t₁ t' hm _ _ _ hcopy => exact ⟨rfl, m, hm, hcopy⟩

/-- A run enters all stages exactly if it comes to its end. -/
theorem eq_generation_iff (h : Course o s w segment finished t) :
    segment = Stage.generation o.withContracts ↔ finished = true := by
  constructor
  · rintro rfl
    exact (h.copy (List.mem_append_right _ List.mem_cons_self)).1
  · rintro rfl
    cases h
    rfl

/-- As long as there is no description, no file has changed. -/
theorem tree_eq (h : Course o s w segment finished t) (hstage : .modelFetched ∉ segment) :
    t = w.tree := by
  cases h with
  | withoutDescription => rfl
  | amongClasses => exact absurd List.mem_cons_self hstage
  | amongDataTypes => exact absurd List.mem_cons_self hstage
  | unsaved => exact absurd List.mem_cons_self hstage
  | finished => exact absurd List.mem_cons_self hstage

/-- The files of the controllers have been exported when their stage is entered. -/
theorem classes (h : Course o s w segment finished t) (hstage : .classesEmitted ∈ segment) :
    ∃ m t₁, o.WorksOn s w m ∧ o.ExportsClasses m w.tree t₁ ∧ t₁.Retains t := by
  cases h with
  | withoutDescription => exact absurd hstage List.not_mem_nil
  | amongClasses => exact absurd hstage (by decide)
  | amongDataTypes m t₁ t' hm hclasses _ hlater => exact ⟨m, t₁, hm, hclasses, hlater⟩
  | unsaved m t₁ t₂ t' hm hclasses htypes hlater =>
    exact ⟨m, t₁, hm, hclasses, htypes.retains.trans hlater⟩
  | finished m t₁ t₂ t' hm hclasses htypes hlater =>
    exact ⟨m, t₁, hm, hclasses, htypes.retains.trans hlater⟩

end Course

/-! ### Many calls -/

/-- What is asked for in a call: to generate from a source, or to remove. -/
inductive Demand where
  | generate (s : Source)
  | remove

/-- A call, in the world in which it starts and on a disk. -/
structure Call where
  demand : Demand
  start : World
  disk : Disk

namespace Call

/-- What comes of a call: whether it comes to its end, and the world that it leaves. -/
def outcome (o : RunOptions) (c : Call) : Bool × World :=
  match c.demand with
  | .generate s =>
    (((Job.generate o s).perform c.start c.disk).1.isOk,
      ((Job.generate o s).perform c.start c.disk).2)
  | .remove =>
    (((Job.remove o).perform c.start c.disk).1.isOk, ((Job.remove o).perform c.start c.disk).2)

/-- The stages that a call adds to the record. -/
def segment (o : RunOptions) (c : Call) : List Stage :=
  (c.outcome o).2.stages.drop c.start.stages.length

/-- What the stages of a call that generates say. -/
structure RecordsGeneration (o : RunOptions) (s : Source) (c : Call) : Prop where
  isPrefix : c.segment o <+: Stage.generation o.withContracts
  whole_iff : c.segment o = Stage.generation o.withContracts ↔ (c.outcome o).1 = true
  unfetched (h : .modelFetched ∉ c.segment o) : (c.outcome o).2.tree = c.start.tree
  classes (h : .classesEmitted ∈ c.segment o) : ∃ m fs t, o.WorksOn s c.start m ∧
    m.controllerFiles o.generator = .ok fs ∧ ExportedAll o.outputRoot fs c.start.tree true t ∧
    (c.start.tree.Grounded → ∀ f ∈ fs, f.InPlace o.outputRoot fs t) ∧ t.Retains (c.outcome o).2.tree
  copy (h : .modelPersisted ∈ c.segment o) : ∃ m, o.WorksOn s c.start m ∧
    o.KeepsCopy m c.start.tree (c.outcome o).2.tree

/-- What the stages of a call say. -/
def Records (o : RunOptions) (c : Call) : Prop :=
  match c.demand with
  | .generate s => c.RecordsGeneration o s
  | .remove => c.segment o = .removalRequested :: if (c.outcome o).1 then [.done] else []

theorem outcome_generate (o : RunOptions) (s : Source) (w : World) (disk : Disk) :
    outcome o ⟨.generate s, w, disk⟩ =
      (((Job.generate o s).perform w disk).1.isOk, ((Job.generate o s).perform w disk).2) := rfl

theorem outcome_remove (o : RunOptions) (w : World) (disk : Disk) :
    outcome o ⟨.remove, w, disk⟩ =
      (((Job.remove o).perform w disk).1.isOk, ((Job.remove o).perform w disk).2) := rfl

/-- A call continues the record, and what its stages say is true. -/
theorem stages_outcome (o : RunOptions) (c : Call) :
    (c.outcome o).2.stages = c.start.stages ++ c.segment o ∧ c.Records o := by
  obtain ⟨d, w, disk⟩ := c
  cases d with
  | generate s =>
    obtain ⟨segment, hstages, hcourse⟩ := Job.goesOn_generate o s w disk
    have hsegment : segment = Call.segment o ⟨.generate s, w, disk⟩ := by
      rw [Call.segment, outcome_generate, hstages, List.drop_left]
    subst hsegment
    refine ⟨hstages, hcourse.isPrefix, hcourse.eq_generation_iff, hcourse.tree_eq, fun h => ?_,
      fun h => (hcourse.copy h).2⟩
    obtain ⟨m, t, hm, ⟨fs, hfs, hexport⟩, hlater⟩ := hcourse.classes h
    have husual : ∀ f ∈ fs, f.IsUsual := fun f hf => (ApiDescription.mem_controllerFiles hfs hf).1
    exact ⟨m, fs, t, hm, hfs, hexport, fun hg => hexport.inPlace hg husual, hlater⟩
  | remove =>
    have hstages := Job.stages_remove o w disk
    have hsegment : Call.segment o ⟨.remove, w, disk⟩ =
        .removalRequested :: if (outcome o ⟨.remove, w, disk⟩).1 then [.done] else [] := by
      rw [Call.segment, outcome_remove, hstages, List.drop_left]
    refine ⟨?_, hsegment⟩
    rw [hsegment, outcome_remove]
    exact hstages

end Call

/-- The calls when one thing is asked after the other, each in a world and on a disk that are found
then: the record goes on where the last call has left it. -/
def calls (o : RunOptions) (stages : List Stage) : List (Demand × World × Disk) → List Call
  | [] => []
  | (d, w, disk) :: asked =>
    let c : Call := ⟨d, { w with stages }, disk⟩
    c :: calls o (c.outcome o).2.stages asked

/-- The record after some calls. -/
def stagesAfter (o : RunOptions) (stages : List Stage) : List (Demand × World × Disk) → List Stage
  | [] => stages
  | (d, w, disk) :: asked =>
    stagesAfter o (Call.outcome o ⟨d, { w with stages }, disk⟩).2.stages asked

/-- The record grows by what each call adds to it. -/
theorem stagesAfter_eq_append (o : RunOptions) (stages : List Stage)
    (asked : List (Demand × World × Disk)) :
    stagesAfter o stages asked = stages ++ (calls o stages asked).flatMap (Call.segment o) := by
  induction asked generalizing stages with
  | nil => exact (List.append_nil stages).symm
  | cons a asked ih =>
    obtain ⟨d, w, disk⟩ := a
    have hstages := (Call.stages_outcome o ⟨d, { w with stages }, disk⟩).1
    rw [stagesAfter, calls, ih, hstages, List.flatMap_cons, List.append_assoc]

/-- Each call is what was asked for, in the world and on the disk that were found. -/
theorem map_calls (o : RunOptions) (stages : List Stage) (asked : List (Demand × World × Disk)) :
    (calls o stages asked).map (fun c => (c.demand, { c.start with stages := [] }, c.disk)) =
      asked.map fun a => (a.1, { a.2.1 with stages := [] }, a.2.2) := by
  induction asked generalizing stages with
  | nil => rfl
  | cons a asked ih => exact congrArg (_ :: ·) (ih _)

/-- The record of calls with the same options is the start and what each call adds to it. A call
that generates adds the first of its stages, all of them exactly if it comes to its end, and what
they say about the tree is true; a call that removes adds its first stage, and the last one exactly
if it comes to its end. -/
theorem stagesAfter_eq_flatMap_segment (o : RunOptions) (asked : List (Demand × World × Disk)) :
    stagesAfter o [.start] asked = .start :: (calls o [.start] asked).flatMap (Call.segment o) ∧
      ((calls o [.start] asked).map fun c =>
          (c.demand, { c.start with stages := [] }, c.disk)) =
        (asked.map fun a => (a.1, { a.2.1 with stages := [] }, a.2.2)) ∧
      ∀ c ∈ calls o [.start] asked, c.Records o :=
  ⟨stagesAfter_eq_append o [.start] asked, map_calls o [.start] asked,
    fun c _ => (c.stages_outcome o).2⟩

/-- A source that gives the description of a service for books. -/
def bookSource : Source := .given "inline" (.ok (bookDescription .empty))

/-- A run that comes to its end, a run that gets no description, and a removal. -/
def bookCalls : List (Demand × World × Disk) :=
  [(.generate bookSource, bookWorld, .sound),
    (.generate (.given "inline" (.error (.fetch "inline" .unreachable))), bookWorld, .sound),
    (.remove, bookWorld, .sound)]

theorem stagesAfter_bookCalls :
    let o : RunOptions := { workDirectory := ⟨.here, []⟩ }
    stagesAfter o [.start] bookCalls =
        .start :: (Stage.generation true ++ [] ++ Stage.removal) ∧
      ∃ m, o.WorksOn bookSource bookWorld m ∧ o.KeepsCopy m bookWorld.tree
        (Call.outcome o ⟨.generate bookSource, bookWorld, .sound⟩).2.tree := by
  intro o
  obtain ⟨hstages, -, hrecords⟩ := stagesAfter_eq_flatMap_segment o bookCalls
  have hsegments : (calls o [.start] bookCalls).map (Call.segment o) =
      [Stage.generation true, [], Stage.removal] := by decide +kernel
  have hfirst : Call.segment o ⟨.generate bookSource, bookWorld, .sound⟩ = Stage.generation true :=
    (List.cons.inj hsegments).1
  have hrecord : Call.RecordsGeneration o bookSource ⟨.generate bookSource, bookWorld, .sound⟩ :=
    hrecords _ List.mem_cons_self
  refine ⟨?_, hrecord.copy ?_⟩
  · rw [hstages, List.flatMap_def, hsegments]
    rfl
  · rw [hfirst]
    decide

end ApiProxy
