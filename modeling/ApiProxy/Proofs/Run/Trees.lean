import ApiProxy.Proofs.Export.Confinement
import ApiProxy.Run

/-!
# What a run does to the file tree

A run that generates exports the files of its controllers and of its data types, in this order
and as far as they can be generated, and then saves the description. What it notes and which
stage it enters in between does not matter to the tree.

## Main definitions

* `Job.OnTree`: what a job does to the tree depends on the tree alone.
* `Job.files`: the files that a run comes to.

## Main results

* `Job.perform_generate`: the tree after a run is that after the export of its files, but for the
  saved description.
-/

namespace ApiProxy

namespace ExportReport

theorem empty_append (r : ExportReport) : empty ++ r = r := rfl

theorem cons_append (written : Bool) (path : String) (r s : ExportReport) :
    (r ++ s).cons written path = r.cons written path ++ s := by
  cases written <;> rfl

end ExportReport

namespace Job

variable {α β : Type}

/-- On each disk, what a job yields and what it makes of the file tree depends on the file tree
alone. -/
def OnTree (j : Job α) : Prop :=
  ∀ (disk : Disk) (w₁ w₂ : World), w₁.tree = w₂.tree →
    (j.perform w₁ disk).1 = (j.perform w₂ disk).1 ∧
      (j.perform w₁ disk).2.tree = (j.perform w₂ disk).2.tree

theorem onTree_pure (a : α) : OnTree (pure a : Job α) := fun _ _ _ h => ⟨rfl, h⟩

theorem onTree_note (es : List LogEntry) : OnTree (note es) := fun _ _ _ h => ⟨rfl, h⟩

theorem onTree_ofExcept (r : Except Failure α) : OnTree (ofExcept r) := by
  intro disk w₁ w₂ h
  rw [perform_ofExcept, perform_ofExcept]
  exact ⟨rfl, h⟩

theorem onTree_change (p : Path) (operation : Disk → FileTree → Except FileFault FileTree) :
    OnTree (change p operation) := by
  intro disk w₁ w₂ h
  rw [perform_change, perform_change, h]
  cases operation disk w₂.tree with
  | ok t => exact ⟨rfl, rfl⟩
  | error f => exact ⟨rfl, h⟩

theorem onTree_changePartly (p : Path)
    (operation : Disk → FileTree → FileTree × Except FileFault Unit) :
    OnTree (changePartly p operation) := by
  intro disk w₁ w₂ h
  rw [perform_changePartly, perform_changePartly, h]
  exact ⟨rfl, rfl⟩

theorem OnTree.bind {j : Job α} {k : α → Job β} (hj : OnTree j) (hk : ∀ a, OnTree (k a)) :
    OnTree (j >>= k) := by
  intro disk w₁ w₂ h
  obtain ⟨hresult, htree⟩ := hj disk w₁ w₂ h
  rw [perform_bind, perform_bind]
  generalize j.perform w₁ disk = x at hresult htree ⊢
  generalize j.perform w₂ disk = y at hresult htree ⊢
  obtain ⟨r, w₁'⟩ := x
  obtain ⟨r', w₂'⟩ := y
  obtain rfl : r = r' := hresult
  cases r with
  | ok a => exact hk a disk w₁' w₂' htree
  | error e => exact ⟨rfl, htree⟩

theorem onTree_get_bind {k : FileTree → Job α} (hk : ∀ t, OnTree (k t)) :
    OnTree (get >>= fun w => k w.tree) := by
  intro disk w₁ w₂ h
  rw [perform_bind, perform_bind, perform_get, perform_get]
  dsimp only
  rw [h]
  exact hk w₂.tree disk w₁ w₂ h

theorem onTree_write (atomic : Bool) (p : Path) (content : String) :
    OnTree (write atomic p content) := by
  cases atomic with
  | false =>
    rw [write, if_neg Bool.false_ne_true]
    exact onTree_changePartly _ _
  | true =>
    rw [write, if_pos rfl]
    exact (onTree_changePartly _ _).bind fun _ => (onTree_change _ _).bind fun _ =>
      onTree_change _ _

theorem onTree_makeRoom (p : Path) : OnTree (makeRoom p) := by
  rw [makeRoom]
  split
  · exact onTree_pure _
  · exact onTree_changePartly _ _

theorem onTree_exportFile (o : ExportOptions) (base : Path) (f : SourceFile) :
    OnTree (exportFile o base f) := by
  refine (onTree_ofExcept _).bind fun p => ?_
  refine onTree_get_bind (k := fun t => ite (f.policy = .createOnce ∧ t.contains p) _ _) fun t => ?_
  split
  · exact (onTree_note _).bind fun _ => onTree_pure _
  · exact (onTree_makeRoom p).bind fun _ => (onTree_write _ _ _).bind fun _ =>
      (onTree_note _).bind fun _ => onTree_pure _

theorem onTree_exportFiles (o : ExportOptions) (base : Path) (fs : List SourceFile) :
    OnTree (exportFiles o base fs) := by
  induction fs with
  | nil => exact onTree_pure _
  | cons f fs ih =>
    exact (onTree_exportFile o base f).bind fun _ => ih.bind fun _ => onTree_pure _

/-- The files of two lists are exported one after the other. -/
theorem exportFiles_append (o : ExportOptions) (base : Path) (fs gs : List SourceFile) :
    exportFiles o base (fs ++ gs) = do
      let r ← exportFiles o base fs
      let s ← exportFiles o base gs
      return r ++ s := by
  induction fs with
  | nil =>
    simp only [List.nil_append, exportFiles, pure_bind, ExportReport.empty_append, bind_pure]
  | cons f fs ih =>
    simp only [List.cons_append, exportFiles, ih, bind_assoc, pure_bind,
      ExportReport.cons_append]

end Job

theorem RunOptions.outputRoot_ne_empty (o : RunOptions) : o.outputRoot ≠ Path.empty := by
  refine Path.join_ne_empty _ ?_
  cases h : o.folder? with
  | none => exact (by decide : defaultFolder ≠ "")
  | some folder =>
    have hfolder := (Option.filter_eq_some_iff.1 h).2
    exact bne_iff_ne.1 hfolder

/-- The files that are exported for a description, as far as they can be generated. -/
def RunOptions.files (o : RunOptions) (m : ApiDescription) : List SourceFile :=
  match m.controllerFiles o.generator with
  | .error _ => []
  | .ok classes =>
    if o.withContracts then
      match m.dataTypeFiles o.generator with
      | .error _ => classes
      | .ok types => classes ++ types
    else classes

/-- The files of the controllers are exported first. -/
theorem RunOptions.exists_files_eq_append {o : RunOptions} {m : ApiDescription}
    {classes : List SourceFile} (h : m.controllerFiles o.generator = .ok classes) :
    ∃ more, o.files m = classes ++ more := by
  rw [RunOptions.files, h]
  dsimp only
  split
  · split
    · exact ⟨[], (List.append_nil _).symm⟩
    · exact ⟨_, rfl⟩
  · exact ⟨[], (List.append_nil _).symm⟩

/-- How the name of a saved description ends. -/
def descriptionEnding : String := "-generate-proxy.json"

namespace Job

variable {α β : Type}

/-- The files that a run comes to in a world. -/
def files (o : RunOptions) (s : Source) (w : World) : List SourceFile :=
  match ((request o s).perform w).1 with
  | .ok m => o.files m
  | .error _ => []

/-- Asking for a description changes no file and asks the disk for nothing. -/
theorem perform_fetchModule (s : Source) (includeTypes : Bool) (moduleName : String) (w : World)
    (disk : Disk) :
    (fetchModule s includeTypes moduleName).perform w disk =
        (fetchModule s includeTypes moduleName).perform w ∧
      ((fetchModule s includeTypes moduleName).perform w disk).2.tree = w.tree := by
  rw [fetchModule, perform_bind, perform_get, perform_bind, perform_get]
  dsimp only
  rw [perform_bind, perform_note, perform_bind, perform_note]
  dsimp only
  rw [perform_bind, perform_ofExcept, perform_bind, perform_ofExcept]
  cases (s.supply w includeTypes).result with
  | error e => exact ⟨rfl, rfl⟩
  | ok m =>
    dsimp only
    rw [perform_bind, perform_note, perform_bind, perform_note]
    dsimp only
    rw [perform_ofExcept, perform_ofExcept]
    exact ⟨rfl, rfl⟩

theorem perform_request (o : RunOptions) (s : Source) (w : World) (disk : Disk) :
    (request o s).perform w disk = (request o s).perform w ∧
      ((request o s).perform w disk).2.tree = w.tree := by
  rw [request, perform_bind, perform_note, perform_bind, perform_note]
  exact perform_fetchModule s _ _ _ disk

theorem perform_saveDescription (p : Path) (m : ApiDescription) (w : World) (disk : Disk) :
    w.tree.ChangesOnly (· = w.tree.place p) ((saveDescription p m).perform w disk).2.tree := by
  have htrans (t t' t'' : FileTree) (h : t.ChangesOnly (· = t.place p) t')
      (h' : t'.ChangesOnly (· = t'.place p) t'') : t.ChangesOnly (· = t.place p) t'' := by
    rw [h.place] at h'
    exact h.trans h'
  have hsaves : Relates (fun t t' => t.ChangesOnly (· = t.place p) t') (saveDescription p m) :=
    relates_saveDescription (fun t => .refl _ t) htrans
      (fun w disk => (perform_makeRoom p w disk).mono fun _ => False.elim)
      fun _ _ _ => FileTree.changesOnly_writeFile
  exact hsaves w disk

/-- A run has done to the tree what an export does, but for the saved description, and has come
to its end only if the export has. -/
structure Completes (x : Except Failure ExportReport × World) (y : Except Failure α × World) :
    Prop where
  changes : x.2.tree.ChangesOnly (Ends · descriptionEnding) y.2.tree
  isOk : y.1.isOk = true → x.1.isOk = true

section

variable {x : Except Failure ExportReport × World} {w : World} {disk : Disk}

theorem completes_of_error {e : Failure} (h : w.tree = x.2.tree) :
    Completes (α := α) x (.error e, w) :=
  ⟨h ▸ .refl _ _, fun h => nomatch h⟩

theorem completes_note_bind {es : List LogEntry} {k : Unit → Job α}
    (h : ∀ w', w'.tree = w.tree → Completes x ((k ()).perform w' disk)) :
    Completes x ((note es >>= k).perform w disk) := by
  rw [perform_bind, perform_note]
  exact h _ rfl

theorem completes_enter_bind {s : Stage} {k : Unit → Job α}
    (h : ∀ w', w'.tree = w.tree → Completes x ((k ()).perform w' disk)) :
    Completes x ((enter s >>= k).perform w disk) := by
  obtain ⟨es, henter⟩ := perform_enter s w disk
  rw [perform_bind, henter]
  exact h _ rfl

theorem completes_ofExcept_bind {r : Except Failure β} {k : β → Job α}
    (herror : ∀ e, r = .error e → w.tree = x.2.tree)
    (h : ∀ b, r = .ok b → Completes x ((k b).perform w disk)) :
    Completes x ((ofExcept r >>= k).perform w disk) := by
  rw [perform_bind, perform_ofExcept]
  cases r with
  | error e => exact completes_of_error (herror e rfl)
  | ok b => exact h b rfl

/-- An export goes as in any other world with the same tree. -/
theorem completes_exportFiles_bind {o : ExportOptions} {base : Path} {fs : List SourceFile}
    {k : ExportReport → Job α} {w₀ : World} (htree : w.tree = w₀.tree)
    (herror : ∀ e w₁, (exportFiles o base fs).perform w₀ disk = (.error e, w₁) →
      w₁.tree = x.2.tree)
    (h : ∀ report w₁ w', (exportFiles o base fs).perform w₀ disk = (.ok report, w₁) →
      w'.tree = w₁.tree → Completes x ((k report).perform w' disk)) :
    Completes x ((exportFiles o base fs >>= k).perform w disk) := by
  obtain ⟨hresult, htree'⟩ := onTree_exportFiles o base fs disk w w₀ htree
  rw [perform_bind]
  rcases hperform : (exportFiles o base fs).perform w₀ disk with ⟨e | report, w₁⟩
  all_goals
    rw [hperform] at hresult htree'
    generalize (exportFiles o base fs).perform w disk = y at hresult htree' ⊢
    obtain ⟨r, w'⟩ := y
    obtain rfl := hresult
  · exact completes_of_error (htree'.trans (herror e w₁ hperform))
  · exact h report w₁ w' hperform htree'

/-- After its exports a run only saves the description. -/
theorem completes_saveDescription_bind {o : RunOptions} {m : ApiDescription} {k : Unit → Job α}
    (htree : w.tree = x.2.tree) (hx : x.1.isOk = true)
    (hk : ∀ w, ((k ()).perform w disk).2.tree = w.tree) :
    Completes x ((saveDescription o.artifactPath m >>= k).perform w disk) := by
  refine ⟨?_, fun _ => hx⟩
  have hsave := perform_saveDescription o.artifactPath m w disk
  have hsave' := hsave.mono (Q := (Ends · descriptionEnding)) fun loc hloc => by
    rw [hloc]
    exact ends_join _ _ _ ⟨by decide, by decide⟩
  rw [perform_bind, ← htree]
  generalize (saveDescription o.artifactPath m).perform w disk = y at hsave' ⊢
  rcases y with ⟨e | _, w'⟩
  · exact hsave'
  · dsimp only
    rw [hk]
    exact hsave'

end

theorem perform_generate (o : RunOptions) (s : Source) (w : World) (disk : Disk) :
    Completes ((exportFiles o.exporter o.outputRoot (files o s w)).perform w disk)
      ((generate o s).perform w disk) := by
  obtain ⟨hsame, hrequest⟩ := perform_request o s w disk
  rw [hsame] at hrequest
  rw [generate, perform_bind, files, hsame]
  generalize (request o s).perform w = x at hrequest ⊢
  rcases x with ⟨e | m, w₁⟩
  · exact completes_of_error hrequest
  dsimp only
  refine completes_enter_bind fun w₂ h₂ => completes_note_bind fun w₃ h₃ =>
    completes_enter_bind fun w₄ h₄ => ?_
  rw [emitControllers, bind_assoc]
  refine completes_note_bind fun w₅ h₅ => ?_
  have htree : w₅.tree = w.tree := by rw [h₅, h₄, h₃, h₂]; exact hrequest
  rw [bind_assoc]
  refine completes_ofExcept_bind (fun e hclasses => ?_) fun classes hclasses => ?_
  · rw [RunOptions.files, hclasses]
    exact htree
  refine completes_exportFiles_bind htree (fun e w' hfailed => ?_)
    fun report w' w₆ hexport h₆ => completes_enter_bind fun w₇ h₇ => ?_
  · -- what would be exported next does not matter
    obtain ⟨more, hmore⟩ := RunOptions.exists_files_eq_append hclasses
    rw [hmore, exportFiles_append, perform_bind, hfailed]
  have htree₇ : w₇.tree = w'.tree := h₇.trans h₆
  rw [RunOptions.files, hclasses]
  dsimp only
  split
  · rw [emitDataTypes, bind_assoc]
    refine completes_note_bind fun w₈ h₈ => ?_
    rw [bind_assoc]
    refine completes_ofExcept_bind (fun e htypes => ?_) fun types htypes => ?_
    · rw [htypes, h₈, htree₇, hexport]
    rw [htypes, bind_assoc, exportFiles_append, perform_bind, hexport]
    dsimp only
    rw [perform_bind]
    refine completes_exportFiles_bind (h₈.trans htree₇) (fun e w'' hfailed => ?_)
      fun report' w'' w₉ hexport' h₉ => ?_
    · rw [hfailed]
    · rw [pure_bind, hexport']
      refine completes_enter_bind fun w₁₀ h₁₀ => ?_
      rw [pure_bind]
      exact completes_saveDescription_bind (h₁₀.trans h₉) rfl fun _ => rfl
  · rw [pure_bind, hexport]
    exact completes_saveDescription_bind htree₇ rfl fun _ => rfl

end Job

end ApiProxy
