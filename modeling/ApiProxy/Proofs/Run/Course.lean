import ApiProxy.Proofs.Export.Disks
import ApiProxy.Proofs.Generation.Rendering
import ApiProxy.Proofs.Run.Trees

/-!
# The course of a run

A run that generates first gets a description, which changes nothing, and then only writes: the
files of the description in the order in which they are generated, and a copy of the description.
What it yields can be read off the description and the report of the export.

## Main definitions

* `Job.Alike`: two jobs yield the same and make the same of the file tree.
* `Job.emit`: the writing of a run.
* `RunOptions.summary`: what a run yields.

## Main results

* `Job.perform_generate_of_ok`, `Job.perform_generate_of_error`: a run as its writing.
-/

namespace ApiProxy

theorem ExportReport.append_empty (r : ExportReport) : r ++ empty = r := by
  obtain ⟨written, skipped⟩ := r
  exact congrArg₂ ExportReport.mk (List.append_nil written) (List.append_nil skipped)

/-- The summary of a run with the given description and the given report of its export. -/
def RunOptions.summary (o : RunOptions) (m : ApiDescription) (r : ExportReport) :
    GenerationSummary where
  moduleName := o.moduleName
  output := o.displayPath o.outputRoot
  controllers := m.serviceControllers.length
  dataTypes := (o.files m).countP (·.kind == .dataType)
  written := r.written
  skipped := r.skipped
  artifact := o.displayPath o.artifactPath

namespace Job

variable {α β : Type}

/-- On each disk, two jobs yield the same and make the same of the file tree in worlds with the same
tree. -/
def Alike (j k : Job α) : Prop :=
  ∀ (disk : Disk) (w₁ w₂ : World), w₁.tree = w₂.tree →
    (j.perform w₁ disk).1 = (k.perform w₂ disk).1 ∧
      (j.perform w₁ disk).2.tree = (k.perform w₂ disk).2.tree

section

variable {j k : Job α}

theorem OnTree.alike (h : OnTree j) : Alike j j := h

theorem alike_pure {a b : α} (h : a = b) : Alike (pure a : Job α) (pure b) :=
  fun _ _ _ htree => ⟨congrArg Except.ok h, htree⟩

theorem Alike.bind {f g : α → Job β} (h : Alike j k) (hfg : ∀ a, Alike (f a) (g a)) :
    Alike (j >>= f) (k >>= g) := by
  intro disk w₁ w₂ htree
  obtain ⟨hresult, htree'⟩ := h disk w₁ w₂ htree
  rw [perform_bind, perform_bind]
  generalize j.perform w₁ disk = x at hresult htree' ⊢
  generalize k.perform w₂ disk = y at hresult htree' ⊢
  obtain ⟨r, w₁'⟩ := x
  obtain ⟨r', w₂'⟩ := y
  obtain rfl : r = r' := hresult
  cases r with
  | ok a => exact hfg a disk w₁' w₂' htree'
  | error e => exact ⟨rfl, htree'⟩

theorem alike_note_bind {es : List LogEntry} {f : Unit → Job α} (h : Alike (f ()) k) :
    Alike (note es >>= f) k := by
  intro disk w₁ w₂ htree
  rw [perform_bind, perform_note]
  exact h disk _ w₂ htree

theorem alike_enter_bind {s : Stage} {f : Unit → Job α} (h : Alike (f ()) k) :
    Alike (enter s >>= f) k := by
  intro disk w₁ w₂ htree
  obtain ⟨es, henter⟩ := perform_enter s w₁ disk
  rw [perform_bind, henter]
  exact h disk _ w₂ htree

end

theorem onTree_saveDescription (p : Path) (m : ApiDescription) :
    OnTree (saveDescription p m) :=
  (onTree_makeRoom p).bind fun _ => (onTree_changePartly p _).bind fun _ => onTree_note _

/-- Write the files of a description and a copy of it. -/
def emit (o : RunOptions) (m : ApiDescription) : Job ExportReport := do
  let report ← exportFiles o.exporter o.outputRoot (o.files m)
  saveDescription o.artifactPath m
  return report

/-- The files of a description are those of its controllers and then, with contracts, those of
its data types, which are as many as the summary says. -/
theorem exists_files_eq (o : RunOptions) (m : ApiDescription) : ∃ classes types,
    m.controllerFiles o.generator = .ok classes ∧ m.dataTypeFiles o.generator = .ok types ∧
      o.files m = classes ++ (if o.withContracts then types else []) ∧
      (o.files m).countP (·.kind == .dataType) = if o.withContracts then types.length else 0 := by
  obtain ⟨classes, hclasses⟩ := m.exists_controllerFiles_eq_ok o.generator
  obtain ⟨types, htypes⟩ : ∃ types, m.dataTypeFiles o.generator = .ok types := by
    obtain ⟨types, htypes⟩ := m.exists_ofDescription_eq_ok
    exact ⟨_, bind_eq_ok.2 ⟨types, htypes, rfl⟩⟩
  have hfiles : o.files m = classes ++ (if o.withContracts then types else []) := by
    rw [RunOptions.files, hclasses, htypes]
    dsimp only
    split
    · rfl
    · rw [List.append_nil]
  have hnone : classes.countP (·.kind == .dataType) = 0 := by
    rw [List.countP_eq_zero]
    intro f hf
    rw [beq_iff_eq]
    exact (ApiDescription.mem_controllerFiles hclasses hf).2
  have hall : types.countP (·.kind == .dataType) = types.length := by
    rw [List.countP_eq_length]
    intro f hf
    rw [beq_iff_eq]
    exact (ApiDescription.mem_dataTypeFiles htypes hf).2
  refine ⟨classes, types, hclasses, htypes, hfiles, ?_⟩
  rw [hfiles, List.countP_append, hnone, Nat.zero_add]
  split
  · exact hall
  · rfl

theorem steady_request (o : RunOptions) (s : Source) : Steady (request o s) :=
  (steady_note _).bind fun _ => steady_get_bind fun _ => (steady_note _).bind fun _ =>
    (steady_ofExcept _).bind fun _ => (steady_note _).bind fun _ => steady_ofExcept _

theorem steady_generate (o : RunOptions) (s : Source) : Steady (generate o s) := by
  have hexport (fs : Except Failure (List SourceFile)) :
      Steady (do let files ← ofExcept fs; exportFiles o.exporter o.outputRoot files) :=
    (steady_ofExcept fs).bind fun _ => steady_exportFiles _ _ _
  have hend (m : ApiDescription) (g : GenerationSummary) (es : List LogEntry) :
      Steady (do
        saveDescription o.artifactPath m
        enter .modelPersisted
        enter .done
        note es
        return g) :=
    (steady_saveDescription _ m).bind fun _ => (steady_enter _).bind fun _ =>
      (steady_enter _).bind fun _ => (steady_note es).bind fun _ => steady_pure g
  refine (steady_request o s).bind fun m => (steady_enter _).bind fun _ =>
    (steady_note _).bind fun _ => (steady_enter _).bind fun _ =>
      ((steady_note _).bind fun _ => hexport _).bind fun classes =>
        (steady_enter _).bind fun _ => ?_
  dsimp only
  split
  · refine ((steady_note _).bind fun _ => (steady_ofExcept _).bind fun _ =>
      (steady_exportFiles _ _ _).bind fun _ => steady_pure _).bind fun emitted =>
        (steady_enter _).bind fun _ => ?_
    exact hend m _ _
  · exact hend m _ _

variable {o : RunOptions} {s : Source} {m : ApiDescription} {e : Failure} {w : World}

/-- A run that gets no description stops with its failure and has changed nothing. -/
theorem perform_generate_of_error (h : ((request o s).perform w).1 = .error e) (disk : Disk) :
    ((generate o s).perform w disk).1 = .error e ∧
      ((generate o s).perform w disk).2.tree = w.tree := by
  obtain ⟨hsame, htree⟩ := perform_request o s w disk
  rw [hsame] at htree
  rw [generate, perform_bind, hsame]
  generalize (request o s).perform w = x at h htree ⊢
  obtain ⟨r, w₁⟩ := x
  obtain rfl : r = .error e := h
  exact ⟨rfl, htree⟩

/-- A run that gets a description goes on as its writing does. -/
theorem perform_generate_of_ok (h : ((request o s).perform w).1 = .ok m) (disk : Disk) :
    ((generate o s).perform w disk).1 = ((emit o m).perform w disk).1.map (o.summary m) ∧
      ((generate o s).perform w disk).2.tree = ((emit o m).perform w disk).2.tree := by
  obtain ⟨hsame, htree⟩ := perform_request o s w disk
  rw [hsame] at htree
  rw [generate, perform_bind, hsame]
  generalize (request o s).perform w = x at h htree ⊢
  obtain ⟨r, w₁⟩ := x
  obtain rfl : r = .ok m := h
  dsimp only
  obtain ⟨classes, types, hclasses, htypes, hfiles, hcount⟩ := exists_files_eq o m
  suffices hcourse : Alike _ (emit o m >>= fun r => pure (o.summary m r)) by
    obtain ⟨hresult, htree'⟩ := hcourse disk w₁ w htree
    rw [hresult, htree', perform_bind]
    generalize (emit o m).perform w disk = y
    rcases y with ⟨e | report, w₂⟩ <;> exact ⟨rfl, rfl⟩
  -- the run and its writing go through the same exports and end alike
  have hend (r : ExportReport) (dataTypes : Nat)
      (h : (o.files m).countP (·.kind == .dataType) = dataTypes) :
      (⟨o.moduleName, o.displayPath o.outputRoot, m.serviceControllers.length, dataTypes, r.written,
        r.skipped, o.displayPath o.artifactPath⟩ : GenerationSummary) = o.summary m r := by
    rw [RunOptions.summary, h]
  have hclasses' : (ofExcept (m.controllerFiles o.generator) : Job _) = pure classes := by
    rw [hclasses]
    rfl
  have htypes' : (ofExcept (m.dataTypeFiles o.generator) : Job _) = pure types := by
    rw [htypes]
    rfl
  refine alike_enter_bind (alike_note_bind (alike_enter_bind ?_))
  rw [emitControllers, bind_assoc]
  refine alike_note_bind ?_
  rw [hclasses', pure_bind, emit, bind_assoc]
  cases hcontracts : o.withContracts with
  | false =>
    rw [hcontracts, if_neg Bool.false_ne_true] at hfiles hcount
    rw [hfiles, List.append_nil]
    refine (onTree_exportFiles _ _ _).alike.bind fun r => alike_enter_bind ?_
    rw [if_neg Bool.false_ne_true, pure_bind, bind_assoc]
    refine (onTree_saveDescription _ _).alike.bind fun _ => alike_enter_bind (alike_enter_bind
      (alike_note_bind (alike_pure ?_)))
    rw [ExportReport.append_empty]
    exact hend r 0 hcount
  | true =>
    rw [hcontracts, if_pos rfl] at hfiles hcount
    rw [hfiles, exportFiles_append, bind_assoc]
    refine (onTree_exportFiles _ _ _).alike.bind fun r => alike_enter_bind ?_
    rw [if_pos rfl, emitDataTypes, bind_assoc, bind_assoc]
    refine alike_note_bind ?_
    rw [htypes', pure_bind, bind_assoc, bind_assoc]
    refine (onTree_exportFiles _ _ _).alike.bind fun r' => ?_
    rw [pure_bind, pure_bind, pure_bind, bind_assoc]
    refine alike_enter_bind ?_
    refine (onTree_saveDescription _ _).alike.bind fun _ => alike_enter_bind (alike_enter_bind
      (alike_note_bind (alike_pure ?_)))
    exact hend (r ++ r') types.length hcount

end Job

end ApiProxy
