import ApiProxy.CommandLine.Program
import ApiProxy.Proofs.Run.Course

/-!
# What a failure leaves

A command that generates checks its options, looks for its source, gets the description and selects
the module in it before it writes anything; and all files can be generated from a description. So
wrong options, a description that cannot be had or read, an unknown module and a template without a
value stop the command before it has changed the file tree. What stops it later is a place that may
not be written to or a refusal by the file system, and only then something may have been written.

## Main definitions

* `Failure.isOfWriting`: the two kinds of failures that writing has.
* `Job.FailsWith`: all failures of a job have a property.

## Main results

* `Job.failsWith_request`, `Job.failsWith_emit`: with what the two halves of a run fail.
* `Invocation.execute_generate_cases`: what a command that generates has done when it stops.
-/

namespace ApiProxy

/-- A failure is one of those that writing has: a place that may not be written to, or a refusal by
the file system. -/
def Failure.isOfWriting : Failure → Bool
  | file .. | argument _ => true
  | usage _ | fetch .. | document _ | template .. => false

/-! ### With what jobs fail -/

namespace Job

variable {α β : Type} {P : Failure → Prop}

/-- All failures of a job, on whatever disk, have a property. -/
def FailsWith (P : Failure → Prop) (j : Job α) : Prop :=
  ∀ (disk : Disk) w e, (j.perform w disk).1 = .error e → P e

theorem failsWith_pure (a : α) : FailsWith P (pure a : Job α) := fun _ _ _ h => nomatch h

theorem failsWith_note (es : List LogEntry) : FailsWith P (note es) := fun _ _ _ h => nomatch h

theorem failsWith_ofExcept {r : Except Failure α} (h : ∀ e, r = .error e → P e) :
    FailsWith P (ofExcept r) := by
  intro disk w e he
  rw [perform_ofExcept] at he
  exact h e he

theorem failsWith_get_bind {k : World → Job β} (h : ∀ w, FailsWith P (k w)) :
    FailsWith P ((get : Job World) >>= k) := by
  intro disk w e he
  rw [perform_bind, perform_get] at he
  exact h w disk w e he

theorem FailsWith.bind {j : Job α} {k : α → Job β} (hj : FailsWith P j)
    (hk : ∀ a, FailsWith P (k a)) : FailsWith P (j >>= k) := by
  intro disk w e he
  have hfirst := hj disk w
  rw [perform_bind] at he
  generalize j.perform w disk = x at hfirst he
  rcases x with ⟨e' | a, w₁⟩
  · obtain rfl : e' = e := Except.error.inj he
    exact hfirst e' rfl
  · exact hk a disk w₁ e he

theorem failsWith_change {p : Path} {operation : Disk → FileTree → Except FileFault FileTree}
    (h : ∀ f, P (.file p.text f)) : FailsWith P (change p operation) := by
  intro disk w e he
  rw [perform_change] at he
  split at he
  · exact nomatch he
  · next f _ =>
    obtain rfl := Except.error.inj he
    exact h f

theorem failsWith_changePartly {p : Path}
    {operation : Disk → FileTree → FileTree × Except FileFault Unit} (h : ∀ f, P (.file p.text f)) :
    FailsWith P (changePartly p operation) := by
  intro disk w e he
  rw [perform_changePartly] at he
  dsimp only at he
  cases hresult : (operation disk w.tree).2 with
  | ok =>
    rw [hresult] at he
    exact nomatch he
  | error f =>
    rw [hresult] at he
    obtain rfl := Except.error.inj he
    exact h f

/-! ### Writing -/

theorem failsWith_makeRoom (p : Path) : FailsWith (·.isOfWriting = true) (makeRoom p) := by
  rw [makeRoom]
  split
  · exact failsWith_pure _
  · exact failsWith_changePartly fun _ => rfl

theorem failsWith_write (atomic : Bool) (p : Path) (content : String) :
    FailsWith (·.isOfWriting = true) (write atomic p content) := by
  rw [write]
  split
  · exact (failsWith_changePartly fun _ => rfl).bind fun _ =>
      (failsWith_change fun _ => rfl).bind fun _ => failsWith_change fun _ => rfl
  · exact failsWith_changePartly fun _ => rfl

theorem failsWith_exportFile (o : ExportOptions) (base : Path) (f : SourceFile) :
    FailsWith (·.isOfWriting = true) (exportFile o base f) := by
  have hlocate (e : Failure) (h : locate base f.path = .error e) : e.isOfWriting = true := by
    rw [locate] at h
    split at h
    · cases h
    · obtain rfl := Except.error.inj h
      rfl
  refine (failsWith_ofExcept hlocate).bind fun p => failsWith_get_bind fun w => ?_
  split
  · exact (failsWith_note _).bind fun _ => failsWith_pure _
  · exact (failsWith_makeRoom p).bind fun _ => (failsWith_write _ _ _).bind fun _ =>
      (failsWith_note _).bind fun _ => failsWith_pure _

theorem failsWith_exportFiles (o : ExportOptions) (base : Path) (fs : List SourceFile) :
    FailsWith (·.isOfWriting = true) (exportFiles o base fs) := by
  induction fs with
  | nil => exact failsWith_pure _
  | cons f fs ih =>
    exact (failsWith_exportFile o base f).bind fun _ => ih.bind fun _ => failsWith_pure _

/-- Writing fails only with failures of writing. -/
theorem failsWith_emit (o : RunOptions) (m : ApiDescription) :
    FailsWith (·.isOfWriting = true) (emit o m) :=
  (failsWith_exportFiles _ _ _).bind fun _ =>
    ((failsWith_makeRoom _).bind fun _ => (failsWith_changePartly fun _ => rfl).bind fun _ =>
      failsWith_note _).bind fun _ => failsWith_pure _

/-! ### Getting a description -/

/-- A source that the options of a run name does not fail like writing. -/
theorem isOfWriting_supply {o : RunOptions} {s : Source} (hs : o.source = .ok s) (w : World)
    (includeTypes : Bool) (e : Failure) (h : (s.supply w includeTypes).result = .error e) :
    e.isOfWriting = false := by
  have hread {text : String} (h : ApiDescription.read text = .error e) :
      e.isOfWriting = false := by
    obtain ⟨f, -, rfl⟩ := mapError_eq_error.1 h
    rfl
  rw [RunOptions.source] at hs
  split at hs
  · obtain rfl := Except.ok.inj hs
    rw [Source.file] at h
    dsimp only at h
    split at h
    · obtain rfl := Except.error.inj h
      rfl
    · exact hread (map_eq_error.1 h)
  · obtain rfl := Except.ok.inj hs
    rw [Source.service] at h
    dsimp only at h
    split at h
    · obtain rfl := Except.error.inj h
      rfl
    · exact hread h
  · exact nomatch hs

/-- Getting a description from a source that the options name does not fail like writing. -/
theorem failsWith_request {o : RunOptions} {s : Source} (hs : o.source = .ok s) :
    FailsWith (·.isOfWriting = false) (request o s) := by
  refine (failsWith_note _).bind fun _ => failsWith_get_bind fun w => (failsWith_note _).bind
    fun _ => (failsWith_ofExcept (isOfWriting_supply hs w _)).bind fun m =>
      (failsWith_note _).bind fun _ => failsWith_ofExcept fun e he => ?_
  rw [ApiDescription.selectModule] at he
  split at he
  · cases he
  · obtain rfl := Except.error.inj he
    rfl

end Job

theorem RunOptions.isOfWriting_check {o : RunOptions} {t : FileTree} {e : Failure}
    (h : o.check t = .error e) : e.isOfWriting = false := by
  rw [check] at h
  repeat' split at h
  all_goals cases h
  all_goals rfl

theorem RunOptions.isOfWriting_source {o : RunOptions} {e : Failure} (h : o.source = .error e) :
    e.isOfWriting = false := by
  rw [source] at h
  split at h <;> cases h
  rfl

/-! ### Tasks -/

namespace Task

variable {α β : Type}

theorem perform_under (contexts : List String) (j : Job α) (w : World) (disk : Disk) :
    (Job.under contexts j).perform w disk =
      ((j.perform w disk).1.mapError (⟨contexts, ·⟩), (j.perform w disk).2) := by
  change ((j.run disk w).1.mapError _, (j.run disk w).2) = _
  rfl

theorem perform_bind (j : Task α) (k : α → Task β) (w : World) (disk : Disk) :
    (j >>= k).perform w disk =
      match j.perform w disk with
      | (.ok a, w') => (k a).perform w' disk
      | (.error x, w') => (.error x, w') := by
  change (ExceptT.bindCont (fun a => k a) (j.run disk w).1).run disk (j.run disk w).2 = _
  rw [perform]
  rcases j.run disk w with ⟨_ | _, _⟩ <;> rfl

end Task

/-- A failure stops the writing of a run on a disk and leaves a tree: the options were right, and
the source that they name gave the description that was being written. -/
def RunOptions.StopsWriting (o : RunOptions) (w : World) (disk : Disk) (e : Failure)
    (t : FileTree) : Prop :=
  ∃ s m, o.check w.tree = .ok () ∧ o.source = .ok s ∧ ((Job.request o s).perform w).1 = .ok m ∧
    ((Job.emit o m).perform w disk).1 = .error e ∧ t = ((Job.emit o m).perform w disk).2.tree

/-- A command that generates is stopped before it writes, and has changed nothing, or while it
writes. -/
theorem Command.perform_generation_eq_error {o : RunOptions} {w w' : World} {disk : Disk}
    {x : Stopped} (h : (generation o).perform w disk = (.error x, w')) :
    x.failure.isOfWriting = false ∧ w'.tree = w.tree ∨
      x.failure.isOfWriting = true ∧ o.StopsWriting w disk x.failure w'.tree := by
  rw [generation, Task.perform_bind, Task.perform_under, Job.check, Job.perform_bind,
    Job.perform_get] at h
  dsimp only at h
  rw [Job.perform_ofExcept] at h
  cases hcheck : o.check w.tree with
  | error e =>
    rw [hcheck] at h
    obtain ⟨hx, rfl⟩ := Prod.mk.inj h
    obtain rfl := Except.error.inj hx
    exact .inl ⟨RunOptions.isOfWriting_check hcheck, rfl⟩
  | ok _ =>
  rw [hcheck] at h
  dsimp only [mapError_ok] at h
  rw [Task.perform_bind, Task.perform_under, Job.perform_ofExcept] at h
  cases hsource : o.source with
  | error e =>
    rw [hsource] at h
    obtain ⟨hx, rfl⟩ := Prod.mk.inj h
    obtain rfl := Except.error.inj hx
    exact .inl ⟨RunOptions.isOfWriting_source hsource, rfl⟩
  | ok s =>
  rw [hsource] at h
  dsimp only [mapError_ok] at h
  rw [Task.perform_bind, Task.perform_under] at h
  cases hrequest : ((Job.request o s).perform w).1 with
  | error e =>
    obtain ⟨hresult, htree⟩ := Job.perform_generate_of_error hrequest disk
    rw [hresult] at h
    obtain ⟨hx, rfl⟩ := Prod.mk.inj h
    obtain rfl := Except.error.inj hx
    exact .inl ⟨Job.failsWith_request hsource .sound w e hrequest, htree⟩
  | ok m =>
  obtain ⟨hresult, htree⟩ := Job.perform_generate_of_ok hrequest disk
  rw [hresult] at h
  cases hemit : ((Job.emit o m).perform w disk).1 with
  | error e =>
    rw [hemit] at h
    obtain ⟨hx, rfl⟩ := Prod.mk.inj h
    obtain rfl := Except.error.inj hx
    exact .inr
      ⟨Job.failsWith_emit o m disk w e hemit, s, m, hcheck, hsource, hrequest, hemit, htree⟩
  | ok report =>
    rw [hemit] at h
    exact nomatch (Prod.mk.inj h).1

/-- On any disk, a command that generates does its work, or stops with a failure before it has
changed anything, or stops while it writes; and only in the last case the failure is one of
writing. -/
theorem Invocation.execute_generate_cases (s : Surroundings) (o : RunOptions) (verbose : Bool)
    (format : String) (w : World) (disk : Disk) (wording : Wording) : ∃ outcome w',
      execute s ⟨.generate o, verbose, format⟩ w disk wording = (outcome, w') ∧
      (outcome.exitCode = .success ∧ outcome.stopped? = none ∨
        (∀ x, outcome.stopped? = some x → x.failure.isOfWriting = false) ∧ w'.tree = w.tree ∨
        ∃ x, outcome.stopped? = some x ∧ x.failure.isOfWriting = true ∧
          o.StopsWriting { w with log := [], stages := [.start] } disk x.failure w'.tree) := by
  rcases hexecute : execute s ⟨.generate o, verbose, format⟩ w disk wording with ⟨outcome, w'⟩
  refine ⟨outcome, w', rfl, ?_⟩
  rw [execute] at hexecute
  split at hexecute
  · obtain ⟨rfl, rfl⟩ := Prod.mk.inj hexecute
    refine .inr (.inl ⟨fun _ hx => ?_, rfl⟩)
    cases hx
  dsimp only at hexecute
  rw [Command.task, Task.perform_bind] at hexecute
  rcases hrun : (Command.generation o).perform { w with log := [], stages := [.start] } disk with
    ⟨x | r, w₁⟩
  · rw [hrun] at hexecute
    obtain ⟨rfl, rfl⟩ := Prod.mk.inj hexecute
    rcases Command.perform_generation_eq_error hrun with ⟨hkind, htree⟩ | ⟨hkind, hstops⟩
    · refine .inr (.inl ⟨fun y hy => ?_, htree⟩)
      obtain rfl : x = y := Option.some.inj hy
      exact hkind
    · exact .inr (.inr ⟨x, rfl, hkind, hstops⟩)
  · rw [hrun] at hexecute
    obtain ⟨rfl, -⟩ := Prod.mk.inj hexecute
    exact .inl ⟨rfl, rfl⟩

end ApiProxy
