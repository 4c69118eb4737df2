import ApiProxy.Proofs.Run.Failures

/-!
# With what the program ends

A program whose command does its work ends with 0. If a failure stops the command, the contexts
that the failure has gathered on its way do not matter: the first failure in the chain of an error
decides, and it has a code of its own if the invocation was wrong or the description could not be
fetched. A name that is no output format is found before any of that and ends the program with 1,
although the failure that it is has the code of a wrong invocation.

## Main definitions

* `Invocation.result`: what carrying out an invocation comes to, whatever the contexts of a failure.
* `ExitCode.due`: the exit code that is due for what an invocation comes to.
* `Invocation.Ends`, `Request.Ends`: how the program ends.

## Main results

* `ExitCode.ofChain_append_failure`, `ExitCode.ofChain_of_forall`: the code for a chain with a
  failure in it and for one without.
* `Command.result_of_task`: a command is stopped by the failure of its work, under some contexts.
* `runProgram_exitCode`: the program ends with the code that is due exactly if the command line
  names an output format.
-/

namespace ApiProxy

/-! ### Chains -/

namespace ExitCode

/-- The first failure in a chain decides on the exit code. -/
theorem ofChain_append_failure {front back : List Link} {f : Failure}
    (h : ∀ l ∈ front, l.failure? = none) : ofChain (front ++ .failure f :: back) = f.exitCode := by
  rw [ofChain, List.findSome?_append, List.findSome?_eq_none_iff.2 h]
  rfl

/-- A chain without a failure has the code that says nothing more. -/
theorem ofChain_of_forall {links : List Link} (h : ∀ l ∈ links, l.failure? = none) :
    ofChain links = .failure := by
  rw [ofChain, List.findSome?_eq_none_iff.2 h]

theorem failure?_of_mem_contexts {contexts : List String} {l : Link}
    (h : l ∈ contexts.reverse.map Link.context) : l.failure? = none := by
  obtain ⟨text, -, rfl⟩ := List.mem_map.1 h
  rfl

theorem ofChain_under_links (contexts : List String) (f : Failure) :
    ofChain (Link.under contexts f.links) = f.exitCode :=
  ofChain_append_failure fun _ => failure?_of_mem_contexts

theorem ofChain_under_foreign (contexts : List String) (text : String) :
    ofChain (Link.under contexts [.foreign text]) = .failure := by
  refine ofChain_of_forall fun l hl => ?_
  rcases List.mem_append.1 hl with hl | hl
  · exact failure?_of_mem_contexts hl
  · obtain rfl := List.mem_singleton.1 hl
    rfl

end ExitCode

theorem Stopped.exitCode_eq (x : Stopped) : x.exitCode = x.failure.exitCode :=
  ExitCode.ofChain_under_links x.contexts x.failure

/-! ### What a command comes to -/

theorem Job.perform_check (o : RunOptions) (w : World) (disk : Disk) :
    (check o).perform w disk = (o.check w.tree, w) := by
  rw [check, perform_bind, perform_get]
  exact perform_ofExcept _ _ disk

namespace Command

/-- What carrying out a command in a world, on a disk, comes to: it does its work or fails. -/
def result (w : World) (disk : Disk) : Command → Except Failure Unit
  | generate o => do
    o.check w.tree
    let s ← o.source
    ((Job.generate o s).perform w disk).1.map fun _ => ()
  | remove o => do
    o.check w.tree
    ((Job.remove o).perform w disk).1.map fun _ => ()
  | completions _ => .ok ()

/-- What stopped a task, without its contexts, or that nothing did. -/
def withoutContexts {α : Type} (r : Except Stopped α) : Except Failure Unit :=
  (r.mapError (·.failure)).map fun _ => ()

variable {α β : Type} (w : World) (disk : Disk)

theorem withoutContexts_generation (o : RunOptions) :
    withoutContexts ((generation o).perform w disk).1 = result w disk (.generate o) := by
  rw [generation, Task.perform_bind, Task.perform_under, Job.perform_check, result]
  cases o.check w.tree with
  | error f => rfl
  | ok _ =>
    dsimp only [mapError_ok]
    rw [Task.perform_bind, Task.perform_under, Job.perform_ofExcept]
    cases o.source with
    | error f => rfl
    | ok s =>
      dsimp only [mapError_ok]
      rw [Task.perform_bind, Task.perform_under, ok_bind, ok_bind]
      rcases (Job.generate o s).perform w disk with ⟨f | summary, w'⟩ <;> rfl

theorem withoutContexts_removal (o : RunOptions) :
    withoutContexts ((removal o).perform w disk).1 = result w disk (.remove o) := by
  rw [removal, Task.perform_bind, Task.perform_under, Job.perform_check, result]
  cases o.check w.tree with
  | error f => rfl
  | ok _ =>
    dsimp only [mapError_ok]
    rw [Task.perform_under, ok_bind]
    rcases (Job.remove o).perform w disk with ⟨f | summary, w'⟩ <;> rfl

/-- Putting out a report stops nothing. -/
theorem withoutContexts_map (j : Task α) (g : α → β) :
    withoutContexts ((do let a ← j; return g a : Task β).perform w disk).1 =
      withoutContexts (j.perform w disk).1 := by
  rw [Task.perform_bind]
  rcases j.perform w disk with ⟨x | a, w'⟩ <;> rfl

/-- A command is stopped by the failure of its work, under whatever contexts, and otherwise does
its work. -/
theorem result_of_task (shown : Json → String) (script : Shell → String) (t : RunTimes)
    (c : Command) :
    withoutContexts ((c.task shown script t).perform w disk).1 = c.result w disk := by
  cases c with
  | generate o =>
    exact (withoutContexts_map w disk _ _).trans (withoutContexts_generation w disk o)
  | remove o => exact (withoutContexts_map w disk _ _).trans (withoutContexts_removal w disk o)
  | completions shell => rfl

end Command

/-! ### Command lines -/

theorem OutputFormat.eq_of_ofName_eq_error {name : String} {f : Failure}
    (h : ofName name = .error f) : f = .argument (.outputFormat name) := by
  rw [ofName] at h
  split at h
  · exact nomatch h
  · exact (Except.error.inj h).symm

/-- What carrying out an invocation in a world, on a disk, comes to: its output format is known and
its command does its work, or something fails. -/
def Invocation.result (w : World) (disk : Disk) (i : Invocation) : Except Failure Unit := do
  let _ ← OutputFormat.ofName i.format
  i.command.result { w with log := [], stages := [.start] } disk

/-- The exit code that is due: 0 for work that is done, and otherwise that of the failure. -/
def ExitCode.due : Except Failure Unit → ExitCode
  | .ok () => .success
  | .error f => f.exitCode

/-- A program ends with the code that is due for what its command comes to, and says what stopped
it, if something did. -/
theorem Outcome.ofCommand_eq (f : LogFilter) (log : List LogEntry) (r : Except Stopped String) :
    (ofCommand f log r).exitCode = .due (Command.withoutContexts r) ∧
      match Command.withoutContexts r with
      | .ok () => (ofCommand f log r).stopped? = none
      | .error e => (ofCommand f log r).stopped?.map (·.failure) = some e := by
  rcases r with x | text
  · exact ⟨x.exitCode_eq, rfl⟩
  · exact ⟨rfl, rfl⟩

/-- How the program ends that carries out an invocation. It ends with the code that is due exactly
if the output format is known, and then says what stopped it, if something did. Otherwise it ends
with 1, and nothing is done. -/
structure Invocation.Ends (w : World) (disk : Disk) (i : Invocation) (outcome : Outcome)
    (w' : World) : Prop where
  exitCode_iff : outcome.exitCode = .due (i.result w disk) ↔
    (OutputFormat.ofName i.format).isOk = true
  finished (h : i.result w disk = .ok ()) : outcome.stopped? = none
  stopped (h : (OutputFormat.ofName i.format).isOk = true) (f : Failure)
    (hf : i.result w disk = .error f) : outcome.stopped?.map (·.failure) = some f
  unknown (h : (OutputFormat.ofName i.format).isOk = false) : outcome.exitCode = ⟨1⟩ ∧
    i.result w disk = .error (.argument (.outputFormat i.format)) ∧ w' = w

/-- How the program ends on a command line that was understood as a request. -/
def Request.Ends (w : World) (disk : Disk) (outcome : Outcome) (w' : World) : Request → Prop
  | .run i => i.Ends w disk outcome w'
  | .help _ | .version => outcome.exitCode = ⟨0⟩ ∧ w' = w
  | .misuse => outcome.exitCode = ⟨2⟩ ∧ w' = w

theorem Invocation.ends_execute (s : Surroundings) (i : Invocation) (w : World) (disk : Disk)
    (wording : Wording) :
    i.Ends w disk (i.execute s w disk wording).1 (i.execute s w disk wording).2 := by
  rw [execute]
  cases hformat : OutputFormat.ofName i.format with
  | error f =>
    obtain rfl := OutputFormat.eq_of_ofName_eq_error hformat
    have hresult : i.result w disk = .error (.argument (.outputFormat i.format)) := by
      rw [result, hformat]
      rfl
    have hcode : ¬ExitCode.failure = .due (i.result w disk) := by
      rw [hresult]
      exact (by decide : ExitCode.failure ≠ .usage)
    refine ⟨?_, fun h => ?_, fun h => ?_, fun _ => ⟨rfl, hresult, rfl⟩⟩
    · rw [hformat]
      exact ⟨fun h => absurd h hcode, fun h => absurd h Bool.false_ne_true⟩
    · cases hresult.symm.trans h
    · rw [hformat] at h
      cases h
  | ok format =>
    let done := (i.command.task (shown s format) wording.script s.times).perform
      { w with log := [], stages := [.start] } disk
    have hresult : i.result w disk = Command.withoutContexts done.1 := by
      rw [result, hformat, ok_bind, Command.result_of_task]
    obtain ⟨hcode, hstopped⟩ :=
      Outcome.ofCommand_eq (i.logFilter s.environment) done.2.log done.1
    rw [← hresult] at hcode hstopped
    refine ⟨?_, fun h => ?_, fun _ f h => ?_, fun h => ?_⟩
    · rw [hformat]
      exact ⟨fun _ => rfl, fun _ => hcode⟩
    · rw [h] at hstopped
      exact hstopped
    · rw [h] at hstopped
      exact hstopped
    · rw [hformat] at h
      cases h

/-- With what the program ends, on whatever disk. A failure has the code 2 if the invocation or an
argument was wrong, 3 if a description could not be fetched, and 1 otherwise; no contexts change
that, and an error that is no failure has the code 1 under any contexts. A command line that asks
for a command ends the program with the code that is due exactly if it names an output format. If it
does not, a failure with the code 2 ends the program with 1, and nothing is done. -/
theorem runProgram_exitCode (s : Surroundings) (args : List String) (w : World) (disk : Disk)
    (wording : Wording) :
    ((∀ f : Failure, f.exitCode = ⟨2⟩ ↔ (∃ x, f = .usage x) ∨ ∃ x, f = .argument x) ∧
      (∀ f : Failure, f.exitCode = ⟨3⟩ ↔ ∃ place x, f = .fetch place x) ∧
      ∀ f : Failure, f.exitCode = ⟨1⟩ ∨ f.exitCode = ⟨2⟩ ∨ f.exitCode = ⟨3⟩) ∧
    (∀ contexts f, (Stopped.mk contexts f).exitCode = f.exitCode) ∧
    (∀ contexts text, ExitCode.ofChain (Link.under contexts [.foreign text]) = ⟨1⟩) ∧
    (Request.ofArguments s.environment args).Ends w disk (runProgram s args w disk wording).1
      (runProgram s args w disk wording).2 := by
  refine ⟨⟨fun f => ?_, fun f => ?_, fun f => ?_⟩, fun contexts f => Stopped.exitCode_eq _,
    ExitCode.ofChain_under_foreign, ?_⟩
  · cases f <;> simp [Failure.exitCode, ExitCode.usage, ExitCode.failure, ExitCode.fetch]
  · cases f <;> simp [Failure.exitCode, ExitCode.usage, ExitCode.failure, ExitCode.fetch]
  · cases f <;> simp [Failure.exitCode, ExitCode.usage, ExitCode.failure, ExitCode.fetch]
  · rw [runProgram]
    cases Request.ofArguments s.environment args with
    | run i => exact i.ends_execute s w disk wording
    | help topic => exact ⟨rfl, rfl⟩
    | version => exact ⟨rfl, rfl⟩
    | misuse => exact ⟨rfl, rfl⟩

/-- The surroundings of a program in an empty environment. -/
def bareSurroundings : Surroundings := ⟨fun _ => none, false, ⟨"", ""⟩⟩

/-- A world without files and without a network. -/
def bareWorld : World where
  tree := ⟨.directory [], []⟩
  network := .silent

/-- A removal with an unknown output format ends with 1, and 2 is due. -/
theorem runProgram_exitCode_unknownFormat : ∃ i : Invocation,
    Request.ofArguments bareSurroundings.environment ["--format", "xml", "remove"] = .run i ∧
      (runProgram bareSurroundings ["--format", "xml", "remove"] bareWorld).1.exitCode = ⟨1⟩ ∧
      ExitCode.due (i.result bareWorld .sound) = ⟨2⟩ := by
  obtain ⟨-, -, -, hends⟩ :=
    runProgram_exitCode bareSurroundings ["--format", "xml", "remove"] bareWorld .sound .silent
  have hrequest : Request.ofArguments bareSurroundings.environment ["--format", "xml", "remove"] =
      .run ⟨.remove { workDirectory := ⟨.here, []⟩ }, false, "xml"⟩ := by decide +kernel
  rw [hrequest] at hends
  obtain ⟨hcode, hresult, -⟩ := hends.unknown (by decide +kernel)
  refine ⟨_, hrequest, hcode, ?_⟩
  rw [hresult]
  rfl

end ApiProxy
