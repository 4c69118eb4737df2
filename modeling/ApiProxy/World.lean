import ApiProxy.Disk
import ApiProxy.Log
import ApiProxy.Service.Network
import ApiProxy.Stage

/-!
# Worlds and jobs

A world is what a run works on: a file tree and a network, and besides them what the run
leaves behind for people, its log and the stages it went through. A job changes a world and
yields a result or a failure. What a job did before it failed stays done.

The file tree of a world lies on a disk, which may refuse what a job asks of it. Unless another disk
is named, a job is done on the one that refuses nothing.
-/

namespace ApiProxy

/-- What a run works on and what it leaves behind. -/
structure World where
  tree : FileTree
  network : Network
  log : List LogEntry := []
  /-- The stages so far, from the start on. -/
  stages : List Stage := [.start]

/-- A job on a disk that changes a world and may fail. -/
abbrev Job (α : Type) : Type := ExceptT Failure (ReaderT Disk (StateM World)) α

namespace World

/-- The stage that was reached last. -/
def stage (w : World) : Stage := w.stages.getLast?.getD .start

end World

namespace Job

/-- Do a job in a world, on a disk: the result and the world afterwards. -/
def perform {α : Type} (j : Job α) (w : World) (disk : Disk := .sound) :
    Except Failure α × World := j.run disk w

/-- Leave entries in the log. -/
def note (es : List LogEntry) : Job Unit :=
  modify fun w => { w with log := w.log ++ es }

/-- Go on to a stage. -/
def enter (s : Stage) : Job Unit := do
  let w ← get
  note [LogOrigin.run.debug "State transition" [("from", w.stage.name), ("to", s.name)]]
  modify fun w => { w with stages := w.stages ++ [s] }

/-- Go on with a result, or stop. -/
def ofExcept {α : Type} : Except Failure α → Job α
  | .ok a => pure a
  | .error f => throw f

/-- Change the file tree by an operation that changes nothing if it fails. The failure names a
path. -/
def change (p : Path) (operation : Disk → FileTree → Except FileFault FileTree) : Job Unit := do
  let w ← get
  match operation (← read) w.tree with
  | .ok t => set { w with tree := t }
  | .error f => throw (.file p.text f)

/-- Change the file tree by an operation that may stop half-way. The failure names a path. -/
def changePartly (p : Path)
    (operation : Disk → FileTree → FileTree × Except FileFault Unit) : Job Unit := do
  let w ← get
  let (t, r) := operation (← read) w.tree
  set { w with tree := t }
  match r with
  | .ok () => pure ()
  | .error f => throw (.file p.text f)

variable {α β : Type}

/-- Of two jobs the second goes on in the world that the first one leaves, if that one yields
a result. -/
theorem perform_bind (j : Job α) (k : α → Job β) (w : World) (disk : Disk) :
    (j >>= k).perform w disk =
      match j.perform w disk with
      | (.ok a, w') => (k a).perform w' disk
      | (.error f, w') => (.error f, w') := by
  change (ExceptT.bindCont (fun a => k a) (j.run disk w).1).run disk (j.run disk w).2 = _
  rw [perform]
  rcases j.run disk w with ⟨_ | _, _⟩ <;> rfl

theorem perform_note (es : List LogEntry) (w : World) (disk : Disk) :
    (note es).perform w disk = (.ok (), { w with log := w.log ++ es }) := rfl

theorem perform_ofExcept (r : Except Failure α) (w : World) (disk : Disk) :
    (ofExcept r).perform w disk = (r, w) := by
  cases r <;> rfl

theorem perform_enter (s : Stage) (w : World) (disk : Disk) :
    ∃ es, (enter s).perform w disk =
      (.ok (), { w with log := w.log ++ es, stages := w.stages ++ [s] }) :=
  ⟨_, rfl⟩

/-- A change either fails and changes nothing, or only changes the file tree. -/
theorem perform_change (p : Path) (operation : Disk → FileTree → Except FileFault FileTree)
    (w : World) (disk : Disk) :
    (change p operation).perform w disk =
      match operation disk w.tree with
      | .ok t => (.ok (), { w with tree := t })
      | .error f => (.error (.file p.text f), w) := by
  simp only [change, perform_bind]
  change (Job.perform (match operation disk w.tree with
    | .ok t => set { w with tree := t }
    | .error f => throw (.file p.text f)) w disk) = _
  cases operation disk w.tree <;> rfl

/-- A change that may stop half-way only changes the file tree. -/
theorem perform_changePartly (p : Path)
    (operation : Disk → FileTree → FileTree × Except FileFault Unit) (w : World) (disk : Disk) :
    (changePartly p operation).perform w disk =
      ((operation disk w.tree).2.mapError (.file p.text ·),
        { w with tree := (operation disk w.tree).1 }) := by
  change ((match (operation disk w.tree).2 with
    | .ok () => pure ()
    | .error f => throw (.file p.text f) : Job Unit).perform
      { w with tree := (operation disk w.tree).1 } disk) = _
  cases (operation disk w.tree).2 <;> rfl

end Job

end ApiProxy
