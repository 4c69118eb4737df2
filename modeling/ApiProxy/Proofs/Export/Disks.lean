import ApiProxy.Proofs.Export.Steps

/-!
# Exports on disks

A job asks the disk only for what it goes on with, so until it is refused something it does on any
disk what it does on the sound one. What is known of jobs that come to their end on the sound disk
therefore holds of them on every disk.

## Main definitions

* `Job.Steady`: on any disk a job goes as on the sound one, or is refused.

## Main results

* `Job.Steady.perform_eq`: what comes to its end on a disk comes to the same end on the sound one.
* `Job.steady_exportFiles`, `Job.steady_saveDescription`, `Job.steady_removeOutput`: what is done to
  the files is steady.
-/

namespace ApiProxy

open FileTree

/-- Whether a failure says that the disk has refused something. -/
def Failure.isRefusal : Failure → Bool
  | file _ (.refused _) => true
  | _ => false

namespace Job

variable {α β : Type}

/-! ### Jobs until they are refused -/

/-- On any disk a job goes as on the sound one, or is refused. -/
def Steady (j : Job α) : Prop :=
  ∀ (w : World) (disk : Disk), j.perform w disk = j.perform w ∨
    ∃ e w', j.perform w disk = (.error e, w') ∧ e.isRefusal = true

/-- A steady job that comes to its end on some disk comes to the same end on the sound one. -/
theorem Steady.perform_eq {j : Job α} {w w' : World} {disk : Disk} {a : α} (hj : Steady j)
    (h : j.perform w disk = (.ok a, w')) : j.perform w = (.ok a, w') := by
  rcases hj w disk with hsame | ⟨e, _, hrefused, -⟩
  · exact hsame.symm.trans h
  · cases h.symm.trans hrefused

theorem steady_pure (a : α) : Steady (pure a : Job α) := fun _ _ => .inl rfl

theorem steady_note (es : List LogEntry) : Steady (note es) := fun _ _ => .inl rfl

theorem steady_enter (s : Stage) : Steady (enter s) := fun _ _ => .inl rfl

theorem steady_ofExcept (r : Except Failure α) : Steady (ofExcept r) := fun w disk =>
  .inl (by rw [perform_ofExcept, perform_ofExcept])

theorem Steady.bind {j : Job α} {k : α → Job β} (hj : Steady j) (hk : ∀ a, Steady (k a)) :
    Steady (j >>= k) := fun w disk => by
  rw [perform_bind, perform_bind]
  rcases hj w disk with hsame | ⟨e, w', hrefused, he⟩
  · rw [hsame]
    rcases j.perform w with ⟨e | a, w₁⟩
    · exact .inl rfl
    · exact hk a w₁ disk
  · rw [hrefused]
    exact .inr ⟨e, w', rfl, he⟩

theorem steady_get_bind {k : World → Job α} (hk : ∀ w, Steady (k w)) :
    Steady ((get : Job World) >>= k) := fun w disk => by
  rw [perform_bind, perform_bind, perform_get, perform_get]
  exact hk w w disk

theorem steady_change {p : Path} {operation : Disk → FileTree → Except FileFault FileTree}
    (h : ∀ disk t, operation disk t = operation .sound t ∨
      ∃ r, operation disk t = .error (.refused r)) : Steady (change p operation) := fun w disk => by
  rw [perform_change, perform_change]
  rcases h disk w.tree with hsame | ⟨r, hrefused⟩
  · rw [hsame]
    exact .inl rfl
  · rw [hrefused]
    exact .inr ⟨_, w, rfl, rfl⟩

theorem steady_changePartly {p : Path}
    {operation : Disk → FileTree → FileTree × Except FileFault Unit}
    (h : ∀ disk t, Disk.Follows (operation disk t) (operation .sound t)) :
    Steady (changePartly p operation) := fun w disk => by
  rw [perform_changePartly, perform_changePartly]
  rcases h disk w.tree with hsame | ⟨r, hrefused⟩
  · rw [hsame]
    exact .inl rfl
  · rw [hrefused]
    exact .inr ⟨_, _, rfl, rfl⟩

/-! ### What is done to the files -/

theorem steady_makeRoom (p : Path) : Steady (makeRoom p) := by
  rw [makeRoom]
  split
  · exact steady_pure ()
  · exact steady_changePartly fun disk t => disk.follows_makeDirectories t _

theorem steady_write (atomic : Bool) (p : Path) (content : String) :
    Steady (write atomic p content) := by
  have hwrite (q : Path) : Steady (changePartly q (·.writeFile · q content)) :=
    steady_changePartly fun disk t => disk.follows_writeFile t q content
  have hcall {q : Path} {c : FileTree → DiskCall} {outcome : FileTree → Except FileFault FileTree} :
      Steady (change q fun disk t => disk.attempt t (c t) (outcome t)) :=
    steady_change fun disk t => by
      rw [Disk.attempt_sound]
      exact (disk.attempt_cases t (c t) (outcome t)).imp_right fun ⟨r, _, _, _, h⟩ => ⟨r, h⟩
  cases atomic with
  | false =>
    rw [write, if_neg Bool.false_ne_true]
    exact hwrite p
  | true =>
    rw [write, if_pos rfl]
    exact (hwrite _).bind fun _ => hcall.bind fun _ => hcall

theorem steady_exportFile (o : ExportOptions) (base : Path) (f : SourceFile) :
    Steady (exportFile o base f) := by
  refine (steady_ofExcept _).bind fun p => steady_get_bind fun w => ?_
  split
  · exact (steady_note _).bind fun _ => steady_pure false
  · exact (steady_makeRoom p).bind fun _ => (steady_write o.atomic p f.content).bind fun _ =>
      (steady_note _).bind fun _ => steady_pure true

theorem steady_exportFiles (o : ExportOptions) (base : Path) (fs : List SourceFile) :
    Steady (exportFiles o base fs) := by
  induction fs with
  | nil => exact steady_pure _
  | cons f fs ih =>
    exact (steady_exportFile o base f).bind fun _ => ih.bind fun _ => steady_pure _

theorem steady_saveDescription (p : Path) (m : ApiDescription) : Steady (saveDescription p m) :=
  (steady_makeRoom p).bind fun _ =>
    (steady_changePartly fun disk t => disk.follows_writeFile t p m.text).bind fun _ =>
      steady_note _

theorem steady_removeOutput (p : Path) : Steady (removeOutput p) := by
  refine steady_get_bind fun w => ?_
  split
  · exact (steady_changePartly fun disk t => disk.follows_removeDirectory t p).bind fun _ =>
      (steady_note _).bind fun _ => steady_pure true
  · exact (steady_note _).bind fun _ => steady_pure false

end Job

/-! ### Writing on the sound disk -/

namespace Job

variable {p : Path} {content : String} {w : World}

theorem perform_writeFile (p : Path) (content : String) (w : World) :
    (changePartly p (·.writeFile · p content)).perform w =
      match w.tree.writeFile p content with
      | .ok t => (.ok (), { w with tree := t })
      | .error f => (.error (.file p.text f), w) := by
  rw [perform_changePartly, Disk.writeFile_sound]
  cases w.tree.writeFile p content <;> rfl

/-- On the sound disk a file is written if its temporary file can be written and then moved. -/
theorem perform_write_atomic {t t' : FileTree}
    (hwrite : w.tree.writeFile (temporaryPath p) content = .ok t)
    (hmove : t.moveFile (temporaryPath p) p = .ok t') :
    (write true p content).perform w = (.ok (), { w with tree := t' }) := by
  refine write_atomic_eq_ok.2 ⟨t, t', ?_, rfl, ?_, rfl⟩
  · rw [Disk.writeFile_sound, hwrite]
  · rw [Disk.moveFile, Disk.attempt_sound, hmove]

end Job

end ApiProxy
