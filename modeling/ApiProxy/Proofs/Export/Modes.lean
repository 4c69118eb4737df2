import ApiProxy.Proofs.Export.Effect
import ApiProxy.Proofs.Export.TwoSteps

/-!
# Atomic and direct exports

An atomic export writes a file beside its place and moves it there, a direct one writes it at its
place. Both come to an end for the same files, with the same report and the same tree, as long as
nothing is in the place of a temporary file when it is needed. It is not enough that nothing is
there at first and that no other file is put there: a directory may be made in that place on the way
to an earlier file, or even on the way to the file itself, if the base goes back through it.

Names and paths may not become too long by what is put behind the name of a temporary file. And the
disk must not let the one be written without the other: a file that may not be written can still be
replaced by a temporary one, a file in a directory that may not be changed can only be written at
its place, and so can a file for which there is no room twice. Where a disk refuses both, or a
directory for them, both exports stop.

## Main definitions

* `SourceFile.Bypasses`: the path of a file does not go through the place of a temporary file.
* `Disk.GoesBySight`: what a disk answers depends on what is seen in a tree.
* `Disk.Levels`, `Job.LevelsAlong`: a disk makes no difference between a file and its temporary
  file, and this for the files that a direct export comes to write.
* `Job.Matches`: two runs both stop, or end with one result and resembling trees.

## Main results

* `Job.matches_write`: writing a file in one step and in two, on a disk.
* `Job.matches_exportFiles`, `Job.exportFiles_atomic_iff_direct`: the two kinds of export.
-/

namespace ApiProxy

open FileTree

/-! ### Disks that make no difference -/

/-- What a disk answers depends on what is seen in a tree. -/
structure Disk.GoesBySight (disk : Disk) : Prop where
  refuses {t t' : FileTree} (h : t.Resembles t') (c : DiskCall) :
    disk.refuses t' c = disk.refuses t c
  breaksOff {t t' : FileTree} (h : t.Resembles t') (p : Path) (content : String) :
    disk.breaksOff t' p content = disk.breaksOff t p content

/-- A disk makes no difference between a file and its temporary file: it takes the content for the
one exactly if it does so for the other, and once it is written to the temporary file, this can be
brought to the device and moved. -/
structure Disk.Levels (disk : Disk) (t : FileTree) (p : Path) (content : String) : Prop where
  takes : disk.Takes t (temporaryPath p) content ↔ disk.Takes t p content
  settles (t' : FileTree) (hwrite : disk.writeFile t (temporaryPath p) content = (t', .ok ())) :
    disk.refuses t' (.sync (temporaryPath p)) = none ∧
      disk.refuses t' (.move (temporaryPath p) p) = none

/-- A disk makes no difference between a file and its temporary file for each of the files that a
direct export comes to write. -/
def Job.LevelsAlong (o : ExportOptions) (base : Path) (disk : Disk) :
    List SourceFile → World → Prop
  | [], _ => True
  | f :: fs, w =>
    (∀ p w', locate base f.path = .ok p →
      ¬(f.policy = .createOnce ∧ w.tree.contains p = true) →
        (makeRoom p).perform w disk = (.ok (), w') → disk.Levels w'.tree p f.content) ∧
    ∀ written w', (exportFile { o with atomic := false } base f).perform w disk =
      (.ok written, w') → LevelsAlong o base disk fs w'

section

variable {disk : Disk} {t t' : FileTree} {p : Path} {content : String}

theorem Disk.GoesBySight.makeDirectory (hsight : disk.GoesBySight) (h : t.Resembles t')
    (p : Path) : Concur (disk.makeDirectory t p) (disk.makeDirectory t' p) := by
  have hmake := h.makeDirectory p
  rw [Disk.makeDirectory, Disk.makeDirectory, Disk.attempt, Disk.attempt, hsight.refuses h]
  generalize t.makeDirectory p = x at hmake ⊢
  generalize t'.makeDirectory p = x' at hmake ⊢
  cases hmake with
  | error f => exact .error f
  | ok hsame =>
    rw [ok_bind, ok_bind]
    split
    · exact .ok hsame
    · exact .error _

theorem Disk.GoesBySight.takes (hsight : disk.GoesBySight) (h : t.Resembles t') (p : Path)
    (content : String) : disk.Takes t' p content ↔ disk.Takes t p content := by
  rw [Takes, Takes, hsight.refuses h, hsight.breaksOff h]

theorem Disk.GoesBySight.writeFile {t₁ : FileTree} (hsight : disk.GoesBySight)
    (h : t.Resembles t') (hwrite : disk.writeFile t p content = (t₁, .ok ())) :
    ∃ t₁', disk.writeFile t' p content = (t₁', .ok ()) ∧ t₁.Resembles t₁' := by
  obtain ⟨hwritten, htakes⟩ := Disk.writeFile_eq_ok_iff.1 hwrite
  have hconcur := h.writeFile p content
  rw [hwritten] at hconcur
  generalize hwritten' : t'.writeFile p content = x at hconcur
  cases hconcur with
  | ok hsame =>
    exact ⟨_, Disk.writeFile_eq_ok_iff.2 ⟨hwritten', (hsight.takes h p content).2 htakes⟩, hsame⟩

theorem Disk.Levels.of_resembles (hlevels : disk.Levels t' p content)
    (hsight : disk.GoesBySight) (h : t.Resembles t') : disk.Levels t p content where
  takes := by
    rw [← hsight.takes h, ← hsight.takes h]
    exact hlevels.takes
  settles t₁ hwrite := by
    obtain ⟨t₁', hwrite', hsame⟩ := hsight.writeFile h hwrite
    rw [← hsight.refuses hsame, ← hsight.refuses hsame]
    exact hlevels.settles t₁' hwrite'

theorem Job.levelsAlong_of_levels (h : ∀ t p content, disk.Levels t p content)
    (o : ExportOptions) (base : Path) (fs : List SourceFile) (w : World) :
    LevelsAlong o base disk fs w := by
  induction fs generalizing w with
  | nil => trivial
  | cons f fs ih => exact ⟨fun p w' _ _ _ => h w'.tree p f.content, fun _ w' _ => ih w'⟩

end

/-! ### Runs that match -/

/-- The path of a file does not go through where the temporary file of another one goes. -/
def SourceFile.Bypasses (base : Path) (t : FileTree) (f g : SourceFile) : Prop :=
  ∀ p q, locate base f.path = .ok p → locate base g.path = .ok q →
    ¬t.PassesThrough p (t.place (temporaryPath q))

instance (t : FileTree) (p : Path) (loc : Location) : Decidable (t.PassesThrough p loc) :=
  decidable_of_iff (∃ parts ∈ (steps p).inits, loc = follow (t.start p) parts) (by
    simp only [PassesThrough, List.mem_inits])

instance (base : Path) (t : FileTree) (f g : SourceFile) : Decidable (f.Bypasses base t g) :=
  decidable_of_iff (∀ p ∈ (locate base f.path).toOption, ∀ q ∈ (locate base g.path).toOption,
      ¬t.PassesThrough p (t.place (temporaryPath q))) (by
    rw [SourceFile.Bypasses]
    cases locate base f.path <;> cases locate base g.path <;> simp [Except.toOption])

instance (base : Path) (t : FileTree) (f : SourceFile) : Decidable (f.Vacant base t) :=
  decidable_of_iff (∀ p ∈ (locate base f.path).toOption, t.seen? (t.place (temporaryPath p)) = none)
    (by
      rw [SourceFile.Vacant]
      cases locate base f.path <;> simp [Except.toOption])

/-- The path of the temporary file of a file is short. -/
def SourceFile.FitsTemporary (base : Path) (f : SourceFile) : Prop :=
  ∀ p, locate base f.path = .ok p → (temporaryPath p).IsShort

instance (base : Path) (f : SourceFile) : Decidable (f.FitsTemporary base) :=
  decidable_of_iff (∀ p ∈ (locate base f.path).toOption, (temporaryPath p).IsShort) (by
    rw [SourceFile.FitsTemporary]
    cases locate base f.path <;> simp [Except.toOption])

namespace SourceFile

variable {f g : SourceFile} {base : Path} {t t' : FileTree}

theorem Bypasses.congr (h : t'.current = t.current) :
    f.Bypasses base t' g ↔ f.Bypasses base t g := by
  simp only [Bypasses, PassesThrough, start, place_congr h, h]

theorem Bypasses.not_goesThrough {q : Path} (h : f.Bypasses base t g)
    (hq : locate base g.path = .ok q) : ¬f.GoesThrough base t (t.place (temporaryPath q)) :=
  fun ⟨p, hp, hpasses⟩ => h p q hp hq hpasses

theorem Vacant.of_resembles (hvacant : f.Vacant base t) (h : t.Resembles t') :
    f.Vacant base t' := by
  intro p hp
  rw [h.place, h.seen _ not_false]
  exact hvacant p hp

end SourceFile

namespace Job

variable {α β : Type} {w w' : World} {disk : Disk}

/-- Two runs match: both stop, or both come to their end with one result and leave trees in which
the same is seen. -/
inductive Matches : Except Failure α × World → Except Failure α × World → Prop
  | finished (a : α) {w w' : World} (h : w.tree.Resembles w'.tree) : Matches (.ok a, w) (.ok a, w')
  | stopped (e e' : Failure) (w w' : World) : Matches (.error e, w) (.error e', w')

theorem matches_of_eq_ok {x y : Except Failure α × World}
    (hx : ∀ a v, x = (.ok a, v) → ∃ v', y = (.ok a, v') ∧ v.tree.Resembles v'.tree)
    (hy : ∀ a v', y = (.ok a, v') → ∃ v, x = (.ok a, v)) : Matches x y := by
  rcases x with ⟨e | a, v⟩
  · rcases y with ⟨e' | a', v'⟩
    · exact .stopped e e' v v'
    · obtain ⟨_, h⟩ := hy a' v' rfl
      cases h
  · obtain ⟨v', rfl, hsame⟩ := hx a v rfl
    exact .finished a hsame

/-- Runs match that go on after matching ones in a matching way. -/
theorem Matches.bind {j j' : Job α} {k k' : α → Job β}
    (h : Matches (j.perform w disk) (j'.perform w' disk))
    (hk : ∀ a v v', j.perform w disk = (.ok a, v) → j'.perform w' disk = (.ok a, v') →
      v.tree.Resembles v'.tree → Matches ((k a).perform v disk) ((k' a).perform v' disk)) :
    Matches ((j >>= k).perform w disk) ((j' >>= k').perform w' disk) := by
  rw [perform_bind, perform_bind]
  generalize j.perform w disk = x at h hk ⊢
  generalize j'.perform w' disk = x' at h hk ⊢
  cases h with
  | finished a h => exact hk a _ _ rfl rfl h
  | stopped e e' => exact .stopped e e' _ _

theorem matches_makeRoom (hsight : disk.GoesBySight) (h : w.tree.Resembles w'.tree) (p : Path) :
    Matches ((makeRoom p).perform w disk) ((makeRoom p).perform w' disk) := by
  rw [makeRoom]
  split
  · exact .finished () h
  next parent _ =>
  obtain ⟨hsame, hresult⟩ := h.makeDirectories hsight.makeDirectory parent
  rw [perform_changePartly, perform_changePartly, Disk.makeDirectories, Disk.makeDirectories,
    hresult]
  cases (w.tree.makeDirectories parent disk.makeDirectory).2 with
  | ok => exact .finished () hsame
  | error f => exact .stopped _ _ _ _

section

variable {base p : Path} {relative content : String} (hp : locate base relative = .ok p)
  (hshort : (temporaryPath p).IsShort)
  (hvacant : w.tree.seen? (w.tree.place (temporaryPath p)) = none)
  (hclear : ¬w.tree.PassesThrough p (w.tree.place (temporaryPath p)))
  (hlevels : disk.Levels w.tree p content)

include hp hshort hvacant hclear hlevels

theorem write_direct_of_atomic {v : World}
    (h : (write true p content).perform w disk = (.ok (), v)) :
    ∃ t, disk.writeFile w.tree p content = (t, .ok ()) ∧ v.tree.Resembles t := by
  obtain ⟨t₁, t₂, hwrite, -, hmove, rfl⟩ := write_atomic_eq_ok.1 h
  obtain ⟨hwrite, htakes⟩ := Disk.writeFile_eq_ok_iff.1 hwrite
  have hmove := Disk.moveFile_eq_ok hmove
  obtain ⟨t, hwritten⟩ := exists_writeFile_of_moveFile hclear hwrite hmove
  obtain ⟨t₁', t₂', hwrite', hmove', hsame⟩ :=
    exists_moveFile_of_writeFile hp hshort hvacant hclear hwritten
  obtain rfl := Except.ok.inj (hwrite.symm.trans hwrite')
  obtain rfl := Except.ok.inj (hmove.symm.trans hmove')
  exact ⟨t, Disk.writeFile_eq_ok_iff.2 ⟨hwritten, hlevels.takes.1 htakes⟩, hsame⟩

theorem write_atomic_of_direct {t : FileTree}
    (h : disk.writeFile w.tree p content = (t, .ok ())) :
    ∃ v, (write true p content).perform w disk = (.ok (), v) := by
  obtain ⟨hwritten, htakes⟩ := Disk.writeFile_eq_ok_iff.1 h
  obtain ⟨t₁, t₂, hwrite, hmove, -⟩ :=
    exists_moveFile_of_writeFile hp hshort hvacant hclear hwritten
  have hwrite := Disk.writeFile_eq_ok_iff.2 ⟨hwrite, hlevels.takes.2 htakes⟩
  obtain ⟨hsync, hmoves⟩ := hlevels.settles t₁ hwrite
  exact ⟨_, write_atomic_eq_ok.2
    ⟨t₁, t₂, hwrite, hsync, Disk.attempt_eq_ok_iff.2 ⟨hmove, hmoves⟩, rfl⟩⟩

/-- Writing a file in two steps matches writing it in one. -/
theorem matches_write (hsight : disk.GoesBySight) (h : w.tree.Resembles w'.tree) :
    Matches ((write true p content).perform w disk) ((write false p content).perform w' disk) := by
  refine matches_of_eq_ok (fun ⟨⟩ v hatomic => ?_) fun ⟨⟩ v' hdirect => ?_
  · obtain ⟨t, hwrite, hsame⟩ := write_direct_of_atomic hp hshort hvacant hclear hlevels hatomic
    obtain ⟨t', hwrite', hsame'⟩ := hsight.writeFile h hwrite
    exact ⟨_, write_direct_eq_ok.2 ⟨t', hwrite', rfl⟩, hsame.trans hsame'⟩
  · obtain ⟨t', hwrite', -⟩ := write_direct_eq_ok.1 hdirect
    obtain ⟨t, hwrite, -⟩ := hsight.writeFile h.symm hwrite'
    exact write_atomic_of_direct hp hshort hvacant hclear hlevels hwrite

end

variable {base : Path} {f : SourceFile} {fs : List SourceFile}

/-- The two kinds of export match for a file whose temporary file has a place that nothing is in and
that the path of the file does not go through. -/
theorem matches_exportFile (o : ExportOptions) (hsight : disk.GoesBySight)
    (h : w.tree.Resembles w'.tree) (hlevels : LevelsAlong o base disk (f :: fs) w')
    (hshort : f.FitsTemporary base) (hvacant : f.Vacant base w.tree)
    (hself : f.Bypasses base w.tree f) :
    Matches ((exportFile { o with atomic := true } base f).perform w disk)
      ((exportFile { o with atomic := false } base f).perform w' disk) := by
  cases hp : locate base f.path with
  | error e =>
    rw [exportFile, exportFile, hp]
    exact .stopped e e w w'
  | ok p =>
    rw [perform_exportFile_of_located hp, perform_exportFile_of_located hp, h.contains]
    split
    · exact .finished false h
    next hwrites =>
    refine (matches_makeRoom hsight h p).bind fun _ v v' hroom hroom' hsame => ?_
    -- no directory was made in the place of the temporary file
    have hway := opensWay_makeRoom p w disk
    rw [hroom] at hway
    have hclear := hself p p hp hp
    have hvacant' : v.tree.seen? (v.tree.place (temporaryPath p)) = none := by
      rw [place_congr hway.current]
      exact ((hway.seen _).resolve_right fun hmade => hclear hmade.passes).trans (hvacant p hp)
    have hclear' : ¬v.tree.PassesThrough p (v.tree.place (temporaryPath p)) := by
      rwa [PassesThrough, place_congr hway.current, start, hway.current]
    have hlevels' : disk.Levels v.tree p f.content :=
      (hlevels.1 p v' hp (by rwa [h.contains]) hroom').of_resembles hsight hsame
    exact (matches_write hp (hshort p hp) hvacant' hclear' hlevels' hsight hsame).bind
      fun _ _ _ _ _ hsame' => .finished true hsame'

/-- A direct export of a file leaves what stands where its path does not go. -/
theorem vacant_of_exportFile_direct (o : ExportOptions) {g : SourceFile}
    (hvacant : g.Vacant base w.tree) (h : f.Bypasses base w.tree g) :
    g.Vacant base ((exportFile { o with atomic := false } base f).perform w disk).2.tree := by
  intro q hq
  have hspares := spares_exportFile { o with atomic := false } base f w disk
  have hnot := h.not_goesThrough hq
  rw [place_congr hspares.current]
  refine ((hspares.seen _ ?_).resolve_right fun hmade => hnot hmade.1).trans (hvacant q hq)
  rintro (⟨hatomic, -⟩ | hwritten)
  · cases hatomic
  · exact hnot hwritten.putAt.goesThrough

/-- The two kinds of export match for files whose temporary files have places that nothing is in and
that the paths of the same and of earlier files do not go through. -/
theorem matches_exportFiles (o : ExportOptions) (hsight : disk.GoesBySight)
    (h : w.tree.Resembles w'.tree) (hlevels : LevelsAlong o base disk fs w')
    (hshort : ∀ f ∈ fs, f.FitsTemporary base) (hvacant : ∀ f ∈ fs, f.Vacant base w.tree)
    (hself : ∀ f ∈ fs, f.Bypasses base w.tree f)
    (hothers : fs.Pairwise (SourceFile.Bypasses base w.tree)) :
    Matches ((exportFiles { o with atomic := true } base fs).perform w disk)
      ((exportFiles { o with atomic := false } base fs).perform w' disk) := by
  induction fs generalizing w w' with
  | nil => exact .finished ExportReport.empty h
  | cons f fs ih =>
    obtain ⟨hshort, hshort'⟩ := List.forall_mem_cons.1 hshort
    obtain ⟨hvacant, hvacant'⟩ := List.forall_mem_cons.1 hvacant
    obtain ⟨hself, hself'⟩ := List.forall_mem_cons.1 hself
    obtain ⟨hothers, hothers'⟩ := List.pairwise_cons.1 hothers
    refine (matches_exportFile o hsight h hlevels hshort hvacant hself).bind
      fun written v v' hrun hrun' hsame => ?_
    have hcurrent := (spares_exportFile { o with atomic := true } base f w disk).current
    rw [hrun] at hcurrent
    refine (ih hsame (hlevels.2 written v' hrun') hshort' (fun g hg => ?_) (fun g hg => ?_) ?_).bind
      fun report _ _ _ _ hsame' => .finished _ hsame'
    · -- it is the direct export that has left the place of the temporary file as it was
      have hdirect : g.Vacant base w'.tree := (hvacant' g hg).of_resembles h
      have hleft : g.Vacant base
          ((exportFile { o with atomic := false } base f).perform w' disk).2.tree :=
        vacant_of_exportFile_direct o hdirect
          ((SourceFile.Bypasses.congr h.current).2 (hothers g hg))
      rw [hrun'] at hleft
      exact hleft.of_resembles hsame.symm
    · exact (SourceFile.Bypasses.congr hcurrent).2 (hself' g hg)
    · exact hothers'.imp fun hbypasses => (SourceFile.Bypasses.congr hcurrent).2 hbypasses

/-- An atomic export comes to its end exactly if a direct one does, and then with the same report,
and the same is seen in the two trees: if nothing stands where a temporary file goes, the paths of
the same and of earlier files do not go through there, and the disk makes no difference between the
files that are written and their temporary files. -/
theorem exportFiles_atomic_iff_direct (o : ExportOptions) (base : Path) (fs : List SourceFile)
    (w : World) (disk : Disk) (hsight : disk.GoesBySight) (hlevels : LevelsAlong o base disk fs w)
    (hshort : ∀ f ∈ fs, f.FitsTemporary base) (hvacant : ∀ f ∈ fs, f.Vacant base w.tree)
    (hself : ∀ f ∈ fs, f.Bypasses base w.tree f)
    (hothers : fs.Pairwise (SourceFile.Bypasses base w.tree)) :
    (((exportFiles { o with atomic := true } base fs).perform w disk).1.isOk = true ↔
        ((exportFiles { o with atomic := false } base fs).perform w disk).1.isOk = true) ∧
      ∀ report, ((exportFiles { o with atomic := true } base fs).perform w disk).1 = .ok report →
        ((exportFiles { o with atomic := false } base fs).perform w disk).1 = .ok report ∧
          ((exportFiles { o with atomic := true } base fs).perform w disk).2.tree.Resembles
            ((exportFiles { o with atomic := false } base fs).perform w disk).2.tree := by
  have hmatches :=
    matches_exportFiles o hsight (.refl _ w.tree) hlevels hshort hvacant hself hothers
  generalize (exportFiles { o with atomic := true } base fs).perform w disk = x at hmatches ⊢
  generalize (exportFiles { o with atomic := false } base fs).perform w disk = y at hmatches ⊢
  cases hmatches with
  | finished report hsame =>
    refine ⟨Iff.rfl, fun report' h => ?_⟩
    obtain rfl := Except.ok.inj h
    exact ⟨rfl, hsame⟩
  | stopped e e' =>
    exact ⟨Iff.rfl, fun report' h => nomatch h⟩

end Job

/-- The export of files to a folder, in two steps or in one. -/
def folderExport (fs : List SourceFile) (w : World) (disk : Disk) (atomic : Bool) :
    Except Failure ExportReport × World :=
  (Job.exportFiles { atomic } (.ofText "out") fs).perform w disk

/-- Whether an atomic and a direct export of files come to their ends. -/
def exportEnds (fs : List SourceFile) (w : World) (disk : Disk) : Bool × Bool :=
  ((folderExport fs w disk true).1.isOk, (folderExport fs w disk false).1.isOk)

/-- A file at the top of the folder. -/
def topFile : SourceFile := .ofKind "a" "1" .dataType

/-- Files of which one is below a directory that is named like the temporary file of another. -/
def shadowingFiles : List SourceFile :=
  [topFile, .ofKind "a.tmp/b" "2" .dataType, .ofKind "./c//d" "3" .classStub]

/-- A disk on which directories may not be changed, but files in them may. -/
def lockedFoldersDisk : Disk where
  refuses t c :=
    match c with
    | .create p => if t.contains p then none else some .denied
    | .sync _ => none
    | _ => some .denied
  breaksOff _ _ _ := none

/-- A world in which the folder is there and empty. -/
def folderWorld : World where
  tree := ⟨.directory [("out", .directory [])], []⟩
  network := .silent

theorem goesBySight_lockedFoldersDisk : lockedFoldersDisk.GoesBySight where
  refuses h c := by
    cases c with
    | create p =>
      change (if _ then _ else _) = if _ then _ else _
      rw [h.contains]
    | _ => rfl
  breaksOff _ _ _ := rfl

/-- Neither the file nor its temporary file may be opened. -/
theorem levelsAlong_lockedFoldersDisk :
    Job.LevelsAlong {} (.ofText "out") lockedFoldersDisk [topFile] folderWorld := by
  have hrefused : ∀ p ∈ (locate (.ofText "out") topFile.path).toOption,
      ¬lockedFoldersDisk.Takes ((Job.makeRoom p).perform folderWorld lockedFoldersDisk).2.tree p
          topFile.content ∧
        ¬lockedFoldersDisk.Takes ((Job.makeRoom p).perform folderWorld lockedFoldersDisk).2.tree
          (temporaryPath p) topFile.content := by decide +kernel
  have hstops : ((Job.exportFile { atomic := false } (.ofText "out") topFile).perform folderWorld
      lockedFoldersDisk).1.isOk = false := by decide +kernel
  refine ⟨fun p w' hp _ hroom => ?_, fun written w' hrun => ?_⟩
  · obtain ⟨hfile, htemp⟩ := hrefused p (by rw [hp]; rfl)
    rw [hroom] at hfile htemp
    exact ⟨iff_of_false htemp hfile, fun t' hwrite =>
      absurd (Disk.writeFile_eq_ok_iff.1 hwrite).2 htemp⟩
  · rw [hrun] at hstops
    cases hstops

/-- On the sound disk the directory is only made when the temporary file has been moved. On a disk
on which the folder may not be changed neither export comes to its end. -/
theorem Job.exportFiles_atomic_iff_direct_shadowing :
    (∀ f ∈ shadowingFiles, f.FitsTemporary (.ofText "out")) ∧
      (∀ f ∈ shadowingFiles, f.Vacant (.ofText "out") emptyWorld.tree) ∧
      (∀ f ∈ shadowingFiles, f.Bypasses (.ofText "out") emptyWorld.tree f) ∧
      shadowingFiles.Pairwise (SourceFile.Bypasses (.ofText "out") emptyWorld.tree) ∧
      ((folderExport shadowingFiles emptyWorld .sound true).1.isOk = true ↔
        (folderExport shadowingFiles emptyWorld .sound false).1.isOk = true) ∧
      (∀ report, (folderExport shadowingFiles emptyWorld .sound true).1 = .ok report →
        (folderExport shadowingFiles emptyWorld .sound false).1 = .ok report ∧
          (folderExport shadowingFiles emptyWorld .sound true).2.tree.Resembles
            (folderExport shadowingFiles emptyWorld .sound false).2.tree) ∧
      exportEnds shadowingFiles emptyWorld .sound = (true, true) ∧
      ((folderExport [topFile] folderWorld lockedFoldersDisk true).1.isOk = true ↔
        (folderExport [topFile] folderWorld lockedFoldersDisk false).1.isOk = true) ∧
      exportEnds [topFile] folderWorld lockedFoldersDisk = (false, false) := by
  have hshort : ∀ f ∈ shadowingFiles, f.FitsTemporary (.ofText "out") := by decide +kernel
  have hvacant : ∀ f ∈ shadowingFiles, f.Vacant (.ofText "out") emptyWorld.tree := by
    decide +kernel
  have hself : ∀ f ∈ shadowingFiles, f.Bypasses (.ofText "out") emptyWorld.tree f := by
    decide +kernel
  have hothers : shadowingFiles.Pairwise (SourceFile.Bypasses (.ofText "out") emptyWorld.tree) := by
    decide +kernel
  have hsame := exportFiles_atomic_iff_direct {} _ shadowingFiles emptyWorld .sound
    ⟨fun _ _ => rfl, fun _ _ _ => rfl⟩
    (levelsAlong_of_levels (fun _ _ _ => ⟨Iff.rfl, fun _ _ => ⟨rfl, rfl⟩⟩) {} _ _ _)
    hshort hvacant hself hothers
  have hlocked := exportFiles_atomic_iff_direct {} (.ofText "out") [topFile] folderWorld
    lockedFoldersDisk goesBySight_lockedFoldersDisk levelsAlong_lockedFoldersDisk
    (by decide +kernel) (by decide +kernel) (by decide +kernel) (by decide +kernel)
  dsimp only at hsame hlocked
  rw [← folderExport, ← folderExport] at hsame hlocked
  exact ⟨hshort, hvacant, hself, hothers, hsame.1, hsame.2, by decide +kernel, hlocked.1,
    by decide +kernel⟩

/-- A world in which a file has been exported before. -/
def exportedWorld : World where
  tree := ⟨.directory [("out", .directory [("a", .file "0")])], []⟩
  network := .silent

/-- A disk on which files that are there may not be written. -/
def lockedFilesDisk : Disk where
  refuses t c :=
    match c with
    | .create p => if t.contains p then some .denied else none
    | _ => none
  breaksOff _ _ _ := none

/-- A disk that only has room where a file was before. -/
def fullDisk : Disk where
  refuses _ _ := none
  breaksOff t p _ := if t.contains p then none else some (0, .noSpace)

/-- Nothing stands where a temporary file goes and no file is put there, and yet only one of the two
exports comes to its end: a directory is made in the place of the temporary file of the second file
for the first, the file that is there may not be written, or only this file may be, or there is no
room for a second one. -/
theorem Job.exportFiles_modes_differ :
    let files : List SourceFile := [.ofKind "a.tmp/b" "2" .dataType, topFile]
    (∀ f ∈ files, f.FitsTemporary (.ofText "out") ∧ f.Vacant (.ofText "out") emptyWorld.tree ∧
        f.Vacant (.ofText "out") exportedWorld.tree ∧
        ∀ g ∈ files, f.Avoids (.ofText "out") emptyWorld.tree g ∧
          f.Avoids (.ofText "out") exportedWorld.tree g) ∧
      exportEnds files emptyWorld .sound = (false, true) ∧
      exportEnds [topFile] exportedWorld lockedFilesDisk = (true, false) ∧
      exportEnds [topFile] exportedWorld lockedFoldersDisk = (false, true) ∧
      exportEnds [topFile] exportedWorld fullDisk = (false, true) := by
  decide +kernel

end ApiProxy
