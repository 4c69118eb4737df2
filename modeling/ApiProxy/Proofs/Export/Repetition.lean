import ApiProxy.Proofs.Export.Disks
import ApiProxy.Proofs.Export.Settled

/-!
# Exporting again

Files that are settled can be exported again: those that are written once are found and kept, the
others are written where they are, and no directory is made. The only thing that can be in the way
is a directory in the place of the temporary file of a file that is always written.

## Main definitions

* `SourceFile.Free`: no directory is in the place of the temporary file, if there is one.
* `SourceFile.Touches`: where a file and its temporary file are written.
* `ExportReport.ofFiles`: the report of an export that finds all files.

## Main results

* `Job.exportFiles_again`: what another export of settled files does.
* `Job.isOk_exportFiles_again_iff`: when it comes to its end.
-/

namespace ApiProxy

open FileTree

/-- The report of an export that finds all files that are written once. -/
def ExportReport.ofFiles (fs : List SourceFile) : ExportReport where
  written := (fs.filter (·.policy == .overwrite)).map (·.path)
  skipped := (fs.filter (·.policy == .createOnce)).map (·.path)

theorem ExportReport.ofFiles_cons (f : SourceFile) (fs : List SourceFile) :
    ofFiles (f :: fs) = (ofFiles fs).cons (f.policy == .overwrite) f.path := by
  cases hpolicy : f.policy <;> simp [ofFiles, cons, hpolicy]

namespace SourceFile

/-- No directory is in the place of the temporary file of a file that is always written. -/
def Free (base : Path) (t : FileTree) (f : SourceFile) : Prop :=
  f.policy = .overwrite → ∀ p, locate base f.path = .ok p →
    t.isDirectoryAt (t.place (temporaryPath p)) = false

/-- A location is that of a file that is always written or of its temporary file. -/
def Touches (f : SourceFile) (base : Path) (t : FileTree) (loc : Location) : Prop :=
  f.policy = .overwrite ∧ ∃ p, locate base f.path = .ok p ∧
    (loc = t.place p ∨ loc = t.place (temporaryPath p))

variable {f : SourceFile} {base : Path} {t t' : FileTree}

instance : Decidable (f.Free base t) :=
  decidable_of_iff (f.policy = .overwrite → ∀ p ∈ (locate base f.path).toOption,
      t.isDirectoryAt (t.place (temporaryPath p)) = false) (by
    rw [Free]
    cases locate base f.path <;> simp [Except.toOption])

theorem Vacant.free (h : f.policy = .overwrite → f.Vacant base t) : f.Free base t := by
  intro hpolicy p hp
  rw [← Bool.not_eq_true, isDirectoryAt_iff_seen?, h hpolicy p hp]
  exact nofun

theorem Touches.congr {loc : Location} (h : t'.current = t.current) :
    f.Touches base t' loc ↔ f.Touches base t loc := by
  simp only [Touches, place_congr h]

end SourceFile

namespace Job

variable {o : ExportOptions} {base p : Path} {f : SourceFile} {fs : List SourceFile} {w w' : World}

/-- Where there is room for a file, none has to be made. -/
theorem perform_makeRoom_of_roomy (hg : w.tree.Grounded) (h : w.tree.Roomy p) :
    (makeRoom p).perform w = (.ok (), w) := by
  rw [makeRoom]
  split
  · rfl
  next q hq =>
  have hmake : Disk.sound.makeDirectories w.tree q = (w.tree, .ok ()) := by
    rcases h.parent q hq with rfl | hdir
    · rfl
    · exact makeDirectories_of_isDirectory Disk.sound.makes_makeDirectory hg hdir
  rw [perform_changePartly, hmake]
  rfl

/-- A prepared file is written where it is, unless a directory is in the place of its temporary
file. -/
theorem perform_write_of_prepared (hg : w.tree.Grounded) (h : w.tree.Prepared p)
    (hfree : w.tree.isDirectoryAt (w.tree.place (temporaryPath p)) = false) (content : String) :
    ∃ w', (write true p content).perform w = (.ok (), w') ∧
      w.tree.AgreesOff (fun loc => loc = w.tree.place p ∨ loc = w.tree.place (temporaryPath p))
        w'.tree := by
  obtain ⟨loc, name, htemp⟩ := h.temporary
  obtain ⟨loc', name', htarget⟩ := h.ended
  obtain ⟨old, hold⟩ := h.file
  obtain ⟨t₁, hwrite⟩ := htemp.writeFile hfree content
  obtain ⟨-, -, hsource, hagrees⟩ := writeFile_eq_ok hwrite
  have hext := (changesOnly_writeFile hwrite).toExtends
  have hstays : t₁.isDirectoryAt (t₁.place p) = false := by
    rw [← Bool.not_eq_true, isDirectoryAt_iff_seen?, hext.place,
      hagrees.seen _ (place_temporaryPath_ne w.tree p).symm]
    exact fun hdir => nomatch (Node.seen?_eq_some_some.2 hold).symm.trans hdir
  rw [← hext.place] at hsource
  obtain ⟨t₂, hmove⟩ :=
    (htarget.later hext hg).moveFile (htemp.later hext hg) hsource hstays
  obtain ⟨-, -, -, hagrees'⟩ := moveFile_eq_ok hmove hsource
  rw [hext.place, hext.place] at hagrees'
  exact ⟨{ w with tree := t₂ }, perform_write_atomic hwrite hmove,
    (hagrees.mono fun _ => .inr).trans (hagrees'.mono fun _ => Or.symm)⟩

/-- A file cannot be written by way of a temporary file in whose place a directory is. -/
theorem free_of_write {content : String} (h : (write true p content).perform w = (.ok (), w')) :
    w.tree.isDirectoryAt (w.tree.place (temporaryPath p)) = false := by
  obtain ⟨t, hwrite, -⟩ := write_eq_ok h
  rw [← Bool.not_eq_true, isDirectoryAt_iff_seen?]
  exact (writeFile_eq_ok hwrite).2.1

/-- A settled file whose temporary file is free is exported again. -/
theorem exportFile_again (hatomic : o.atomic = true) (hg : w.tree.Grounded)
    (h : f.Settled base w.tree) (hfree : f.Free base w.tree) :
    ∃ w', (exportFile o base f).perform w = (.ok (f.policy == .overwrite), w') ∧
      w.tree.AgreesOff (f.Touches base w.tree) w'.tree := by
  rcases hperform : (exportFile o base f).perform w with ⟨r, w'⟩
  cases h with
  | found p hp hpolicy hthere =>
    rw [perform_exportFile_of_located hp, if_pos ⟨hpolicy, hthere⟩] at hperform
    obtain ⟨rfl, rfl⟩ := Prod.mk.inj hperform
    rw [hpolicy]
    exact ⟨_, rfl, .refl _ w.tree⟩
  | prepared p hp hpolicy hprepared =>
    obtain ⟨w₁, hwrite, hagrees⟩ :=
      perform_write_of_prepared hg hprepared (hfree hpolicy p hp) f.content
    have hnot : ¬(f.policy = .createOnce ∧ w.tree.contains p = true) :=
      fun honce => nomatch honce.1.symm.trans hpolicy
    rw [perform_exportFile_of_located hp, if_neg hnot, perform_bind,
      perform_makeRoom_of_roomy hg hprepared.toRoomy, hatomic] at hperform
    dsimp only at hperform
    rw [perform_bind, hwrite] at hperform
    obtain ⟨rfl, rfl⟩ := Prod.mk.inj hperform
    rw [hpolicy]
    exact ⟨_, rfl, hagrees.mono fun loc hloc => ⟨hpolicy, p, hp, hloc⟩⟩

/-- The export of a settled file fails if its temporary file is not free. -/
theorem free_of_exportFile {written : Bool} (hatomic : o.atomic = true) (hg : w.tree.Grounded)
    (hsettled : f.Settled base w.tree)
    (h : (exportFile o base f).perform w = (.ok written, w')) : f.Free base w.tree := by
  intro hpolicy p hp
  have hnot : ¬(f.policy = .createOnce ∧ w.tree.contains p = true) :=
    fun honce => nomatch honce.1.symm.trans hpolicy
  cases hsettled with
  | found _ _ honce _ => exact nomatch honce.symm.trans hpolicy
  | prepared q hq _ hprepared =>
    obtain rfl := Except.ok.inj (hp.symm.trans hq)
    rw [perform_exportFile_of_located hp, if_neg hnot, perform_bind,
      perform_makeRoom_of_roomy hg hprepared.toRoomy, hatomic] at h
    obtain ⟨⟨⟩, w₁, hwrite, -⟩ := perform_bind_eq_ok.1 h
    exact free_of_write hwrite

/-- The export of a settled file makes no directory. -/
theorem isDirectoryAt_of_exportFile {written : Bool} {loc : Location} (hatomic : o.atomic = true)
    (hg : w.tree.Grounded) (hagrees : w.tree.AgreesOff (f.Touches base w.tree) w'.tree)
    (h : (exportFile o base f).perform w = (.ok written, w'))
    (hdir : w'.tree.isDirectoryAt loc = true) : w.tree.isDirectoryAt loc = true := by
  obtain ⟨-, p, hp, ⟨-, -, -, htree⟩ | ⟨-, hplaced⟩⟩ := exportFile_eq_ok hatomic hg h
  · rwa [htree] at hdir
  rw [isDirectoryAt_iff_seen?] at hdir ⊢
  rw [← hagrees.seen loc, hdir]
  rintro ⟨-, q, hq, hloc⟩
  obtain rfl := Except.ok.inj (hp.symm.trans hq)
  rcases hloc with rfl | rfl
  · exact nomatch (Node.seen?_eq_some_some.2 hplaced.file).symm.trans hdir
  · exact nomatch hplaced.vacant.symm.trans hdir

/-! ### Several files -/

/-- Settled files whose temporary files are free are exported again: those that are written once are
kept, the others are written, and nothing but these and their temporary files is touched. -/
theorem exportFiles_again (hatomic : o.atomic = true) (hg : w.tree.Grounded)
    (hfs : ∀ f ∈ fs, f.IsUsual) (hsettled : ∀ f ∈ fs, f.Settled base w.tree)
    (hfree : ∀ f ∈ fs, f.Free base w.tree) :
    ∃ w', (exportFiles o base fs).perform w = (.ok (.ofFiles fs), w') ∧
      w.tree.AgreesOff (fun loc => ∃ f ∈ fs, f.Touches base w.tree loc) w'.tree ∧
      ∀ f ∈ fs, f.policy = .overwrite → f.Vacant base w'.tree := by
  induction fs generalizing w with
  | nil => exact ⟨w, rfl, .refl _ w.tree, fun f hf => absurd hf List.not_mem_nil⟩
  | cons f fs ih =>
    obtain ⟨-, hfs⟩ := List.forall_mem_cons.1 hfs
    obtain ⟨hsettled₁, hsettled⟩ := List.forall_mem_cons.1 hsettled
    obtain ⟨hfree₁, hfree⟩ := List.forall_mem_cons.1 hfree
    obtain ⟨w₁, hfirst, hagrees⟩ := exportFile_again (o := o) hatomic hg hsettled₁ hfree₁
    obtain ⟨hret, p, hp, hdone⟩ := exportFile_eq_ok hatomic hg hfirst
    have hfree' (g : SourceFile) (hmem : g ∈ fs) : g.Free base w₁.tree := by
      intro hpolicy q hq
      rw [hret.place, ← Bool.not_eq_true]
      intro hdir
      have hdir' := isDirectoryAt_of_exportFile hatomic hg hagrees hfirst hdir
      rw [hfree g hmem hpolicy q hq] at hdir'
      cases hdir'
    obtain ⟨w', hrest, hagrees', hvacant⟩ := ih (hret.grounded hg) hfs
      (fun g hmem => (hsettled g hmem).later (hfs g hmem) hg hret) hfree'
    have hplace (q : Path) : w'.tree.place q = w₁.tree.place q := hagrees'.place q
    refine ⟨w', ?_, (hagrees.mono fun loc hloc => ⟨f, List.mem_cons_self, hloc⟩).trans
      (hagrees'.mono fun loc hloc => hloc.imp fun g hg => ⟨List.mem_cons_of_mem f hg.1,
        (SourceFile.Touches.congr hret.current).1 hg.2⟩),
      List.forall_mem_cons.2 ⟨fun hpolicy q hq => ?_, hvacant⟩⟩
    · rw [exportFiles, perform_bind, hfirst]
      dsimp only
      rw [perform_bind, hrest, ExportReport.ofFiles_cons]
      rfl
    · -- what comes later leaves no temporary file there either
      obtain rfl := Except.ok.inj (hp.symm.trans hq)
      rcases hdone with ⟨-, honce, -⟩ | ⟨-, hplaced⟩
      · cases honce.symm.trans hpolicy
      by_cases htouched : ∃ g ∈ fs, g.Touches base w₁.tree (w₁.tree.place (temporaryPath p))
      · obtain ⟨g, hmem, hpolicy', q', hq', hloc | hloc⟩ := htouched
        · exact absurd (hloc ▸ ends_temporaryPath w₁.tree p) ((hfs g hmem).not_ends hq')
        · rw [hplace, hloc, ← hplace]
          exact hvacant g hmem hpolicy' q' hq'
      · rw [hplace, hagrees'.seen _ htouched, hret.place]
        exact hplaced.vacant

/-- An export of settled files that comes to its end has found their temporary files free. -/
theorem free_of_exportFiles {report : ExportReport} (hatomic : o.atomic = true)
    (hg : w.tree.Grounded) (hfs : ∀ f ∈ fs, f.IsUsual) (hsettled : ∀ f ∈ fs, f.Settled base w.tree)
    (h : (exportFiles o base fs).perform w = (.ok report, w')) :
    ∀ f ∈ fs, f.Free base w.tree := by
  induction fs generalizing w report with
  | nil => exact fun f hf => absurd hf List.not_mem_nil
  | cons f fs ih =>
    obtain ⟨-, hfs⟩ := List.forall_mem_cons.1 hfs
    obtain ⟨hsettled₁, hsettled⟩ := List.forall_mem_cons.1 hsettled
    obtain ⟨written, w₁, report', hfirst, hrest, -⟩ := exportFiles_cons_eq_ok h
    have hret := (exportFile_eq_ok hatomic hg hfirst).1
    have hfree := ih (hret.grounded hg) hfs
      (fun g hmem => (hsettled g hmem).later (hfs g hmem) hg hret) hrest
    refine List.forall_mem_cons.2 ⟨free_of_exportFile hatomic hg hsettled₁ hfirst,
      fun g hmem hpolicy q hq => ?_⟩
    have hnot := hfree g hmem hpolicy q hq
    rw [hret.place, ← Bool.not_eq_true] at hnot
    exact (Bool.not_eq_true _).mp fun hdir => hnot (hret.directory _ hdir)

/-- Another export of settled files comes to its end exactly if their temporary files are free. -/
theorem isOk_exportFiles_again_iff (hatomic : o.atomic = true) (hg : w.tree.Grounded)
    (hfs : ∀ f ∈ fs, f.IsUsual) (hsettled : ∀ f ∈ fs, f.Settled base w.tree) :
    ((exportFiles o base fs).perform w).1.isOk = true ↔ ∀ f ∈ fs, f.Free base w.tree := by
  constructor
  · intro hok
    rcases hperform : (exportFiles o base fs).perform w with ⟨e | report, w'⟩
    · rw [hperform] at hok
      cases hok
    · exact free_of_exportFiles hatomic hg hfs hsettled hperform
  · intro hfree
    obtain ⟨w', hperform, -⟩ := exportFiles_again (o := o) hatomic hg hfs hsettled hfree
    rw [hperform]
    rfl

end Job

end ApiProxy
