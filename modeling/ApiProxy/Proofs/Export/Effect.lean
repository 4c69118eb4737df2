import ApiProxy.Proofs.Export.Settled

/-!
# What an export does, whatever comes of it

Nothing is changed but the places of generated files, the places of their temporary files in an
atomic export, and missing directories on the way to them. This holds for all files that a base may
be given, for paths that differ only in how they are written, and for exports that stop. If the base
goes back nowhere, a file that is written once is found whenever it is there and could be written,
so it keeps its content; and if the export comes to its end, the last file that is always written
stands at its place.

The temporary file of one file could be the file of another. This is excluded.

## Main definitions

* `SourceFile.TemporaryAt`, `SourceFile.GoesThrough`: what else than its place an export of a file
  may touch.
* `SourceFile.Avoids`: the temporary file of a file is not put where another file is.
* `ExportReport.Sorts`: a report names given files in their order.

## Main results

* `Job.spares_exportFile`: what the export of one file may change.
* `Job.exportFiles_effect`: what an export of several files does.
-/

namespace ApiProxy

open FileTree

/-! ### What a file may touch -/

namespace SourceFile

/-- The temporary file of a generated file is put at a location. -/
def TemporaryAt (f : SourceFile) (base : Path) (t : FileTree) (loc : Location) : Prop :=
  ∃ p, locate base f.path = .ok p ∧ t.place (temporaryPath p) = loc

/-- The path of a generated file goes through a location. -/
def GoesThrough (f : SourceFile) (base : Path) (t : FileTree) (loc : Location) : Prop :=
  ∃ p, locate base f.path = .ok p ∧ t.PassesThrough p loc

/-- The temporary file of a file is not put where another file is. -/
def Avoids (base : Path) (t : FileTree) (f g : SourceFile) : Prop :=
  ∀ p q, locate base f.path = .ok p → locate base g.path = .ok q →
    t.place (temporaryPath p) ≠ t.place q

variable {f g : SourceFile} {base : Path} {t t' : FileTree} {loc : Location}

instance : Decidable (f.Avoids base t g) :=
  decidable_of_iff (∀ p ∈ (locate base f.path).toOption, ∀ q ∈ (locate base g.path).toOption,
      t.place (temporaryPath p) ≠ t.place q) (by
    rw [Avoids]
    cases locate base f.path <;> cases locate base g.path <;> simp [Except.toOption])

theorem TemporaryAt.congr (h : t'.current = t.current) :
    f.TemporaryAt base t' loc ↔ f.TemporaryAt base t loc := by
  simp only [TemporaryAt, place_congr h]

theorem GoesThrough.congr (h : t'.current = t.current) :
    f.GoesThrough base t' loc ↔ f.GoesThrough base t loc := by
  simp only [GoesThrough, PassesThrough, start, h]

theorem PutAt.goesThrough (h : f.PutAt base t loc) : f.GoesThrough base t loc := by
  obtain ⟨p, hp, rfl⟩ := h
  exact ⟨p, hp, steps p, List.prefix_rfl, rfl⟩

theorem Avoids.not_putAt (h : f.Avoids base t g) (htemp : f.TemporaryAt base t loc) :
    ¬g.PutAt base t loc := by
  obtain ⟨p, hp, rfl⟩ := htemp
  rintro ⟨q, hq, hplace⟩
  exact h p q hp hq hplace.symm

/-- A generated file has been written at a location, or as much of it as the disk took. -/
def WrittenAt (f : SourceFile) (base : Path) (t t' : FileTree) (loc : Location) : Prop :=
  ∃ p content, locate base f.path = .ok p ∧ t.place p = loc ∧
    ¬(f.policy = .createOnce ∧ t.contains p = true) ∧ t.Written p content t'

theorem WrittenAt.putAt (h : f.WrittenAt base t t' loc) : f.PutAt base t loc := by
  obtain ⟨p, -, hp, hplace, -⟩ := h
  exact ⟨p, hp, hplace⟩

end SourceFile

namespace Job

variable {o : ExportOptions} {base p : Path} {f : SourceFile} {fs : List SourceFile} {w w' : World}
  {loc : Location}

/-- Writing a file changes nothing but its place, and only if something is written there; a
temporary file is only used in an atomic export. -/
theorem agreesOff_write (atomic : Bool) (p : Path) (content : String) (w : World) (disk : Disk) :
    w.tree.AgreesOff (fun loc => atomic = true ∧ loc = w.tree.place (temporaryPath p) ∨
        loc = w.tree.place p ∧
          ∃ other, w.tree.Written p other ((write atomic p content).perform w disk).2.tree)
      ((write atomic p content).perform w disk).2.tree := by
  cases atomic with
  | false =>
    rw [write, if_neg Bool.false_ne_true, perform_changePartly]
    dsimp only
    rcases disk.writeFile_fst w.tree p content with hsame | ⟨other, hwrite⟩
    · rw [hsame]
      exact .refl _ w.tree
    · exact (writeFile_eq_ok hwrite).2.2.2.mono fun _ hloc =>
        .inr ⟨hloc, other, written_of_writeFile hwrite⟩
  | true =>
    have hends := atomicEnds p content w disk
    have hwritten := perform_write true p content w disk
    generalize (write true p content).perform w disk = x at hends hwritten ⊢
    cases hends with
    | failed f => exact .refl _ w.tree
    | brokenOff _ _ _ _ hwrite | unsynced _ _ hwrite _ | unmoved _ _ hwrite _ =>
      exact (writeFile_eq_ok hwrite).2.2.2.mono fun _ hloc => .inl ⟨rfl, hloc⟩
    | moved t t' hwrite hmove =>
      obtain ⟨-, -, hsource, hagrees⟩ := writeFile_eq_ok hwrite
      rw [← hagrees.place] at hsource
      have hagrees' := (moveFile_eq_ok hmove hsource).2.2.2
      rw [hagrees.place, hagrees.place] at hagrees'
      refine (hagrees.mono fun _ hloc => .inl ⟨rfl, hloc⟩).trans (hagrees'.mono ?_)
      rintro loc (hloc | hloc)
      · exact .inl ⟨rfl, hloc⟩
      · obtain ⟨_, _, hstop, -⟩ | ⟨t₂, hdone, hwritten⟩ := hwritten
        · cases (Prod.mk.inj hstop).1
        · obtain rfl : t' = t₂ := congrArg World.tree (Prod.mk.inj hdone).2
          exact .inr ⟨hloc, content, hwritten⟩

/-- The export of a file changes nothing but the place of the file, if something was written there,
and that of its temporary file in an atomic export, and makes directories on the way of its path
only. -/
theorem spares_exportFile (o : ExportOptions) (base : Path) (f : SourceFile) (w : World)
    (disk : Disk) :
    w.tree.Spares (fun loc => o.atomic = true ∧ f.TemporaryAt base w.tree loc ∨
        f.WrittenAt base w.tree ((exportFile o base f).perform w disk).2.tree loc)
      (f.GoesThrough base w.tree) ((exportFile o base f).perform w disk).2.tree := by
  cases hp : locate base f.path with
  | error e =>
    rw [exportFile, perform_bind, perform_ofExcept, hp]
    exact .refl _ _ w.tree
  | ok p =>
    rw [perform_exportFile_of_located hp]
    split
    · exact .refl _ _ w.tree
    next hnot =>
    have hmade := perform_makeRoom p w disk
    have hroom (Q : Location → Prop) :
        w.tree.Spares Q (f.GoesThrough base w.tree) ((makeRoom p).perform w disk).2.tree :=
      (opensWay_makeRoom p w disk).spares.mono (fun _ h => False.elim h) fun _ _ h => ⟨p, hp, h⟩
    rw [perform_bind]
    generalize (makeRoom p).perform w disk = x at hmade hroom ⊢
    rcases x with ⟨e | ⟨⟩, w₁⟩
    · exact hroom _
    dsimp only at hmade hroom ⊢
    have hcurrent := (hroom fun _ => False).current
    have hwrite := agreesOff_write o.atomic p f.content w₁ disk
    rw [place_congr hcurrent, place_congr hcurrent] at hwrite
    have htree : ((write o.atomic p f.content >>= fun _ =>
        note [LogOrigin.files.info ("Create " ++ o.logPath p f.path)] >>= fun _ =>
          pure true).perform w₁ disk).2.tree =
        ((write o.atomic p f.content).perform w₁ disk).2.tree := by
      rw [perform_bind]
      rcases (write o.atomic p f.content).perform w₁ disk with ⟨e | ⟨⟩, w₂⟩ <;> rfl
    rw [htree]
    refine (hroom _).trans (hwrite.mono ?_).spares
    rintro loc (⟨hatomic, rfl⟩ | ⟨rfl, other, hwritten⟩)
    · exact .inl ⟨hatomic, p, hp, rfl⟩
    · exact .inr ⟨p, other, hp, rfl, hnot, hwritten.of_makeDirectories hmade⟩

end Job

/-! ### Files that are written once -/

namespace FileTree

variable {t t' : FileTree} {p : Path} {content : String}

/-- Who follows a path starts in a directory if there is one later, as long as no file was taken
away: only the current directory may be missing, and is a directory all the same. -/
theorem FilesStay.reachesDirectory_start (h : t.FilesStay t')
    (hdir : t'.reachesDirectory (t.start p) = true) : t.reachesDirectory (t.start p) = true := by
  cases hget : t.get? (t.start p) with
  | none =>
    have hcurrent : t.start p <+: t.current := by
      rw [FileTree.start]
      split
      · exact List.nil_prefix
      · exact List.prefix_rfl
    exact reachesDirectory_iff_seen?.2 (.inr ⟨Node.seen?_eq_none.2 hget, hcurrent⟩)
  | some n =>
    cases n with
    | directory entries => exact reachesDirectory_iff.2 ⟨entries, reached?_of_get? hget⟩
    | file content =>
      obtain ⟨content', hfile⟩ := h _ content hget
      obtain ⟨entries, hentries⟩ := reachesDirectory_iff.1 hdir
      cases (reached?_of_get? hfile).symm.trans hentries

/-- Whoever writes at the place of a path that goes back nowhere would have found what stands
there. -/
theorem Written.contains_of_straight (h : t.Written p content t') (hback : ".." ∉ p.parts)
    (hthere : (t.get? (t.place p)).isSome = true) : t.contains p = true := by
  obtain ⟨t₁, loc, name, hext, hstay, hend, -⟩ := h.ended
  obtain ⟨front, blanks, hsteps, -, hslash, hwalk⟩ := hend.steps
  obtain rfl := hslash rfl
  have hback' : ".." ∉ front ++ [name] := by
    rw [← hsteps, steps]
    split
    · exact fun hmem => (List.mem_cons.1 hmem).elim (fun heq => absurd heq (by decide)) hback
    · exact hback
  have hstart : t.reachesDirectory (t.start p) = true := by
    refine hstay.reachesDirectory_start (hext.start p ▸ ?_)
    exact reachesDirectory_of_walk hwalk (reachesDirectory_of_isDirectoryAt hend.isDirectoryAt)
  have hlead : t.LeadsIn (t.start p) [] := by
    obtain ⟨entries, hentries⟩ := reachesDirectory_iff.1 hstart
    exact ⟨_, by rw [walk, hentries]; rfl, hstart⟩
  exact contains_of_endsIn hsteps hback' hlead (.refl t) hext hstay hend hthere

end FileTree

/-- What is at a location stays, if only files that are written once are put there and no temporary
file is. -/
theorem Job.seen?_of_exportFile {o : ExportOptions} {base : Path} {f : SourceFile} {w : World}
    {disk : Disk} {loc : Location} (hback : ".." ∉ base.parts)
    (hthere : (w.tree.seen? loc).isSome = true) (htemp : ¬f.TemporaryAt base w.tree loc)
    (honce : f.PutAt base w.tree loc → f.policy = .createOnce) :
    ((exportFile o base f).perform w disk).2.tree.seen? loc = w.tree.seen? loc := by
  refine ((spares_exportFile o base f w disk).seen loc ?_).resolve_right fun hmade => ?_
  · rintro (⟨-, htemp'⟩ | hwrittenAt)
    · exact htemp htemp'
    · obtain ⟨p, content, hp, rfl, hnot, hwritten⟩ := hwrittenAt
      refine hnot ⟨honce ⟨p, hp, rfl⟩, hwritten.contains_of_straight ?_ ?_⟩
      · exact (place_locate w.tree hp).2.2 hback
      · rwa [isSome_seen?] at hthere
  · rw [hmade.2.1] at hthere
    cases hthere

/-! ### Several files -/

/-- A report names given files in their order, each as written or as skipped, and only files that
are written once as skipped. -/
inductive ExportReport.Sorts : ExportReport → List SourceFile → Prop
  | nil : Sorts .empty []
  | cons {r : ExportReport} {fs : List SourceFile} (f : SourceFile) (written : Bool)
      (hskipped : written = false → f.policy = .createOnce) (hr : Sorts r fs) :
      Sorts (r.cons written f.path) (f :: fs)

namespace ExportReport.Sorts

variable {r : ExportReport} {fs : List SourceFile}

theorem total_eq (h : r.Sorts fs) : r.total = fs.length := by
  induction h with
  | nil => rfl
  | cons f written hskipped hr ih => rw [total_cons, ih, List.length_cons]

theorem skipped_sublist (h : r.Sorts fs) :
    r.skipped.Sublist ((fs.filter (·.policy == .createOnce)).map (·.path)) := by
  induction h with
  | nil => exact .slnil
  | cons f written hskipped hr ih =>
    cases written with
    | true =>
      refine ih.trans (List.Sublist.map _ ?_)
      exact (List.sublist_cons_self f _).filter _
    | false =>
      rw [List.filter_cons_of_pos (by rw [hskipped rfl]; rfl)]
      exact ih.cons_cons f.path

end ExportReport.Sorts

namespace Job

variable {o : ExportOptions} {base : Path} {f : SourceFile} {fs : List SourceFile} {w w' : World}
  {disk : Disk} {loc : Location} {report : ExportReport}

/-- An export changes nothing but the places of its files, and those of their temporary files if it
is atomic, and makes directories on the way of their paths only. -/
theorem spares_exportFiles (o : ExportOptions) (base : Path) (fs : List SourceFile) (w : World)
    (disk : Disk) :
    w.tree.Spares (fun loc => ∃ f ∈ fs, o.atomic = true ∧ f.TemporaryAt base w.tree loc ∨
        f.PutAt base w.tree loc)
      (fun loc => ∃ f ∈ fs, f.GoesThrough base w.tree loc)
      ((exportFiles o base fs).perform w disk).2.tree := by
  let P (loc : Location) : Prop := ∃ f ∈ fs, o.atomic = true ∧ f.TemporaryAt base w.tree loc ∨
    f.PutAt base w.tree loc
  let W (loc : Location) : Prop := ∃ f ∈ fs, f.GoesThrough base w.tree loc
  let R (t t' : FileTree) : Prop := t.current = w.tree.current → t.Spares P W t'
  have hrun : Relates R (exportFiles o base fs) := by
    refine relates_exportFiles (fun t _ => .refl P W t)
      (fun t t' t'' h h' ht => (h ht).trans (h' ((h ht).current.trans ht)))
      fun f hf v disk hv => ?_
    refine (spares_exportFile o base f v disk).mono ?_ fun loc _ hway =>
      ⟨f, hf, (SourceFile.GoesThrough.congr hv).1 hway⟩
    rintro loc (⟨hatomic, htemp⟩ | hwritten)
    · exact ⟨f, hf, .inl ⟨hatomic, (SourceFile.TemporaryAt.congr hv).1 htemp⟩⟩
    · exact ⟨f, hf, .inr ((SourceFile.PutAt.congr hv).1 hwritten.putAt)⟩
  exact hrun w disk rfl

/-- What is at a location stays in an export that puts only files there that are written once, and
no temporary file. -/
theorem seen?_of_exportFiles (hback : ".." ∉ base.parts) (hthere : (w.tree.seen? loc).isSome = true)
    (htemp : ∀ f ∈ fs, ¬f.TemporaryAt base w.tree loc)
    (honce : ∀ f ∈ fs, f.PutAt base w.tree loc → f.policy = .createOnce) :
    ((exportFiles o base fs).perform w disk).2.tree.seen? loc = w.tree.seen? loc := by
  let R (t t' : FileTree) : Prop := t.current = w.tree.current →
    (t.seen? loc).isSome = true → t'.current = t.current ∧ t'.seen? loc = t.seen? loc
  have hrun : Relates R (exportFiles o base fs) := by
    refine relates_exportFiles (fun t _ _ => ⟨rfl, rfl⟩) (fun t t' t'' h h' ht hsome => ?_)
      fun f hf v disk hv hsome => ⟨(spares_exportFile o base f v disk).current, ?_⟩
    · obtain ⟨hcurrent, hseen⟩ := h ht hsome
      obtain ⟨hcurrent', hseen'⟩ := h' (hcurrent.trans ht) (hseen ▸ hsome)
      exact ⟨hcurrent'.trans hcurrent, hseen'.trans hseen⟩
    · refine seen?_of_exportFile hback hsome ?_ ?_
      · exact fun h => htemp f hf ((SourceFile.TemporaryAt.congr hv).1 h)
      · exact fun h => honce f hf ((SourceFile.PutAt.congr hv).1 h)
  exact (hrun w disk rfl hthere).2

theorem sorts_of_exportFiles (h : (exportFiles o base fs).perform w disk = (.ok report, w')) :
    report.Sorts fs := by
  induction fs generalizing w report with
  | nil =>
    obtain ⟨hreport, -⟩ := Prod.mk.inj h
    exact Except.ok.inj hreport ▸ .nil
  | cons f fs ih =>
    obtain ⟨written, w₁, report', hfirst, hrest, rfl⟩ := exportFiles_cons_eq_ok h
    refine .cons f written (fun hwritten => ?_) (ih hrest)
    obtain ⟨p, -, ⟨-, hpolicy, -⟩ | ⟨htrue, -⟩⟩ := exportFile_steps hfirst
    · exact hpolicy
    · cases hwritten.symm.trans htrue

/-- At the location of a file that is always written stands its content, unless another such file or
a temporary file is put there later. -/
theorem get?_last_of_exportFiles {front back : List SourceFile} (hback : ".." ∉ base.parts)
    (hpolicy : f.policy = .overwrite) (hput : f.PutAt base w.tree loc)
    (htemp : ∀ g ∈ back, ¬g.TemporaryAt base w.tree loc)
    (hlast : ∀ g ∈ back, g.PutAt base w.tree loc → g.policy = .createOnce)
    (h : (exportFiles o base (front ++ f :: back)).perform w disk = (.ok report, w')) :
    w'.tree.get? loc = some (.file f.content) := by
  induction front generalizing w report with
  | nil =>
    obtain ⟨written, w₁, report', hfirst, hrest, -⟩ := exportFiles_cons_eq_ok h
    have hexported := perform_exportFile o base f w disk
    rw [hfirst] at hexported
    have hcurrent := hexported.extends.current
    have hne : f.policy ≠ .createOnce := fun honce => nomatch honce.symm.trans hpolicy
    have hfile : w₁.tree.seen? loc = some (some f.content) :=
      Node.seen?_eq_some_some.2 (hexported.replaces hput (.inl hne))
    have hstays :
        ((exportFiles o base back).perform w₁ disk).2.tree.seen? loc = w₁.tree.seen? loc :=
      seen?_of_exportFiles hback (Option.isSome_of_eq_some hfile)
        (fun g hg h => htemp g hg ((SourceFile.TemporaryAt.congr hcurrent).1 h))
        fun g hg h => hlast g hg ((SourceFile.PutAt.congr hcurrent).1 h)
    rw [hrest] at hstays
    exact Node.seen?_eq_some_some.1 (hstays.trans hfile)
  | cons g front ih =>
    obtain ⟨written, w₁, report', hfirst, hrest, -⟩ := exportFiles_cons_eq_ok h
    have hcurrent := (spares_exportFile o base g w disk).current
    rw [hfirst] at hcurrent
    refine ih ((SourceFile.PutAt.congr hcurrent).2 hput) ?_ ?_ hrest
    · exact fun g hg h => htemp g hg ((SourceFile.TemporaryAt.congr hcurrent).1 h)
    · exact fun g hg h => hlast g hg ((SourceFile.PutAt.congr hcurrent).1 h)

end Job

/-- What an export does: it changes only what it may, keeps what is at a location where only files
that are written once are put, and if it comes to its end, it reports on every file and leaves the
last file that is always written at its location. -/
structure ExportEffect (o : ExportOptions) (base : Path) (fs : List SourceFile) (t : FileTree)
    (r : Except Failure ExportReport) (t' : FileTree) : Prop where
  spares : t.Spares (fun loc => ∃ f ∈ fs, o.atomic = true ∧ f.TemporaryAt base t loc ∨
    f.PutAt base t loc) (fun loc => ∃ f ∈ fs, f.GoesThrough base t loc) t'
  keeps (f : SourceFile) (hf : f ∈ fs) (loc : Location) (hput : f.PutAt base t loc)
    (hthere : (t.seen? loc).isSome = true)
    (honce : ∀ g ∈ fs, g.PutAt base t loc → g.policy = .createOnce) :
    t'.seen? loc = t.seen? loc
  sorts (report : ExportReport) (h : r = .ok report) : report.Sorts fs ∧
    report.total = fs.length ∧
    report.skipped.Sublist ((fs.filter (·.policy == .createOnce)).map (·.path))
  last (report : ExportReport) (h : r = .ok report) (front back : List SourceFile) (f : SourceFile)
    (hfs : fs = front ++ f :: back) (hpolicy : f.policy = .overwrite) (loc : Location)
    (hput : f.PutAt base t loc)
    (hlast : ∀ g ∈ back, g.PutAt base t loc → g.policy = .createOnce) :
    t'.get? loc = some (.file f.content)

/-- What an export does on any disk if no temporary file is put where a file is, whether it comes
to its end or stops. -/
theorem Job.exportFiles_effect (o : ExportOptions) (base : Path) (fs : List SourceFile) (w : World)
    (disk : Disk) (hback : ".." ∉ base.parts)
    (hapart : ∀ f ∈ fs, ∀ g ∈ fs, f.Avoids base w.tree g) :
    ExportEffect o base fs w.tree ((exportFiles o base fs).perform w disk).1
      ((exportFiles o base fs).perform w disk).2.tree where
  spares := spares_exportFiles o base fs w disk
  keeps f hf loc hput hthere honce := by
    refine seen?_of_exportFiles hback hthere (fun g hg htemp => ?_) honce
    exact (hapart g hg f hf).not_putAt htemp hput
  sorts report h := by
    have hsorts : report.Sorts fs := sorts_of_exportFiles (Prod.ext h rfl)
    exact ⟨hsorts, hsorts.total_eq, hsorts.skipped_sublist⟩
  last report h front back f hfs hpolicy loc hput hlast := by
    subst hfs
    refine get?_last_of_exportFiles hback hpolicy hput (fun g hg htemp => ?_) hlast (Prod.ext h rfl)
    refine (hapart g ?_ f ?_).not_putAt htemp hput
    · exact List.mem_append_right _ (List.mem_cons_of_mem f hg)
    · exact List.mem_append_right _ List.mem_cons_self

/-- A world with a stub that a user has changed. -/
def editedWorld : World where
  tree := ⟨.directory [("out", .directory [("a", .directory [("Book.cs", .file "mine")]),
    ("Note.txt", .file "note")])], []⟩
  network := .silent

/-- Two stubs and a class, some of them twice and written in another way. -/
def repeatedFiles : List SourceFile :=
  [.ofKind "a/Book.cs" "stub" .classStub, .ofKind "Proxy.cs" "old" .proxyClass,
    .ofKind "b/Shelf.cs" "shelf" .classStub, .ofKind "./Proxy.cs" "new" .proxyClass,
    .ofKind "b//Shelf.cs" "again" .classStub]

/-- The export of these files. -/
def repeatedExport : Except Failure ExportReport × World :=
  (Job.exportFiles {} (.ofText "out") repeatedFiles).perform editedWorld

/-- The stub of the user is kept, and of the files that are named twice the second class and the
first stub are left. -/
theorem Job.exportFiles_effect_repeated :
    ".." ∉ (Path.ofText "out").parts ∧
      (∀ f ∈ repeatedFiles, ∀ g ∈ repeatedFiles, f.Avoids (.ofText "out") editedWorld.tree g) ∧
      ExportEffect {} (.ofText "out") repeatedFiles editedWorld.tree repeatedExport.1
        repeatedExport.2.tree ∧
      repeatedExport.1.toOption =
        some ⟨["Proxy.cs", "b/Shelf.cs", "./Proxy.cs"], ["a/Book.cs", "b//Shelf.cs"]⟩ ∧
      repeatedExport.2.tree.seen? ["out", "a", "Book.cs"] = some (some "mine") ∧
      repeatedExport.2.tree.seen? ["out", "Proxy.cs"] = some (some "new") ∧
      repeatedExport.2.tree.seen? ["out", "b", "Shelf.cs"] = some (some "shelf") := by
  have hback : ".." ∉ (Path.ofText "out").parts := by decide +kernel
  have hapart : ∀ f ∈ repeatedFiles, ∀ g ∈ repeatedFiles,
      f.Avoids (.ofText "out") editedWorld.tree g := by decide +kernel
  refine ⟨hback, hapart, ?_, by decide +kernel⟩
  rw [repeatedExport]
  exact exportFiles_effect {} _ repeatedFiles editedWorld .sound hback hapart

end ApiProxy
