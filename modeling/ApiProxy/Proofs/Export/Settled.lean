import ApiProxy.Proofs.Export.Surroundings
import ApiProxy.Proofs.Generation.Folders

/-!
# What an export leaves that came to its end

An atomic export that came to its end leaves every file of its list settled: a file that is always
written stands at its place, in a directory that can be found, and its temporary file is gone; a
file that is written once can be found. This stays so whatever is exported later.

The only directories that are made once the base was entered are folders of generated paths. If
their names have no dots, nothing ever comes to stand at the place of a temporary file that is gone.

## Main definitions

* `FileTree.Roomy`, `FileTree.Prepared`: a file can be written, also by way of its temporary file.
* `FileTree.Placed`: a file has been put at its place.
* `FileTree.Retains`: directories stay, and files that are not temporary stay files.
* `SourceFile.Settled`: a generated file needs nothing more to be exported again.

## Main results

* `Job.exportFile_eq_ok`: what the export of a file has done.
* `Job.settled_of_exportFiles`: the files of an export are settled.
* `Job.get?_of_exportFiles`: the last of the files that are put at a place stands there.
* `Job.vacant_of_exportFiles`: no temporary file is left, and no directory is in its place.
-/

namespace ApiProxy

open FileTree

/-! ### Room for a file -/

namespace FileTree

variable {t t' t'' : FileTree} {p : Path} {loc : Location} {content : String}

/-- The directory above a path is there, and the path ends in it. -/
structure Roomy (t : FileTree) (p : Path) : Prop where
  parent (q : Path) (hq : p.parent? = some q) : q = Path.empty ∨ t.isDirectory q = true
  ended : ∃ loc name, t.EndsIn p loc name false

theorem Roomy.later (h : t.Roomy p) (hext : t.Extends t') (hg : t.Grounded) : t'.Roomy p := by
  refine ⟨fun q hq => (h.parent q hq).imp_right (isDirectory_later hext hg), ?_⟩
  obtain ⟨loc, name, hend⟩ := h.ended
  exact ⟨loc, name, hend.later hext hg⟩

/-- A later tree in which all directories are there, and in which all files that are not temporary
are still files. -/
structure Retains (t t' : FileTree) : Prop extends Extends t t' where
  file (loc : Location) (hloc : ¬Ends loc temporaryEnding)
    (h : ∃ content, t.get? loc = some (.file content)) :
    ∃ content, t'.get? loc = some (.file content)

theorem Retains.refl (t : FileTree) : t.Retains t := ⟨.refl t, fun _ _ h => h⟩

theorem Retains.trans (h : t.Retains t') (h' : t'.Retains t'') : t.Retains t'' :=
  ⟨h.toExtends.trans h'.toExtends, fun loc hloc hfile => h'.file loc hloc (h.file loc hloc hfile)⟩

theorem ChangesOnly.retains_of_file {P : Location → Prop} (h : t.ChangesOnly P t')
    (hfile : ∀ loc, P loc → ¬Ends loc temporaryEnding →
      ∃ content, t'.get? loc = some (.file content)) : t.Retains t' := by
  refine ⟨h.toExtends, fun loc hloc ⟨content, hcontent⟩ => ?_⟩
  by_cases hP : P loc
  · exact hfile loc hP hloc
  · exact ⟨content, h.file loc content hP hcontent⟩

theorem isSome_of_contains (hg : t.Grounded) (h : t.contains p = true) :
    (t.get? (t.place p)).isSome = true := by
  rw [← hg.reached?_eq]
  rw [FileTree.contains, find?] at h
  split at h
  · next loc hresolve =>
    obtain ⟨⟨⟩, -, hwalk⟩ := bind_eq_ok.1 hresolve
    obtain rfl : loc = t.place p := walk_eq_ok hwalk
    exact h
  · cases h

/-- What a path leads to, and is not temporary, can still be found. -/
theorem Retains.contains (h : t.Retains t') (hg : t.Grounded)
    (hplace : ¬Ends (t.place p) temporaryEnding) (hp : t.contains p = true) :
    t'.contains p = true := by
  refine h.contains_of_isSome hg hp ?_
  obtain ⟨n, hn⟩ := Option.isSome_iff_exists.1 (isSome_of_contains hg hp)
  cases n with
  | file content =>
    obtain ⟨content', hfile⟩ := h.file _ hplace ⟨content, hn⟩
    exact Option.isSome_of_eq_some hfile
  | directory entries =>
    exact isSome_of_isDirectoryAt (h.directory _ (isDirectoryAt_iff.2 ⟨entries, hn⟩))

/-- A file stands at the place of a path and can be written again by way of its temporary file,
unless a directory is in the place of that one. -/
structure Prepared (t : FileTree) (p : Path) : Prop extends Roomy t p where
  temporary : ∃ loc name, t.EndsIn (temporaryPath p) loc name false
  file : ∃ content, t.get? (t.place p) = some (.file content)

theorem Prepared.later (h : t.Prepared p) (hret : t.Retains t') (hg : t.Grounded)
    (hplace : ¬Ends (t.place p) temporaryEnding) : t'.Prepared p := by
  refine ⟨h.toRoomy.later hret.toExtends hg, ?_, ?_⟩
  · obtain ⟨loc, name, hend⟩ := h.temporary
    exact ⟨loc, name, hend.later hret.toExtends hg⟩
  · rw [hret.place]
    exact hret.file _ hplace h.file

theorem Prepared.contains (h : t.Prepared p) : t.contains p = true := by
  obtain ⟨content, hfile⟩ := h.file
  obtain ⟨loc, name, hend⟩ := h.ended
  exact hend.contains (Option.isSome_of_eq_some hfile)

/-- A content has been put at the place of a path by way of a temporary file, which is gone, and
nothing else has been done but to make directories on the way. -/
structure Placed (t : FileTree) (p : Path) (content : String) (t' : FileTree) : Prop where
  retains : t.Retains t'
  prepared : t'.Prepared p
  file : t'.get? (t.place p) = some (.file content)
  vacant : t'.seen? (t.place (temporaryPath p)) = none
  seen (loc : Location) (hplace : loc ≠ t.place p) (htemp : loc ≠ t.place (temporaryPath p)) :
    t'.seen? loc = t.seen? loc ∨ MadeOnWay p t t' loc

/-! ### Directories behind a base -/

theorem LeadsIn.isDirectoryAt (hg : t.Grounded) {parts : List String} (h : t.LeadsIn loc parts) :
    t.isDirectoryAt (follow loc parts) = true := by
  obtain ⟨loc', hwalk, hdir⟩ := h
  obtain rfl := walk_eq_ok hwalk
  exact hg.reachesDirectory_iff.1 hdir

/-- Once the first parts of a way lead into a directory, a directory that is made on the way has the
name of one of the other parts, the last one apart. -/
theorem MadeOnWay.exists_mem {lead rest : List String} {last : String} (h : MadeOnWay p t t' loc)
    (hg : t.Grounded) (hlead : t.LeadsIn (t.start p) lead)
    (hsteps : steps p = lead ++ (rest ++ [last])) (hback : ".." ∉ rest)
    (hne : loc ≠ t.place p) : ∃ front, ∃ name ∈ rest, loc = front ++ [name] := by
  have hnot (parts : List String) (hparts : t.LeadsIn (t.start p) parts)
      (hloc : loc = follow (t.start p) parts) : False := by
    have hdir := isDirectoryAt_iff_seen?.1 (hparts.isDirectoryAt hg)
    rw [← hloc, h.before] at hdir
    cases hdir
  obtain ⟨parts, hstart, hloc⟩ := h.passes
  rw [hsteps, ← List.append_assoc, List.prefix_concat_iff] at hstart
  rcases hstart with rfl | hstart
  · rw [place, hsteps, ← List.append_assoc] at hne
    exact absurd hloc hne
  rcases List.prefix_or_prefix_of_prefix hstart (List.prefix_append lead rest) with hlead' | hlead'
  · obtain ⟨more, rfl⟩ := hlead'
    exact (hnot parts hlead.of_append hloc).elim
  obtain ⟨inner, rfl⟩ := hlead'
  rw [List.prefix_append_right_inj] at hstart
  have hinner : ".." ∉ inner := fun hmem => hback (hstart.subset hmem)
  rw [follow_append, follow_eq_append hinner] at hloc
  rcases List.eq_nil_or_concat' (inner.filter fun part => !Path.isIdle part) with
    hnil | ⟨front, name, hnames⟩
  · rw [hnil, List.append_nil] at hloc
    exact (hnot lead hlead hloc).elim
  · have hname : name ∈ inner.filter fun part => !Path.isIdle part := hnames ▸ List.mem_concat_self
    rw [hnames, ← List.append_assoc] at hloc
    exact ⟨_, name, hstart.subset (List.mem_filter.1 hname).1, hloc⟩

theorem not_ends_temporary {front : Location} {name : String} (h : '.' ∉ name.toList) :
    ¬Ends (front ++ [name]) temporaryEnding := by
  rintro ⟨front', name', heq, hsuffix⟩
  obtain ⟨-, heq⟩ := List.append_inj' heq rfl
  obtain rfl := List.head_eq_of_cons_eq heq
  exact h (hsuffix.subset (by decide))

end FileTree

/-! ### One file -/

theorem Exported.retains {base : Path} {f : SourceFile} {t t' : FileTree} {r : Except Failure Bool}
    (h : Exported base f t r t') : t.Retains t' := by
  cases h with
  | kept => exact .refl t
  | stopped e _ h => exact h.retains_of_file fun loc htemp hloc => absurd htemp hloc
  | written p _ _ _ hwritten | brokenOff p _ _ _ _ _ hwritten =>
    refine hwritten.changes.retains_of_file ?_
    rintro loc (htemp | rfl) hloc
    · exact absurd htemp hloc
    · exact ⟨_, hwritten.file⟩

theorem ExportedAll.retains {base : Path} {fs : List SourceFile} {t t' : FileTree} {finished : Bool}
    (h : ExportedAll base fs t finished t') : t.Retains t' := by
  induction h with
  | done t => exact .refl t
  | next f fs t t₁ t' written finished h hrest ih => exact h.retains.trans ih
  | stopped f fs t t' e h => exact h.retains

namespace Job

variable {o : ExportOptions} {base p : Path} {f : SourceFile} {w w' : World}

/-- The directory above a path is there when room has been made for it. -/
theorem isDirectory_of_makeRoom (hg : w.tree.Grounded)
    (h : (makeRoom p).perform w = (.ok (), w')) (q : Path) (hq : p.parent? = some q) :
    q = Path.empty ∨ w'.tree.isDirectory q = true := by
  refine or_iff_not_imp_left.2 fun hne => ?_
  rw [makeRoom, hq] at h
  obtain ⟨t, hmake, rfl⟩ := changePartly_eq_ok.1 h
  exact isDirectory_of_makeDirectories Disk.sound.makes_makeDirectory hg hne hmake

/-- Writing by way of a temporary file, in a directory for which room has been made. -/
theorem placed_of_write {content : String} {w₁ : World} (hg : w.tree.Grounded)
    (hroom : (makeRoom p).perform w = (.ok (), w₁))
    (h : (write true p content).perform w₁ = (.ok (), w'))
    (hret : w.tree.Retains w'.tree) : w.tree.Placed p content w'.tree := by
  obtain ⟨t, hwrite, hmove⟩ := write_eq_ok h
  have hway := opensWay_makeRoom p w
  have hchanges := perform_makeRoom p w
  rw [hroom] at hway hchanges
  have hputs := puts_of_write hchanges.toExtends hway.spares h
  have hg₁ := hchanges.toExtends.grounded hg
  obtain ⟨⟨loc, name, htemp⟩, -, hsource, hagrees⟩ := writeFile_eq_ok hwrite
  have hext := (changesOnly_writeFile hwrite).toExtends
  rw [← hagrees.place] at hsource
  obtain ⟨⟨loc', name', htarget⟩, -⟩ := moveFile_eq_ok hmove hsource
  have hext' := (changesOnly_moveFile hmove hsource).toExtends
  refine ⟨hret, ⟨⟨fun q hq => ?_, loc', name', htarget.later hext' (hext.grounded hg₁)⟩,
    ⟨loc, name, htemp.later (hext.trans hext') hg₁⟩, ⟨content, ?_⟩⟩, hputs.file, hputs.vacant,
    fun other hne hne' => ?_⟩
  · exact (isDirectory_of_makeRoom hg hroom q hq).imp_right
      (isDirectory_later (hext.trans hext') hg₁)
  · rw [hret.place]
    exact hputs.file
  · exact (hputs.spares.seen other (not_or.2 ⟨hne, hne'⟩)).imp_right fun hmade =>
      ⟨hmade.1, hmade.2.1, hmade.2.2⟩

/-- What the export of a file has done: it keeps what it finds, or puts the file at its place. -/
theorem exportFile_eq_ok {written : Bool} (hatomic : o.atomic = true) (hg : w.tree.Grounded)
    (h : (exportFile o base f).perform w = (.ok written, w')) :
    w.tree.Retains w'.tree ∧ ∃ p, locate base f.path = .ok p ∧
      (written = false ∧ f.policy = .createOnce ∧ w.tree.contains p = true ∧ w'.tree = w.tree ∨
        written = true ∧ w.tree.Placed p f.content w'.tree) := by
  have hret : w.tree.Retains w'.tree := by
    have hexported := perform_exportFile o base f w
    rw [h] at hexported
    exact hexported.retains
  obtain ⟨p, hp, hkept | ⟨hwritten, -, w₁, w₂, hroom, hwrite, htree⟩⟩ := exportFile_steps h
  · exact ⟨hret, p, hp, .inl hkept⟩
  · rw [hatomic] at hwrite
    rw [htree] at hret ⊢
    exact ⟨hret, p, hp, .inr ⟨hwritten, placed_of_write hg hroom hwrite hret⟩⟩

end Job

/-! ### Several files -/

/-- A generated file needs nothing more to be exported again: if it is written once, it can be
found, and otherwise everything is prepared for it. -/
inductive SourceFile.Settled (base : Path) (t : FileTree) (f : SourceFile) : Prop
  | found (p : Path) (hp : locate base f.path = .ok p) (hpolicy : f.policy = .createOnce)
      (hthere : t.contains p = true)
  | prepared (p : Path) (hp : locate base f.path = .ok p) (hpolicy : f.policy = .overwrite)
      (hprepared : t.Prepared p)

/-- Nothing is in the place of the temporary file of a generated file. -/
def SourceFile.Vacant (base : Path) (t : FileTree) (f : SourceFile) : Prop :=
  ∀ p, locate base f.path = .ok p → t.seen? (t.place (temporaryPath p)) = none

section

variable {base p : Path} {t t' : FileTree} {f : SourceFile}

theorem SourceFile.IsUsual.not_ends (hf : f.IsUsual) (hp : locate base f.path = .ok p) :
    ¬Ends (t.place p) temporaryEnding :=
  not_ends_of_ends (hf.ends hp t) (by cases f.kind <;> decide)

theorem SourceFile.Settled.leadsIn (hbase : base ≠ Path.empty) (h : f.Settled base t) :
    t.LeadsIn (t.start base) base.lead := by
  obtain ⟨p, hp, hthere⟩ : ∃ p, locate base f.path = .ok p ∧ t.contains p = true := by
    cases h with
    | found p hp _ hthere => exact ⟨p, hp, hthere⟩
    | prepared p hp _ hprepared => exact ⟨p, hp, hprepared.contains⟩
  obtain ⟨hanchor, rest, last, hsteps, -⟩ := steps_locate hbase hp
  obtain ⟨loc, hresolve⟩ := contains_iff.1 hthere
  obtain ⟨⟨⟩, -, hwalk⟩ := bind_eq_ok.1 hresolve
  rw [hsteps, start_eq_of_anchor t hanchor] at hwalk
  exact leadsIn_of_walk (List.concat_ne_nil _ _) hwalk

/-- Where a temporary file would be, nothing comes to stand when a file is put behind a base that
was entered, in folders without dots. -/
theorem FileTree.Placed.seen?_temporary {content : String} {loc : Location}
    (h : t.Placed p content t') (hbase : base ≠ Path.empty) (hg : t.Grounded)
    (hlead : t.LeadsIn (t.start base) base.lead) (hp : locate base f.path = .ok p)
    (hf : f.IsUsual) (hfolders : DotlessFolders f.path) (hloc : Ends loc temporaryEnding)
    (hnone : t.seen? loc = none) : t'.seen? loc = none := by
  by_cases htemp : loc = t.place (temporaryPath p)
  · exact htemp ▸ h.vacant
  have hplace : loc ≠ t.place p := fun heq => hf.not_ends hp (heq ▸ hloc)
  refine (h.seen loc hplace htemp).elim (·.trans hnone) fun hmade => ?_
  obtain ⟨hanchor, rest, last, hsteps, hrest, -⟩ := exists_steps_locate hbase hp
  have hdot (part : String) (hpart : part ∈ rest) : '.' ∉ part.toList :=
    hfolders part (hrest hpart)
  rw [← start_eq_of_anchor t hanchor] at hlead
  obtain ⟨front, name, hname, rfl⟩ := hmade.exists_mem hg hlead hsteps
    (fun hmem => hdot _ hmem (by decide)) hplace
  exact absurd hloc (not_ends_temporary (hdot name hname))

theorem SourceFile.Settled.later (h : f.Settled base t) (hf : f.IsUsual) (hg : t.Grounded)
    (hret : t.Retains t') : f.Settled base t' := by
  cases h with
  | found p hp hpolicy hthere =>
    exact .found p hp hpolicy (hret.contains hg (hf.not_ends hp) hthere)
  | prepared p hp hpolicy hprepared =>
    exact .prepared p hp hpolicy (hprepared.later hret hg (hf.not_ends hp))

end

namespace Job

variable {o : ExportOptions} {base : Path} {f : SourceFile} {fs : List SourceFile} {w w' : World}
  {report : ExportReport}

theorem settled_of_exportFile {written : Bool} (hatomic : o.atomic = true) (hg : w.tree.Grounded)
    (h : (exportFile o base f).perform w = (.ok written, w')) : f.Settled base w'.tree := by
  obtain ⟨-, p, hp, ⟨-, hpolicy, hthere, htree⟩ | ⟨-, hplaced⟩⟩ := exportFile_eq_ok hatomic hg h
  · exact .found p hp hpolicy (htree ▸ hthere)
  · cases hpolicy : f.policy with
    | createOnce => exact .found p hp hpolicy hplaced.prepared.contains
    | overwrite => exact .prepared p hp hpolicy hplaced.prepared

/-- An export of several files is one of the first and then one of the others. -/
theorem exportFiles_cons_eq_ok {disk : Disk}
    (h : (exportFiles o base (f :: fs)).perform w disk = (.ok report, w')) :
    ∃ written w₁ report', (exportFile o base f).perform w disk = (.ok written, w₁) ∧
      (exportFiles o base fs).perform w₁ disk = (.ok report', w') ∧
      report = report'.cons written f.path := by
  obtain ⟨written, w₁, hfirst, h⟩ := perform_bind_eq_ok.1 h
  obtain ⟨report', w₂, hrest, h⟩ := perform_bind_eq_ok.1 h
  obtain ⟨hreport, rfl⟩ := Prod.mk.inj h
  exact ⟨written, w₁, report', hfirst, hrest, (Except.ok.inj hreport).symm⟩

/-- The files of an export that came to its end are settled. -/
theorem settled_of_exportFiles (hatomic : o.atomic = true) (hg : w.tree.Grounded)
    (hfs : ∀ f ∈ fs, f.IsUsual) (h : (exportFiles o base fs).perform w = (.ok report, w')) :
    w.tree.Retains w'.tree ∧ ∀ f ∈ fs, f.Settled base w'.tree := by
  induction fs generalizing w report with
  | nil =>
    obtain ⟨-, rfl⟩ := Prod.mk.inj h
    exact ⟨.refl _, fun f hf => absurd hf List.not_mem_nil⟩
  | cons f fs ih =>
    obtain ⟨hf, hfs⟩ := List.forall_mem_cons.1 hfs
    obtain ⟨written, w₁, report', hfirst, hrest, -⟩ := exportFiles_cons_eq_ok h
    have hret := (exportFile_eq_ok hatomic hg hfirst).1
    have hg₁ := hret.grounded hg
    obtain ⟨hret', hsettled⟩ := ih hg₁ hfs hrest
    exact ⟨hret.trans hret', List.forall_mem_cons.2
      ⟨(settled_of_exportFile hatomic hg hfirst).later hf hg₁ hret', hsettled⟩⟩

/-- Where a temporary file would be, nothing comes to stand in an export behind a base that was
entered. -/
theorem seen?_temporary_of_exportFiles {loc : Location} (hatomic : o.atomic = true)
    (hbase : base ≠ Path.empty) (hg : w.tree.Grounded)
    (hlead : w.tree.LeadsIn (w.tree.start base) base.lead) (hfs : ∀ f ∈ fs, f.IsUsual)
    (hfolders : ∀ f ∈ fs, DotlessFolders f.path) (hloc : Ends loc temporaryEnding)
    (hnone : w.tree.seen? loc = none) (h : (exportFiles o base fs).perform w = (.ok report, w')) :
    w'.tree.seen? loc = none := by
  induction fs generalizing w report with
  | nil =>
    obtain ⟨-, rfl⟩ := Prod.mk.inj h
    exact hnone
  | cons f fs ih =>
    obtain ⟨hf, hfs⟩ := List.forall_mem_cons.1 hfs
    obtain ⟨hfolder, hfolders⟩ := List.forall_mem_cons.1 hfolders
    obtain ⟨written, w₁, report', hfirst, hrest, -⟩ := exportFiles_cons_eq_ok h
    have hsettled := settled_of_exportFile hatomic hg hfirst
    obtain ⟨hret, p, hp, hdone⟩ := exportFile_eq_ok hatomic hg hfirst
    refine ih (hret.grounded hg) (hsettled.leadsIn hbase) hfs hfolders ?_ hrest
    rcases hdone with ⟨-, -, -, htree⟩ | ⟨-, hplaced⟩
    · rw [htree]
      exact hnone
    · exact hplaced.seen?_temporary hbase hg hlead hp hf hfolder hloc hnone

/-- After an export that came to its end nothing is in the place of a temporary file, if the folders
of the files have no dots in their names. -/
theorem vacant_of_exportFiles (hatomic : o.atomic = true) (hbase : base ≠ Path.empty)
    (hg : w.tree.Grounded) (hfs : ∀ f ∈ fs, f.IsUsual) (hfolders : ∀ f ∈ fs, DotlessFolders f.path)
    (h : (exportFiles o base fs).perform w = (.ok report, w')) :
    ∀ f ∈ fs, f.policy = .overwrite → f.Vacant base w'.tree := by
  induction fs generalizing w report with
  | nil => exact fun f hf => absurd hf List.not_mem_nil
  | cons f fs ih =>
    obtain ⟨hf, hfs⟩ := List.forall_mem_cons.1 hfs
    obtain ⟨hfolder, hfolders⟩ := List.forall_mem_cons.1 hfolders
    obtain ⟨written, w₁, report', hfirst, hrest, -⟩ := exportFiles_cons_eq_ok h
    have hsettled := settled_of_exportFile hatomic hg hfirst
    obtain ⟨hret, p, hp, hdone⟩ := exportFile_eq_ok hatomic hg hfirst
    have hg₁ := hret.grounded hg
    refine List.forall_mem_cons.2 ⟨fun hpolicy q hq => ?_, ih hg₁ hfs hfolders hrest⟩
    obtain rfl := Except.ok.inj (hp.symm.trans hq)
    rcases hdone with ⟨-, honce, -⟩ | ⟨-, hplaced⟩
    · exact nomatch honce.symm.trans hpolicy
    · have hplace : w'.tree.place (temporaryPath p) = w.tree.place (temporaryPath p) :=
        ((settled_of_exportFiles hatomic hg₁ hfs hrest).1.place _).trans (hret.place _)
      rw [hplace]
      exact seen?_temporary_of_exportFiles hatomic hbase hg₁ (hsettled.leadsIn hbase) hfs hfolders
        (ends_temporaryPath w.tree p) hplaced.vacant hrest

end Job

end ApiProxy
