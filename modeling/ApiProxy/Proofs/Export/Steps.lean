import ApiProxy.Proofs.Export.Placement
import ApiProxy.Proofs.FileTree.Calls

/-!
# What an export does to the tree

The export of a file keeps what is there, or puts the content of the file at its place and a
temporary file beside it, or stops. Then it has at most left the temporary file behind, or, if it
uses none, a beginning of the content at the place of the file. What one export does to the tree
depends on the tree and the disk alone.

An export that did not stop has entered its base. From then on a file that is to be written only
once is found if it is there, and is kept: what it is looked up by and what it is written by can
only differ in directories that are missing or have too long a name, or in a file that stands in
the way, and then it is not written either.

## Main definitions

* `FileTree.Written`: a file has been written at the place of a path.
* `Job.AtomicEnds`: how writing a file by way of a temporary file can end.
* `Exported`, `ExportedAll`: what the export of one file and of several files does.
* `Entered`: a base has been entered.

## Main results

* `Job.write_direct_eq_ok`, `Job.write_atomic_eq_ok`: when a file is written on a disk.
* `Job.perform_exportFile`, `Job.perform_exportFiles`: exports as relations between trees.
* `ExportedAll.keeps`: when an export keeps a file that is at a location.
* `ExportedAll.replaces`: when an export puts generated content at a location.
-/

namespace ApiProxy

namespace FileTree

variable {t t' : FileTree} {p : Path} {content : String}

theorem ChangesOnly.filesStay_of_none (h : t.ChangesOnly (fun _ => False) t') : t.FilesStay t' :=
  fun loc content hloc => ⟨content, h.file loc content not_false hloc⟩

/-- A content has been written at the place of a path. At some time the path ended there. -/
structure Written (t : FileTree) (p : Path) (content : String) (t' : FileTree) : Prop where
  ended : ∃ t₁ loc name, t.Extends t₁ ∧ t.FilesStay t₁ ∧ t₁.EndsIn p loc name false ∧ t₁.Extends t'
  changes : t.ChangesOnly (fun loc => Ends loc temporaryEnding ∨ loc = t.place p) t'
  file : t'.get? (t.place p) = some (.file content)

theorem written_of_writeFile (h : t.writeFile p content = .ok t') : t.Written p content t' := by
  obtain ⟨⟨loc, name, hend⟩, -, hfile, -⟩ := writeFile_eq_ok h
  have hchanges := changesOnly_writeFile h
  exact ⟨⟨t, loc, name, .refl t, .refl t, hend, hchanges.toExtends⟩,
    hchanges.mono fun _ => .inr, hfile⟩

theorem Written.of_makeDirectories {t₀ : FileTree} (h : t₀.ChangesOnly (fun _ => False) t)
    (hw : t.Written p content t') : t₀.Written p content t' := by
  obtain ⟨⟨t₁, loc, name, hext, hstay, hend, hext'⟩, hchanges, hfile⟩ := hw
  rw [h.place] at hchanges hfile
  exact ⟨⟨t₁, loc, name, h.toExtends.trans hext, h.filesStay_of_none.trans hstay, hend, hext'⟩,
    (h.mono fun _ => False.elim).trans hchanges, hfile⟩

end FileTree

namespace Job

variable {α β : Type} {disk : Disk}

theorem perform_get (w : World) (disk : Disk) :
    (get : Job World).perform w disk = (.ok w, w) := rfl

/-- Two jobs one after the other succeed when both do. -/
theorem perform_bind_eq_ok {j : Job α} {k : α → Job β} {w w' : World}
    {b : β} :
    (j >>= k).perform w disk = (.ok b, w') ↔
      ∃ a w₁, j.perform w disk = (.ok a, w₁) ∧ (k a).perform w₁ disk = (.ok b, w') := by
  rw [perform_bind]
  rcases j.perform w disk with ⟨e | a, w₁⟩
  · simp
  · simp

/-- Two jobs one after the other fail when the first does, or the second after it. -/
theorem perform_bind_eq_error {j : Job α} {k : α → Job β} {w w' : World} {e : Failure} :
    (j >>= k).perform w disk = (.error e, w') ↔ j.perform w disk = (.error e, w') ∨
      ∃ a w₁, j.perform w disk = (.ok a, w₁) ∧ (k a).perform w₁ disk = (.error e, w') := by
  rw [perform_bind]
  rcases j.perform w disk with ⟨e | a, w₁⟩
  · simp
  · simp

section

variable {p : Path} {content : String} {w w' : World}

theorem change_eq_ok {operation : Disk → FileTree → Except FileFault FileTree} :
    (change p operation).perform w disk = (.ok (), w') ↔
      ∃ t, operation disk w.tree = .ok t ∧ w' = { w with tree := t } := by
  rw [perform_change]
  cases operation disk w.tree with
  | error f => exact iff_of_false nofun fun ⟨t, h, _⟩ => nomatch h
  | ok t =>
    dsimp only
    rw [Prod.mk.injEq, and_iff_right rfl]
    exact ⟨fun h => ⟨t, rfl, h.symm⟩, fun ⟨_, h, h'⟩ => Except.ok.inj h ▸ h'.symm⟩

theorem changePartly_eq_ok {operation : Disk → FileTree → FileTree × Except FileFault Unit} :
    (changePartly p operation).perform w disk = (.ok (), w') ↔
      ∃ t, operation disk w.tree = (t, .ok ()) ∧ w' = { w with tree := t } := by
  rw [perform_changePartly]
  rcases operation disk w.tree with ⟨t, f | ⟨⟩⟩
  · exact iff_of_false nofun fun ⟨t, h, _⟩ => nomatch h
  · rw [Except.mapError, Prod.mk.injEq, and_iff_right rfl]
    exact ⟨fun h => ⟨t, rfl, h.symm⟩, fun ⟨_, h, h'⟩ => (Prod.mk.inj h).1 ▸ h'.symm⟩

end

/-! ### One file -/

theorem perform_makeRoom (p : Path) (w : World) (disk : Disk := .sound) :
    w.tree.ChangesOnly (fun _ => False) ((makeRoom p).perform w disk).2.tree := by
  rw [makeRoom]
  split
  · exact .refl _ _
  · rw [perform_changePartly]
    exact FileTree.changesOnly_makeDirectories disk.makes_makeDirectory _ _

/-- How writing a file by way of a temporary file can end: there is no temporary file, its content
breaks off, it cannot be brought to the device, it cannot be moved, or it is moved. -/
inductive AtomicEnds (disk : Disk) (p : Path) (content : String) (w : World) :
    Except Failure Unit × World → Prop
  | failed (f : FileFault) :
      AtomicEnds disk p content w (.error (.file (temporaryPath p).text f), w)
  | brokenOff (count : Nat) (r : Refusal) (t : FileTree)
      (hbreaks : disk.breaksOff w.tree (temporaryPath p) content = some (count, r))
      (hwrite : w.tree.writeFile (temporaryPath p) (Disk.beginning content count) = .ok t) :
      AtomicEnds disk p content w
        (.error (.file (temporaryPath p).text (.refused r)), { w with tree := t })
  | unsynced (r : Refusal) (t : FileTree)
      (hwrite : w.tree.writeFile (temporaryPath p) content = .ok t)
      (hsync : disk.refuses t (.sync (temporaryPath p)) = some r) :
      AtomicEnds disk p content w
        (.error (.file (temporaryPath p).text (.refused r)), { w with tree := t })
  | unmoved (f : FileFault) (t : FileTree)
      (hwrite : w.tree.writeFile (temporaryPath p) content = .ok t)
      (hmove : disk.moveFile t (temporaryPath p) p = .error f) :
      AtomicEnds disk p content w (.error (.file p.text f), { w with tree := t })
  | moved (t t' : FileTree) (hwrite : w.tree.writeFile (temporaryPath p) content = .ok t)
      (hmove : t.moveFile (temporaryPath p) p = .ok t') :
      AtomicEnds disk p content w (.ok (), { w with tree := t' })

theorem atomicEnds (p : Path) (content : String) (w : World) (disk : Disk) :
    AtomicEnds disk p content w ((write true p content).perform w disk) := by
  rw [write, if_pos rfl, perform_bind, perform_changePartly]
  have hends := disk.writeEnds w.tree (temporaryPath p) content
  generalize disk.writeFile w.tree (temporaryPath p) content = x at hends ⊢
  cases hends with
  | failed f => exact .failed f
  | brokenOff count r t hbreaks hwrite => exact .brokenOff count r t hbreaks hwrite
  | written t hwrite =>
    change AtomicEnds disk p content w (Job.perform (_ >>= _) { w with tree := t } disk)
    rw [perform_bind, perform_change, Disk.syncFile]
    dsimp only
    rcases disk.attempt_cases t (.sync (temporaryPath p)) (.ok t) with
      hsync | ⟨r, -, hsync, -, hrefused⟩
    · rw [hsync]
      dsimp only
      rw [perform_change]
      dsimp only
      cases hmove : disk.moveFile t (temporaryPath p) p with
      | error f => exact .unmoved f t hwrite hmove
      | ok t' => exact .moved t t' hwrite (Disk.moveFile_eq_ok hmove)
    · rw [hrefused]
      exact .unsynced r t hwrite hsync

section

variable {p : Path} {content : String} {w w' : World}

theorem write_direct_eq_ok : (write false p content).perform w disk = (.ok (), w') ↔
    ∃ t, disk.writeFile w.tree p content = (t, .ok ()) ∧ w' = { w with tree := t } := by
  rw [write, if_neg Bool.false_ne_true, changePartly_eq_ok]

/-- A file is written by way of its temporary file if that one is written to the end, brought to the
device, and moved. -/
theorem write_atomic_eq_ok : (write true p content).perform w disk = (.ok (), w') ↔
    ∃ t t', disk.writeFile w.tree (temporaryPath p) content = (t, .ok ()) ∧
      disk.refuses t (.sync (temporaryPath p)) = none ∧
      disk.moveFile t (temporaryPath p) p = .ok t' ∧ w' = { w with tree := t' } := by
  rw [write, if_pos rfl, perform_bind_eq_ok]
  constructor
  · rintro ⟨⟨⟩, w₁, hfirst, h⟩
    obtain ⟨⟨⟩, w₂, hsecond, hthird⟩ := perform_bind_eq_ok.1 h
    obtain ⟨t, hwrite, rfl⟩ := changePartly_eq_ok.1 hfirst
    obtain ⟨t₁, hsettle, rfl⟩ := change_eq_ok.1 hsecond
    obtain ⟨t', hmove, rfl⟩ := change_eq_ok.1 hthird
    obtain ⟨hsame, hsync⟩ := Disk.attempt_eq_ok_iff.1 hsettle
    obtain rfl := Except.ok.inj hsame
    exact ⟨t, t', hwrite, hsync, hmove, rfl⟩
  · rintro ⟨t, t', hwrite, hsync, hmove, rfl⟩
    exact ⟨(), _, changePartly_eq_ok.2 ⟨t, hwrite, rfl⟩, perform_bind_eq_ok.2
      ⟨(), _, change_eq_ok.2 ⟨t, Disk.attempt_eq_ok_iff.2 ⟨rfl, hsync⟩, rfl⟩,
        change_eq_ok.2 ⟨t', hmove, rfl⟩⟩⟩

end

/-- A file is written, or at most a temporary file or a beginning of it is. -/
theorem perform_write (atomic : Bool) (p : Path) (content : String) (w : World) (disk : Disk) :
    (∃ e t, (write atomic p content).perform w disk = (.error e, { w with tree := t }) ∧
        (w.tree.ChangesOnly (Ends · temporaryEnding) t ∨ ∃ other, w.tree.Written p other t)) ∨
      ∃ t, (write atomic p content).perform w disk = (.ok (), { w with tree := t }) ∧
        w.tree.Written p content t := by
  cases atomic with
  | false =>
    rw [write, if_neg Bool.false_ne_true, perform_changePartly]
    have hends := disk.writeEnds w.tree p content
    generalize disk.writeFile w.tree p content = x at hends ⊢
    cases hends with
    | failed f => exact .inl ⟨_, w.tree, rfl, .inl (.refl _ _)⟩
    | brokenOff count r t _ h =>
      exact .inl ⟨_, t, rfl, .inr ⟨_, FileTree.written_of_writeFile h⟩⟩
    | written t h => exact .inr ⟨t, rfl, FileTree.written_of_writeFile h⟩
  | true =>
    have htemp {content : String} {t : FileTree}
        (h : w.tree.writeFile (temporaryPath p) content = .ok t) :
        w.tree.ChangesOnly (Ends · temporaryEnding) t :=
      (FileTree.changesOnly_writeFile h).mono fun loc hloc => hloc ▸ ends_temporaryPath w.tree p
    have hends := atomicEnds p content w disk
    generalize (write true p content).perform w disk = x at hends ⊢
    cases hends with
    | failed f => exact .inl ⟨_, w.tree, rfl, .inl (.refl _ _)⟩
    | brokenOff _ _ t _ h | unsynced _ t h _ | unmoved _ t h _ =>
      exact .inl ⟨_, t, rfl, .inl (htemp h)⟩
    | moved t t' h hmove =>
      obtain ⟨-, -, hfile, -⟩ := FileTree.writeFile_eq_ok h
      have hchanges := FileTree.changesOnly_writeFile h
      have hsource := hchanges.place (temporaryPath p) ▸ hfile
      obtain ⟨⟨loc, name, hend⟩, -, hfile', -⟩ := FileTree.moveFile_eq_ok hmove hsource
      have hchanges' := FileTree.changesOnly_moveFile hmove hsource
      rw [hchanges.place, hchanges.place] at hchanges'
      rw [hchanges.place] at hfile'
      refine .inr ⟨t', rfl, ⟨t, loc, name, hchanges.toExtends, hchanges.filesStay hfile, hend,
        hchanges'.toExtends⟩, ?_, hfile'⟩
      refine ((htemp h).mono fun _ => .inl).trans (hchanges'.mono ?_)
      rintro loc (rfl | rfl)
      · exact .inl (ends_temporaryPath w.tree p)
      · exact .inr rfl

end Job

/-- What the export of a file does: it keeps what is there, or writes the file, or stops and
leaves at most a temporary file or some other content behind. -/
inductive Exported (base : Path) (f : SourceFile) (t : FileTree) :
    Except Failure Bool → FileTree → Prop
  | kept (p : Path) (hp : locate base f.path = .ok p) (hpolicy : f.policy = .createOnce)
      (hthere : t.contains p = true) : Exported base f t (.ok false) t
  | written (p : Path) (t' : FileTree) (hp : locate base f.path = .ok p)
      (hnot : ¬(f.policy = .createOnce ∧ t.contains p = true))
      (hwritten : t.Written p f.content t') : Exported base f t (.ok true) t'
  | brokenOff (p : Path) (content : String) (e : Failure) (t' : FileTree)
      (hp : locate base f.path = .ok p)
      (hnot : ¬(f.policy = .createOnce ∧ t.contains p = true))
      (hwritten : t.Written p content t') : Exported base f t (.error e) t'
  | stopped (e : Failure) (t' : FileTree) (h : t.ChangesOnly (Ends · temporaryEnding) t') :
      Exported base f t (.error e) t'

namespace Job

theorem perform_exportFile (o : ExportOptions) (base : Path) (f : SourceFile) (w : World)
    (disk : Disk := .sound) :
    Exported base f w.tree ((exportFile o base f).perform w disk).1
      ((exportFile o base f).perform w disk).2.tree := by
  rw [exportFile, perform_bind, perform_ofExcept]
  cases hp : locate base f.path with
  | error e => exact .stopped e _ (.refl _ _)
  | ok p =>
    dsimp only
    rw [perform_bind, perform_get]
    dsimp only
    by_cases hkeep : f.policy = .createOnce ∧ w.tree.contains p = true
    · rw [if_pos hkeep, perform_bind, perform_note]
      exact .kept p hp hkeep.1 hkeep.2
    · rw [if_neg hkeep, perform_bind]
      have hroom := perform_makeRoom p w disk
      generalize (makeRoom p).perform w disk = x at hroom ⊢
      rcases x with ⟨e | _, w₁⟩
      · exact .stopped e _ (hroom.mono fun _ => False.elim)
      dsimp only
      rw [perform_bind]
      rcases perform_write o.atomic p f.content w₁ disk with
        ⟨e, t, hw, hchanges | ⟨content, hwritten⟩⟩ | ⟨t, hw, hwritten⟩
      · rw [hw]
        exact .stopped e t ((hroom.mono fun _ => False.elim).trans hchanges)
      · rw [hw]
        exact .brokenOff p content e t hp hkeep (hwritten.of_makeDirectories hroom)
      · rw [hw]
        exact .written p t hp hkeep (hwritten.of_makeDirectories hroom)

end Job

/-! ### Entering a base -/

/-- At some time a base has been entered on the way to a generated file. -/
def Entered (base : Path) (t : FileTree) : Prop :=
  ∃ t₀ : FileTree, t₀.Extends t ∧ t₀.LeadsIn (t₀.start base) base.lead

section

variable {base p : Path} {relative content : String} {t t' : FileTree}

theorem Entered.later (h : Entered base t) (hext : t.Extends t') : Entered base t' := by
  obtain ⟨t₀, h₀, hlead⟩ := h
  exact ⟨t₀, h₀.trans hext, hlead⟩

theorem start_eq_of_anchor (t : FileTree) (h : p.anchor = base.anchor) :
    t.start p = t.start base := by
  rw [FileTree.start, FileTree.start, Path.isAbsolute, Path.isAbsolute, h]

theorem entered_of_contains (hbase : base ≠ Path.empty) (hp : locate base relative = .ok p)
    (h : t.contains p = true) : Entered base t := by
  obtain ⟨hanchor, rest, last, hsteps, -⟩ := steps_locate hbase hp
  obtain ⟨loc, hresolve⟩ := FileTree.contains_iff.1 h
  obtain ⟨-, -, hwalk⟩ := bind_eq_ok.1 hresolve
  rw [hsteps, start_eq_of_anchor t hanchor] at hwalk
  exact ⟨t, .refl t, FileTree.leadsIn_of_walk (List.concat_ne_nil _ _) hwalk⟩

theorem FileTree.Written.entered (hbase : base ≠ Path.empty) (hp : locate base relative = .ok p)
    (h : t.Written p content t') : Entered base t' := by
  obtain ⟨hanchor, rest, last, hsteps, -⟩ := steps_locate hbase hp
  obtain ⟨t₁, loc, name, -, -, hend, hext⟩ := h.ended
  obtain ⟨-, hwalk⟩ := hend.front (hsteps.trans (List.append_assoc ..).symm)
  rw [start_eq_of_anchor t₁ hanchor] at hwalk
  refine ⟨t₁, hext, FileTree.LeadsIn.of_append ⟨loc, hwalk, ?_⟩⟩
  exact FileTree.reachesDirectory_of_isDirectoryAt hend.isDirectoryAt

/-- A generated file that is there and can be written is found, once its base was entered. -/
theorem FileTree.Written.contains (hbase : base ≠ Path.empty) (hp : locate base relative = .ok p)
    (hentered : Entered base t) (h : t.Written p content t')
    (hthere : (t.get? (t.place p)).isSome = true) : t.contains p = true := by
  obtain ⟨hanchor, rest, last, hsteps, hback⟩ := steps_locate hbase hp
  obtain ⟨t₀, h₀, hlead⟩ := hentered
  obtain ⟨t₁, loc, name, hext, hstay, hend, -⟩ := h.ended
  rw [← start_eq_of_anchor t₀ hanchor] at hlead
  exact FileTree.contains_of_endsIn hsteps hback hlead h₀ hext hstay hend hthere

theorem Exported.entered {f : SourceFile} {written : Bool} (hbase : base ≠ Path.empty)
    (h : Exported base f t (.ok written) t') : Entered base t' := by
  cases h with
  | kept p hp _ hthere => exact entered_of_contains hbase hp hthere
  | written p _ hp _ hwritten => exact hwritten.entered hbase hp

end

/-! ### What stands at a location -/

namespace SourceFile

/-- A generated file is put at a location. -/
def PutAt (f : SourceFile) (base : Path) (t : FileTree) (loc : Location) : Prop :=
  ∃ p, locate base f.path = .ok p ∧ t.place p = loc

/-- A generated file is put at a location and is not found there. -/
def MissedAt (f : SourceFile) (base : Path) (t : FileTree) (loc : Location) : Prop :=
  ∃ p, locate base f.path = .ok p ∧ t.place p = loc ∧ t.contains p = false

instance (f : SourceFile) (base : Path) (t : FileTree) (loc : Location) :
    Decidable (f.PutAt base t loc) :=
  match h : locate base f.path with
  | .ok p => decidable_of_iff (t.place p = loc)
      ⟨fun hplace => ⟨p, h, hplace⟩,
        fun ⟨_, hp, hplace⟩ => Except.ok.inj (h.symm.trans hp) ▸ hplace⟩
  | .error _ => .isFalse fun ⟨_, hp, _⟩ => nomatch h.symm.trans hp

instance (f : SourceFile) (base : Path) (t : FileTree) (loc : Location) :
    Decidable (f.MissedAt base t loc) :=
  match h : locate base f.path with
  | .ok p => decidable_of_iff (t.place p = loc ∧ t.contains p = false)
      ⟨fun hmissed => ⟨p, h, hmissed⟩,
        fun ⟨_, hp, hmissed⟩ => Except.ok.inj (h.symm.trans hp) ▸ hmissed⟩
  | .error _ => .isFalse fun ⟨_, hp, _⟩ => nomatch h.symm.trans hp

theorem PutAt.congr {f : SourceFile} {base : Path} {t t' : FileTree} {loc : Location}
    (h : t'.current = t.current) : f.PutAt base t' loc ↔ f.PutAt base t loc := by
  simp only [PutAt, FileTree.place_congr h]

end SourceFile

section

variable {base : Path} {f : SourceFile} {t t' : FileTree} {loc : Location} {content : String}
  {r : Except Failure Bool}

theorem Exported.extends (h : Exported base f t r t') : t.Extends t' := by
  cases h with
  | kept => exact .refl t
  | written p _ _ _ hwritten | brokenOff p _ _ _ _ _ hwritten => exact hwritten.changes.toExtends
  | stopped e _ h => exact h.toExtends

/-- A file at a location stays, if only files that are to be written once are put there, and if
the base has been entered or the first of them is found. -/
theorem Exported.keeps (hbase : base ≠ Path.empty) (h : Exported base f t r t')
    (htemp : ¬Ends loc temporaryEnding) (hput : f.PutAt base t loc → f.policy = .createOnce)
    (hfound : Entered base t ∨ ¬f.MissedAt base t loc)
    (hfile : t.get? loc = some (.file content)) : t'.get? loc = some (.file content) := by
  cases h with
  | kept => exact hfile
  | stopped e _ h => exact h.file loc content htemp hfile
  | written p _ hp hnot hwritten | brokenOff p _ _ _ hp hnot hwritten =>
    by_cases hplace : loc = t.place p
    · refine absurd ⟨hput ⟨p, hp, hplace.symm⟩, ?_⟩ hnot
      rcases hfound with hentered | hmissed
      · exact hwritten.contains hbase hp hentered (Option.isSome_of_eq_some (hplace ▸ hfile))
      · by_contra hno
        exact hmissed ⟨p, hp, hplace.symm, (Bool.not_eq_true _).mp hno⟩
    · exact hwritten.changes.file loc content (not_or.2 ⟨htemp, hplace⟩) hfile

/-- The content of one of some generated files that are put at a location stands there. -/
def Holds (base : Path) (fs : List SourceFile) (loc : Location) (t : FileTree) : Prop :=
  ∃ f ∈ fs, f.PutAt base t loc ∧ t.get? loc = some (.file f.content)

/-- Generated content is only replaced by generated content. -/
theorem Exported.holds {fs : List SourceFile} {written : Bool}
    (h : Exported base f t (.ok written) t') (hmem : f ∈ fs) (htemp : ¬Ends loc temporaryEnding)
    (hholds : Holds base fs loc t) : Holds base fs loc t' := by
  obtain ⟨g, hg, hput, hfile⟩ := hholds
  have hput' := (SourceFile.PutAt.congr h.extends.current).2 hput
  cases h with
  | kept => exact ⟨g, hg, hput, hfile⟩
  | written p _ hp hnot hwritten =>
    by_cases hplace : loc = t.place p
    · refine ⟨f, hmem, ⟨p, hp, ?_⟩, hplace ▸ hwritten.file⟩
      rw [hwritten.changes.place, hplace]
    · exact ⟨g, hg, hput', hwritten.changes.file loc _ (not_or.2 ⟨htemp, hplace⟩) hfile⟩

/-- An export puts the content of a file at its place, unless it stops or the file is to be
written only once and is found. -/
theorem Exported.replaces {written : Bool} (h : Exported base f t (.ok written) t')
    (hput : f.PutAt base t loc) (hreplaced : f.policy ≠ .createOnce ∨ f.MissedAt base t loc) :
    t'.get? loc = some (.file f.content) := by
  obtain ⟨q, hq, rfl⟩ := hput
  cases h with
  | kept p hp hpolicy hthere =>
    rcases hreplaced with hne | ⟨p', hp', -, hmissing⟩
    · exact absurd hpolicy hne
    · obtain rfl := Except.ok.inj (hp.symm.trans hp')
      exact nomatch hthere.symm.trans hmissing
  | written p _ hp _ hwritten =>
    obtain rfl := Except.ok.inj (hp.symm.trans hq)
    exact hwritten.file

end

/-! ### Several files -/

/-- What the export of several files does, and whether it came to the end. -/
inductive ExportedAll (base : Path) : List SourceFile → FileTree → Bool → FileTree → Prop
  | done (t : FileTree) : ExportedAll base [] t true t
  | next (f : SourceFile) (fs : List SourceFile) (t t₁ t' : FileTree) (written finished : Bool)
      (h : Exported base f t (.ok written) t₁) (hrest : ExportedAll base fs t₁ finished t') :
      ExportedAll base (f :: fs) t finished t'
  | stopped (f : SourceFile) (fs : List SourceFile) (t t' : FileTree) (e : Failure)
      (h : Exported base f t (.error e) t') : ExportedAll base (f :: fs) t false t'

theorem Job.perform_exportFiles (o : ExportOptions) (base : Path) (fs : List SourceFile)
    (w : World) (disk : Disk := .sound) :
    ExportedAll base fs w.tree ((exportFiles o base fs).perform w disk).1.isOk
      ((exportFiles o base fs).perform w disk).2.tree := by
  induction fs generalizing w with
  | nil => exact .done _
  | cons f fs ih =>
    have hfirst := perform_exportFile o base f w disk
    rw [exportFiles, perform_bind]
    generalize (exportFile o base f).perform w disk = x at hfirst ⊢
    rcases x with ⟨e | written, w₁⟩
    · exact .stopped f fs _ _ e hfirst
    · dsimp only
      rw [perform_bind]
      refine .next f fs _ _ _ written _ hfirst ?_
      have hrest := ih w₁
      generalize (exportFiles o base fs).perform w₁ disk = y at hrest ⊢
      rcases y with ⟨e | report, w₂⟩ <;> exact hrest

section

variable {base : Path} {fs : List SourceFile} {t t' : FileTree} {loc : Location} {finished : Bool}

theorem ExportedAll.extends (h : ExportedAll base fs t finished t') : t.Extends t' := by
  induction h with
  | done t => exact .refl t
  | next f fs t t₁ t' written finished h hrest ih => exact h.extends.trans ih
  | stopped f fs t t' e h => exact h.extends

theorem ExportedAll.entered (hbase : base ≠ Path.empty) (h : ExportedAll base fs t true t')
    (hne : fs ≠ []) : Entered base t' := by
  cases h with
  | done t => exact absurd rfl hne
  | next f fs _ t₁ _ written _ h hrest => exact (h.entered hbase).later hrest.extends

/-- A file at a location stays, if only files that are to be written once are put there, and if
the base has been entered or the first of all files is found. -/
theorem ExportedAll.keeps {content : String} (hbase : base ≠ Path.empty)
    (h : ExportedAll base fs t finished t') (htemp : ¬Ends loc temporaryEnding)
    (hput : ∀ f ∈ fs, f.PutAt base t loc → f.policy = .createOnce)
    (hfound : Entered base t ∨ ∀ f ∈ fs.head?, ¬f.MissedAt base t loc)
    (hfile : t.get? loc = some (.file content)) : t'.get? loc = some (.file content) := by
  induction h with
  | done t => exact hfile
  | next f fs t t₁ t' written finished h hrest ih =>
    rw [List.forall_mem_cons] at hput
    refine ih (fun g hg hgput => ?_) (.inl (h.entered hbase)) ?_
    · exact hput.2 g hg ((SourceFile.PutAt.congr h.extends.current).1 hgput)
    · exact h.keeps hbase htemp hput.1 (hfound.imp_right fun hf => hf f rfl) hfile
  | stopped f fs t t' e h =>
    rw [List.forall_mem_cons] at hput
    exact h.keeps hbase htemp hput.1 (hfound.imp_right fun hf => hf f rfl) hfile

theorem ExportedAll.holds {gs : List SourceFile} (h : ExportedAll base fs t finished t')
    (hfinished : finished = true) (hsub : fs ⊆ gs) (htemp : ¬Ends loc temporaryEnding)
    (hholds : Holds base gs loc t) : Holds base gs loc t' := by
  induction h with
  | done t => exact hholds
  | next f fs t t₁ t' written finished h hrest ih =>
    rw [List.cons_subset] at hsub
    exact ih hfinished hsub.2 (h.holds hsub.1 htemp hholds)
  | stopped f fs t t' e h => exact nomatch hfinished

/-- Files that are exported to the end replace what is at a location by generated content, if
one that is always written is put there, or if the first of all is put there and not found. -/
theorem ExportedAll.replaces {gs : List SourceFile} (h : ExportedAll base fs t finished t')
    (hfinished : finished = true) (hsub : fs ⊆ gs) (htemp : ¬Ends loc temporaryEnding)
    (hreplaced : (∃ f ∈ fs, f.PutAt base t loc ∧ f.policy ≠ .createOnce) ∨
      ∃ f ∈ fs.head?, f.MissedAt base t loc) : Holds base gs loc t' := by
  induction h with
  | done t =>
    rcases hreplaced with ⟨f, hf, -⟩ | ⟨f, hf, -⟩
    · exact absurd hf List.not_mem_nil
    · exact nomatch hf
  | next f fs t t₁ t' written finished h hrest ih =>
    rw [List.cons_subset] at hsub
    have hcurrent := h.extends.current
    have hfirst (hput : f.PutAt base t loc)
        (hf : f.policy ≠ .createOnce ∨ f.MissedAt base t loc) : Holds base gs loc t' :=
      hrest.holds hfinished hsub.2 htemp
        ⟨f, hsub.1, (SourceFile.PutAt.congr hcurrent).2 hput, h.replaces hput hf⟩
    rcases hreplaced with ⟨g, hg, hput, hpolicy⟩ | ⟨g, hg, p, hp, hplace, hmissing⟩
    · rcases List.mem_cons.1 hg with rfl | hg
      · exact hfirst hput (.inl hpolicy)
      · exact ih hfinished hsub.2
          (.inl ⟨g, hg, (SourceFile.PutAt.congr hcurrent).2 hput, hpolicy⟩)
    · obtain rfl : f = g := Option.some.inj hg
      exact hfirst ⟨p, hp, hplace⟩ (.inr ⟨p, hp, hplace, hmissing⟩)
  | stopped f fs t t' e h => exact nomatch hfinished

end

end ApiProxy
