import ApiProxy.Proofs.Export.Confinement

/-!
# What an export leaves that stops half-way

An atomic export that stops at a file has exported the files before that one and has touched none of
those behind it. For the file itself it has made directories, and nothing has happened to what
stands at its place. But the temporary file stays once it was created: with a beginning of the
content if writing breaks off, and with all of it if it cannot be brought to the device or cannot be
moved, as when a directory is at the place of the file or when its path ends in a slash or in `.`;
in the last case it stays beside the base and not in it.

## Main definitions

* `FileTree.MadeOnWay`: a directory has been made on the way of a path.
* `SourceFile.Leftover`: what a temporary file holds that stays, and why.
* `SourceFile.Interrupts`: what has been done for a file at which an export stopped.
* `SourceFile.LeavesOnlyRoom`, `SourceFile.Strands`: nothing but directories is left of it; its
  temporary file is left.

## Main results

* `place_temporaryPath_ne`: a temporary file never stands at the place of its file.
* `Job.exportFiles_interrupted`: what an export has done when it stops.
-/

namespace ApiProxy

open FileTree

/-! ### Directories on the way of a path -/

namespace Path

variable {p q : Path}

theorem steps_prefix_of_parent? (h : p.parent? = some q) : steps q <+: steps p := by
  have hparts := (parent?_eq_some ⟨.emptyDirectory, []⟩ h).2.1
  rw [parent?] at h
  split at h
  · cases h
  · obtain rfl := Option.some.inj h
    exact List.nil_prefix
  · cases h
  · obtain rfl := Option.some.inj h
    rw [steps, steps]
    split
    · exact List.cons_prefix_cons.2 ⟨rfl, hparts⟩
    · exact hparts

theorem steps_prefix_of_mem_upwards {n : Nat} (h : q ∈ upwards p n) : steps q <+: steps p := by
  induction n generalizing p with
  | zero => exact absurd h List.not_mem_nil
  | succ n ih =>
    rw [upwards] at h
    rcases List.mem_cons.1 h with rfl | h
    · exact List.prefix_rfl
    split at h
    · exact absurd h List.not_mem_nil
    next q' hq' =>
    split at h
    · exact absurd h List.not_mem_nil
    exact (ih h).trans (steps_prefix_of_parent? hq')

end Path

namespace FileTree

variable {t t' t'' : FileTree} {p : Path} {loc : Location}

/-- A path goes through a location. -/
def PassesThrough (t : FileTree) (p : Path) (loc : Location) : Prop :=
  ∃ parts, parts <+: steps p ∧ loc = follow (t.start p) parts

/-- A directory has been made at a location that a path goes through, where nothing stood. -/
structure MadeOnWay (p : Path) (t t' : FileTree) (loc : Location) : Prop where
  passes : t.PassesThrough p loc
  before : t.seen? loc = none
  after : t'.seen? loc = some none

/-- Nothing has been done but to make directories on the way of a path. -/
structure OpensWay (p : Path) (t t' : FileTree) : Prop where
  current : t'.current = t.current
  seen (loc : Location) : t'.seen? loc = t.seen? loc ∨ MadeOnWay p t t' loc

theorem OpensWay.refl (p : Path) (t : FileTree) : OpensWay p t t := ⟨rfl, fun _ => .inl rfl⟩

theorem OpensWay.trans (h : OpensWay p t t') (h' : OpensWay p t' t'') : OpensWay p t t'' := by
  have hstart : t'.start p = t.start p := by rw [start, start, h.current]
  refine ⟨h'.current.trans h.current, fun loc => ?_⟩
  rcases h.seen loc with hsame | hmade
  · rcases h'.seen loc with hsame' | ⟨hpasses, hbefore, hafter⟩
    · exact .inl (hsame'.trans hsame)
    · exact .inr ⟨by rwa [PassesThrough, hstart] at hpasses, hsame ▸ hbefore, hafter⟩
  · rcases h'.seen loc with hsame' | hmade'
    · exact .inr ⟨hmade.passes, hmade.before, hsame'.trans hmade.after⟩
    · cases hmade'.before.symm.trans hmade.after

end FileTree

theorem Job.opensWay_makeRoom (p : Path) (w : World) (disk : Disk := .sound) :
    OpensWay p w.tree ((makeRoom p).perform w disk).2.tree := by
  rw [makeRoom]
  split
  · exact .refl p w.tree
  next parent hparent =>
  rw [perform_changePartly]
  refine makeDirectories_of_makeDirectory disk.makes_makeDirectory (.refl p)
    (fun _ _ _ => .trans) (fun q hq t t' hmake => ?_) w.tree
  obtain ⟨hbefore, hafter, hagrees⟩ := makeDirectory_eq_ok hmake
  have hstart : t.start q = t.start p :=
    (Path.mem_upwards t hq).1.trans (Path.parent?_eq_some t hparent).1
  refine ⟨hagrees.current, fun loc => ?_⟩
  by_cases hloc : loc = t.place q
  · refine .inr ⟨⟨steps q, ?_, ?_⟩, hloc ▸ hbefore, hloc ▸ hafter⟩
    · exact (Path.steps_prefix_of_mem_upwards hq).trans (Path.steps_prefix_of_parent? hparent)
    · rw [hloc, place, hstart]
  · exact .inl (hagrees.seen loc hloc)

/-! ### The place of a temporary file -/

theorem Path.exists_place_eq (t : FileTree) {p : Path} {name : String}
    (h : p.fileName? = some name) : ∃ loc, t.place p = loc ++ [name] := by
  obtain ⟨hlast, hback⟩ := Option.filter_eq_some_iff.1 h
  rw [names, ← filter_trimEnd] at hlast
  have hne : trimEnd p.parts ≠ [] := by
    intro htrim
    rw [htrim] at hlast
    cases hlast
  have hidle : isIdle ((trimEnd p.parts).getLast hne) = false :=
    (Bool.not_eq_true _).mp (List.rdropWhile_last_not isIdle p.parts hne)
  have htrim := List.dropLast_concat_getLast hne
  rw [← htrim, List.filter_append, List.filter_cons_of_pos (by rw [hidle, Bool.not_false]),
    List.filter_nil, List.getLast?_concat, Option.some.injEq] at hlast
  rw [hlast] at htrim hidle
  obtain ⟨idle, hsplit, hall⟩ := exists_trimEnd_append p.parts
  have hsteps : steps p = steps ⟨p.anchor, (trimEnd p.parts).dropLast⟩ ++ [name] ++ idle := by
    rw [← steps_append, ← steps_append, htrim, ← hsplit]
  rw [place, hsteps, follow_append, follow_of_isIdle hall, follow_append]
  exact ⟨_, advance_name _ hidle (by simpa using hback)⟩

/-- A temporary file never stands at the place of its file. -/
theorem place_temporaryPath_ne (t : FileTree) (p : Path) :
    t.place (temporaryPath p) ≠ t.place p := by
  have hending : slashParts ("" ++ temporaryEnding) = ["" ++ temporaryEnding] := by decide
  rw [temporaryPath, Path.withFileName]
  cases hname : p.fileName? with
  | none =>
    rw [Option.isSome_none, if_neg Bool.false_ne_true, Option.getD_none,
      (Path.place_join t p hending).2.1, advance_name _ (by decide) (by decide)]
    exact fun h => absurd (List.append_right_eq_self.1 h) (List.cons_ne_nil _ _)
  | some name =>
    rw [Option.isSome_some, if_pos rfl, Option.getD_some]
    obtain ⟨loc, hplace⟩ := Path.exists_place_eq t hname
    obtain ⟨front, last, hparts⟩ := exists_slashParts_append name
    have hname := hparts "" List.not_mem_nil
    rw [String.append_empty, String.append_empty] at hname
    have htemp := hparts temporaryEnding (by decide)
    have hsuffix : temporaryEnding.toList <:+ (last ++ temporaryEnding).toList := by
      rw [String.toList_append]
      exact List.suffix_append _ _
    obtain ⟨hidle, hback⟩ := isName_of_suffix (by decide) hsuffix
    obtain ⟨init, hsteps⟩ := Path.steps_join (p.parent?.getD p) htemp hidle
    rw [hplace, place, hsteps, follow_append]
    intro heq
    obtain ⟨-, hsame⟩ := List.append_inj' (heq.symm.trans (advance_name _ hidle hback)) rfl
    obtain rfl : name = last ++ temporaryEnding := List.head_eq_of_cons_eq hsame
    -- the name has no slash, so it is its own last part, and is longer than that
    have hpart : last ∈ slashParts (last ++ temporaryEnding) := hname ▸ List.mem_concat_self
    have hslash : '/' ∉ (last ++ temporaryEnding).toList := by
      rw [String.toList_append, List.mem_append, not_or]
      exact ⟨Path.not_mem_of_slashParts (slashParts_part hpart), by decide⟩
    rw [slashParts, splitSlash_of_not_mem hslash, List.map_singleton, String.ofList_toList] at hname
    have hself : [] ++ [last ++ temporaryEnding] = front ++ [last] := hname
    obtain ⟨-, hself⟩ := List.append_inj' hself rfl
    have hlength := congrArg (fun s => s.toList.length) (List.head_eq_of_cons_eq hself)
    simp [temporaryEnding] at hlength

/-! ### One file -/

namespace SourceFile

/-- What the temporary file of a file holds after an atomic export stopped with a failure: writing
the content broke off, or all of it was written and could then not be brought to the device, or not
be moved to its place. -/
inductive Leftover (f : SourceFile) (disk : Disk) (p : Path) (e : Failure) (t : FileTree) :
    String → Prop
  | brokenOff (t₀ : FileTree) (count : Nat) (r : Refusal)
      (hagrees : t₀.AgreesOff (· = t₀.place (temporaryPath p)) t)
      (hbreaks : disk.breaksOff t₀ (temporaryPath p) f.content = some (count, r))
      (he : e = .file (temporaryPath p).text (.refused r)) :
      Leftover f disk p e t (Disk.beginning f.content count)
  | unsynced (r : Refusal) (hsync : disk.refuses t (.sync (temporaryPath p)) = some r)
      (he : e = .file (temporaryPath p).text (.refused r)) : Leftover f disk p e t f.content
  | unmoved (fault : FileFault) (hmove : disk.moveFile t (temporaryPath p) p = .error fault)
      (he : e = .file p.text fault) : Leftover f disk p e t f.content

/-- What has been done for a file at which an atomic export stopped with a failure: directories
have been made on its way, and its temporary file may be left. -/
structure Interrupts (f : SourceFile) (disk : Disk) (base : Path) (e : Failure) (t t' : FileTree) :
    Prop where
  current : t'.current = t.current
  seen (loc : Location) : t'.seen? loc = t.seen? loc ∨ ∃ p, locate base f.path = .ok p ∧
    (MadeOnWay p t t' loc ∨ loc = t.place (temporaryPath p) ∧ loc ≠ t.place p ∧
      ∃ left, t'.seen? loc = some (some left) ∧ f.Leftover disk p e t' left)

/-- Nothing is left of a file but directories that were made on its way. -/
def LeavesOnlyRoom (f : SourceFile) (base : Path) (t t' : FileTree) : Prop :=
  ∀ loc, t'.seen? loc = t.seen? loc ∨ ∃ p, locate base f.path = .ok p ∧ MadeOnWay p t t' loc

/-- A beginning of the content of a file, or all of it, has come to the place of its temporary file
and stays there. -/
def Strands (f : SourceFile) (base : Path) (t t' : FileTree) : Prop :=
  ∃ p left, locate base f.path = .ok p ∧ left.toList <+: f.content.toList ∧
    t'.seen? (t.place (temporaryPath p)) = some (some left) ∧
    t.seen? (t.place (temporaryPath p)) ≠ some (some left)

variable {f : SourceFile} {disk : Disk} {base p : Path} {e : Failure} {t t' : FileTree}

theorem Leftover.isPrefix {left : String} (h : f.Leftover disk p e t left) :
    left.toList <+: f.content.toList := by
  cases h with
  | brokenOff _ count => exact Disk.beginning_prefix _ count
  | unsynced | unmoved => exact List.prefix_rfl

theorem interrupts_of_opensWay (hp : locate base f.path = .ok p) (h : OpensWay p t t') :
    f.Interrupts disk base e t t' :=
  ⟨h.current, fun loc => (h.seen loc).imp_right fun hmade => ⟨p, hp, .inl hmade⟩⟩

/-- A temporary file is left behind in a directory for which room has been made. -/
theorem interrupts_of_writeFile {t₁ : FileTree} {left : String} (hp : locate base f.path = .ok p)
    (hroom : OpensWay p t t₁) (hwrite : t₁.writeFile (temporaryPath p) left = .ok t')
    (hleft : f.Leftover disk p e t' left) : f.Interrupts disk base e t t' := by
  obtain ⟨-, -, hfile, hagrees⟩ := writeFile_eq_ok hwrite
  have hplace : t₁.place (temporaryPath p) = t.place (temporaryPath p) :=
    place_congr hroom.current _
  rw [hplace] at hfile hagrees
  refine ⟨hagrees.current.trans hroom.current, fun loc => ?_⟩
  by_cases hloc : loc = t.place (temporaryPath p)
  · subst hloc
    exact .inr ⟨p, hp, .inr ⟨rfl, place_temporaryPath_ne t p, left,
      Node.seen?_eq_some_some.2 hfile, hleft⟩⟩
  · have hsame := hagrees.seen loc hloc
    refine (hroom.seen loc).imp (hsame.trans ·) fun hmade => ⟨p, hp, .inl ?_⟩
    exact ⟨hmade.passes, hmade.before, hsame.trans hmade.after⟩

/-- A file leaves nothing but directories exactly if its temporary file is not left. -/
theorem Interrupts.leavesOnlyRoom_iff (h : f.Interrupts disk base e t t') :
    f.LeavesOnlyRoom base t t' ↔ ¬f.Strands base t t' := by
  constructor
  · rintro hroom ⟨p, left, -, -, hleft, hnot⟩
    rcases hroom (t.place (temporaryPath p)) with hsame | ⟨q, -, hmade⟩
    · exact hnot (hsame ▸ hleft)
    · exact nomatch hmade.after.symm.trans hleft
  · intro hnot loc
    rcases h.seen loc with hsame | ⟨p, hp, hmade | ⟨rfl, -, left, hleft, hheld⟩⟩
    · exact .inl hsame
    · exact .inr ⟨p, hp, hmade⟩
    · refine .inl (hleft.trans (not_not.1 fun hne => hnot ⟨p, left, hp, hheld.isPrefix, hleft, ?_⟩))
      exact Ne.symm hne

end SourceFile

namespace Job

variable {o : ExportOptions} {base p : Path} {f : SourceFile} {w w' : World} {disk : Disk}
  {e : Failure}

/-- The export of a file with a path keeps what it finds, or makes room and writes. -/
theorem perform_exportFile_of_located (hp : locate base f.path = .ok p) :
    (exportFile o base f).perform w disk =
      if f.policy = .createOnce ∧ w.tree.contains p = true then
        (.ok false, { w with log := w.log ++
          [LogOrigin.files.debug "Keeping existing user file" [("path", f.path)]] })
      else (makeRoom p >>= fun _ => write o.atomic p f.content >>= fun _ =>
        note [LogOrigin.files.info ("Create " ++ o.logPath p f.path)] >>= fun _ =>
          pure true).perform w disk := by
  rw [exportFile, perform_bind, perform_ofExcept, hp]
  dsimp only
  rw [perform_bind, perform_get]
  dsimp only
  split <;> rfl

/-- An atomic export that stops at its only file. -/
theorem exportFile_interrupted (hatomic : o.atomic = true)
    (h : (exportFile o base f).perform w disk = (.error e, w')) :
    f.Interrupts disk base e w.tree w'.tree := by
  cases hp : locate base f.path with
  | error e' =>
    rw [exportFile, perform_bind, perform_ofExcept, hp] at h
    obtain ⟨-, rfl⟩ := Prod.mk.inj h
    exact ⟨rfl, fun _ => .inl rfl⟩
  | ok p =>
    rw [perform_exportFile_of_located hp, hatomic] at h
    split at h
    · cases h
    have hroom := opensWay_makeRoom p w disk
    rcases perform_bind_eq_error.1 h with hstop | ⟨⟨⟩, w₁, hmade, h⟩
    · rw [hstop] at hroom
      exact SourceFile.interrupts_of_opensWay hp hroom
    rw [hmade] at hroom
    rcases perform_bind_eq_error.1 h with hstop | ⟨⟨⟩, w₂, -, h⟩
    swap
    · cases h
    have hends := atomicEnds p f.content w₁ disk
    rw [hstop] at hends
    cases hends with
    | failed f => exact SourceFile.interrupts_of_opensWay hp hroom
    | brokenOff count r t hbreaks hwrite =>
      exact SourceFile.interrupts_of_writeFile hp hroom hwrite
        (.brokenOff w₁.tree count r (writeFile_eq_ok hwrite).2.2.2 hbreaks rfl)
    | unsynced r t hwrite hsync =>
      exact SourceFile.interrupts_of_writeFile hp hroom hwrite (.unsynced r hsync rfl)
    | unmoved fault t hwrite hmove =>
      exact SourceFile.interrupts_of_writeFile hp hroom hwrite (.unmoved fault hmove rfl)

/-- An export that stops has come to some file. -/
theorem exists_exportFile_eq_error {fs : List SourceFile}
    (h : (exportFiles o base fs).perform w disk = (.error e, w')) :
    ∃ front f back report w₁, fs = front ++ f :: back ∧
      (exportFiles o base front).perform w disk = (.ok report, w₁) ∧
      (exportFile o base f).perform w₁ disk = (.error e, w') := by
  induction fs generalizing w with
  | nil => cases h
  | cons f fs ih =>
    rcases perform_bind_eq_error.1 h with hfirst | ⟨written, w₁, hfirst, h⟩
    · exact ⟨[], f, fs, .empty, w, rfl, rfl, hfirst⟩
    rcases perform_bind_eq_error.1 h with hrest | ⟨report, w₂, -, h⟩
    · obtain ⟨front, g, back, report, w₂, rfl, hfront, hg⟩ := ih hrest
      exact ⟨f :: front, g, back, report.cons written f.path, w₂, rfl, perform_bind_eq_ok.2
        ⟨written, w₁, hfirst, perform_bind_eq_ok.2 ⟨report, w₂, hfront, rfl⟩⟩, hg⟩
    · cases h

/-- On any disk, an atomic export that stops has exported the files before one file, and for that
one it has at most made directories and left its temporary file, with what had been written of the
content. So it is as if only the files before had been exported, the directories apart, exactly if
the temporary file is not left. -/
theorem exportFiles_interrupted (o : ExportOptions) (base : Path) (fs : List SourceFile)
    (w w' : World) (disk : Disk) (e : Failure) (hatomic : o.atomic = true)
    (h : (exportFiles o base fs).perform w disk = (.error e, w')) :
    ∃ front f back report w₁, fs = front ++ f :: back ∧
      (exportFiles o base front).perform w disk = (.ok report, w₁) ∧
      f.Interrupts disk base e w₁.tree w'.tree ∧
      (f.LeavesOnlyRoom base w₁.tree w'.tree ↔ ¬f.Strands base w₁.tree w'.tree) := by
  obtain ⟨front, f, back, report, w₁, hfs, hfront, hf⟩ := exists_exportFile_eq_error h
  have hinterrupts := exportFile_interrupted hatomic hf
  exact ⟨front, f, back, report, w₁, hfs, hfront, hinterrupts, hinterrupts.leavesOnlyRoom_iff⟩

end Job

/-- A world in which a directory stands where a generated file belongs. -/
def blockedWorld : World where
  tree := ⟨.directory [("out", .directory [("Book.cs", .directory [])])], []⟩
  network := .silent

/-- A file that goes there, between two others. -/
def blockedFiles : List SourceFile :=
  [.ofKind "new/Author.cs" "author" .dataType, .ofKind "Book.cs" "book" .dataType,
    .ofKind "Shelf.cs" "shelf" .dataType]

/-- The export of these files on a disk. -/
def blockedExport (disk : Disk) : Except Failure ExportReport × World :=
  (Job.exportFiles {} (.ofText "out") blockedFiles).perform blockedWorld disk

/-- A disk on which there is no room for more than two characters. -/
def tinyDisk : Disk where
  refuses _ _ := none
  breaksOff _ _ _ := some (2, .noSpace)

/-- On the sound disk the first file is exported, the third is not touched, and the temporary file
of the second is left beside the directory. On a disk without room the temporary file of the first
is left, with what had room. -/
theorem Job.exportFiles_interrupted_blocked :
    (∃ e w', blockedExport .sound = (.error e, w') ∧
      (∃ front f back report w₁, blockedFiles = front ++ f :: back ∧
        (exportFiles {} (.ofText "out") front).perform blockedWorld = (.ok report, w₁) ∧
        f.Interrupts .sound (.ofText "out") e w₁.tree w'.tree ∧
        (f.LeavesOnlyRoom (.ofText "out") w₁.tree w'.tree ↔
          ¬f.Strands (.ofText "out") w₁.tree w'.tree)) ∧
      w'.tree.seen? ["out", "new", "Author.cs"] = some (some "author") ∧
      w'.tree.seen? ["out", "Book.cs.tmp"] = some (some "book") ∧
      w'.tree.seen? ["out", "Shelf.cs"] = none) ∧
    (blockedExport tinyDisk).1 =
        .error (.file "out/new/Author.cs.tmp" (.refused .noSpace)) ∧
      (blockedExport tinyDisk).2.tree.seen? ["out", "new", "Author.cs"] = none ∧
      (blockedExport tinyDisk).2.tree.seen? ["out", "new", "Author.cs.tmp"] =
        some (some "au") := by
  refine ⟨?_, by decide +kernel⟩
  have hseen : (blockedExport .sound).1.isOk = false ∧
      (blockedExport .sound).2.tree.seen? ["out", "new", "Author.cs"] = some (some "author") ∧
      (blockedExport .sound).2.tree.seen? ["out", "Book.cs.tmp"] = some (some "book") ∧
      (blockedExport .sound).2.tree.seen? ["out", "Shelf.cs"] = none := by decide +kernel
  rcases hrun : blockedExport .sound with ⟨e | report, w'⟩
  · rw [hrun] at hseen
    exact ⟨e, w', rfl, exportFiles_interrupted {} _ blockedFiles blockedWorld w' _ e rfl hrun,
      hseen.2⟩
  · rw [hrun] at hseen
    exact nomatch hseen.1

end ApiProxy
