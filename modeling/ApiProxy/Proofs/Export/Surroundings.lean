import ApiProxy.Proofs.Export.Interruption
import ApiProxy.Proofs.FileTree.Lasting

/-!
# What an export spares

An export spares everything but the places of the generated files and of their temporary files,
except that it makes directories: on the way to the base, and on the way from the base to a file. If
the directories that the path of a file names before its last `..` are there, then all directories
that are made for the file are above its place.

Nothing here asks whether the current directory is still there.

## Main definitions

* `FileTree.Spares`: nothing changes outside of given locations, but that directories are made.
* `FileTree.StandsAlong`: the directories that parts name are there.
* `FileTree.Puts`: a content has been put at a place by way of a temporary file.

## Main results

* `Job.spares_makeRoom_of_standsAlong`: the directories that are made for a path.
* `Job.puts_of_write`: what writing a file has done.
-/

namespace ApiProxy

open FileTree

/-! ### What is spared -/

namespace FileTree

variable {t t' t'' : FileTree} {p : Path} {P Q W W' : Location → Prop}

/-- Nothing changes outside of the locations with one property, but that directories are made at
locations with another property where nothing stood. -/
structure Spares (P W : Location → Prop) (t t' : FileTree) : Prop where
  current : t'.current = t.current
  seen (loc : Location) (hloc : ¬P loc) :
    t'.seen? loc = t.seen? loc ∨ W loc ∧ t.seen? loc = none ∧ t'.seen? loc = some none

theorem Spares.refl (P W : Location → Prop) (t : FileTree) : t.Spares P W t :=
  ⟨rfl, fun _ _ => .inl rfl⟩

theorem Spares.trans (h : t.Spares P W t') (h' : t'.Spares P W t'') : t.Spares P W t'' := by
  refine ⟨h'.current.trans h.current, fun loc hloc => ?_⟩
  rcases h.seen loc hloc with hsame | ⟨hW, hnone, hmade⟩
  · exact hsame ▸ h'.seen loc hloc
  · rcases h'.seen loc hloc with hsame' | ⟨-, hnone', -⟩
    · exact .inr ⟨hW, hnone, hsame'.trans hmade⟩
    · cases hmade.symm.trans hnone'

theorem Spares.mono (h : t.Spares P W t') (hPQ : ∀ loc, P loc → Q loc)
    (hW : ∀ loc, ¬Q loc → W loc → W' loc) : t.Spares Q W' t' :=
  ⟨h.current, fun loc hloc => (h.seen loc fun hP => hloc (hPQ loc hP)).imp_right
    fun hmade => ⟨hW loc hloc hmade.1, hmade.2⟩⟩

theorem AgreesOff.spares (h : t.AgreesOff P t') : t.Spares P W t' :=
  ⟨h.current, fun loc hloc => .inl (h.seen loc hloc)⟩

theorem OpensWay.spares (h : OpensWay p t t') :
    t.Spares (fun _ => False) (t.PassesThrough p) t' :=
  ⟨h.current, fun loc _ => (h.seen loc).imp_right fun hmade =>
    ⟨hmade.passes, hmade.before, hmade.after⟩⟩

/-! ### Directories on the way of a path -/

/-- The directories that parts name from a location are there. -/
def StandsAlong (t : FileTree) (loc : Location) (parts : List String) : Prop :=
  ∀ front name, front ++ [name] <+: parts → Path.isIdle name = false → name ≠ ".." →
    t.isDirectoryAt (follow loc (front ++ [name])) = true

theorem standsAlong_nil (t : FileTree) (loc : Location) : t.StandsAlong loc [] :=
  fun _ _ habove => absurd (List.prefix_nil.1 habove) (List.concat_ne_nil _ _)

theorem Extends.standsAlong (h : t.Extends t') {loc : Location} {parts : List String}
    (hstands : t.StandsAlong loc parts) : t'.StandsAlong loc parts :=
  fun front name habove hidle hback => h.directory _ (hstands front name habove hidle hback)

theorem LeadsIn.standsAlong {loc : Location} {parts : List String} (h : t.LeadsIn loc parts) :
    t.StandsAlong loc parts := by
  rintro front name ⟨more, rfl⟩ hidle hback
  obtain ⟨loc₁, hwalk, hdir⟩ := h.of_append
  obtain rfl := walk_eq_ok hwalk
  obtain ⟨loc₂, hfront, hlast⟩ := walk_append_eq_ok.1 hwalk
  obtain rfl := walk_eq_ok hfront
  obtain ⟨-, hadmits, -⟩ := walk_cons_eq_ok.1 hlast
  -- a name is only followed to something that exists
  have hsome := (hadmits hidle hback).2
  rw [← advance_name _ hidle hback] at hsome
  rw [follow_append] at hdir ⊢
  change (t.get? (follow (follow loc front) [name])).isSome = true at hsome
  obtain ⟨n, hn⟩ := Option.isSome_iff_exists.1 hsome
  obtain ⟨entries, hreached⟩ := reachesDirectory_iff.1 hdir
  rw [reached?_of_get? hn] at hreached
  exact isDirectoryAt_iff.2 ⟨entries, hn.trans hreached⟩

theorem endsIn_of_makeDirectory (h : t.makeDirectory p = .ok t') :
    ∃ loc name slash, t.EndsIn p loc name slash := by
  obtain ⟨⟨loc, last⟩, hlast, h⟩ := bind_eq_ok.1 h
  cases last with
  | name name slash => exact ⟨loc, name, slash, resolveLast_name hlast⟩
  | dot => cases h
  | dotDot => cases h
  | root => cases h

/-- A directory that is made on the way of a path is above the place of the path, or one that the
path names before its last `..`. -/
theorem prefix_of_makeDirectory {q : Path} {init tail : List String}
    (hsteps : steps p = init ++ tail) (hback : ".." ∉ tail)
    (hstands : t.StandsAlong (t.start p) init) (hstart : t.start q = t.start p)
    (hq : steps q <+: steps p) (h : t.makeDirectory q = .ok t') :
    t.place q <+: t.place p := by
  obtain ⟨loc, name, slash, hend⟩ := endsIn_of_makeDirectory h
  obtain ⟨front, blanks, hfront, -, -, hwalk⟩ := hend.steps
  have hplace : t.place q = follow (t.start p) (front ++ [name]) := by
    rw [hend.place_eq, walk_eq_ok hwalk, hstart, follow_append]
    exact (advance_name _ hend.isIdle hend.ne_back).symm
  have hnamed : front ++ [name] <+: init ++ tail := by
    refine List.IsPrefix.trans ⟨blanks, ?_⟩ (hsteps ▸ hq)
    rw [hfront, List.append_assoc, List.singleton_append]
  rcases List.prefix_or_prefix_of_prefix hnamed (List.prefix_append init tail) with hinit | hinit
  · have hdir := isDirectoryAt_iff_seen?.1 (hstands front name hinit hend.isIdle hend.ne_back)
    rw [← hplace, (makeDirectory_eq_ok h).1] at hdir
    cases hdir
  · obtain ⟨more, hmore⟩ := hinit
    rw [← hmore, List.prefix_append_right_inj] at hnamed
    rw [hplace, place, hsteps, ← hmore, follow_append, follow_append, follow_eq_append hback,
      follow_eq_append fun hmem => hback (hnamed.subset hmem), List.prefix_append_right_inj]
    exact hnamed.filter _

end FileTree

namespace Job

variable {p : Path}

/-- If the directories are there that a path names before its last `..`, all that are made for it
are above its place. -/
theorem spares_makeRoom_of_standsAlong {init tail : List String} {w : World} {disk : Disk}
    (hsteps : steps p = init ++ tail) (hback : ".." ∉ tail)
    (h : w.tree.StandsAlong (w.tree.start p) init) :
    w.tree.Spares (fun _ => False) (· <+: w.tree.place p) ((makeRoom p).perform w disk).2.tree := by
  rw [makeRoom]
  split
  · exact .refl _ _ _
  next parent hparent =>
  rw [perform_changePartly]
  -- the directories that are made first leave the way to the others as it is
  let R (t t' : FileTree) : Prop := w.tree.Extends t →
    t.Extends t' ∧ t.Spares (fun _ => False) (· <+: w.tree.place p) t'
  have hrelated : R w.tree (disk.makeDirectories w.tree parent).1 := by
    refine makeDirectories_of_makeDirectory disk.makes_makeDirectory
      (fun t _ => ⟨.refl t, .refl _ _ t⟩) (fun t t' t'' h h' hext => ?_)
      (fun q hq t t' hmake hext => ?_) w.tree
    · obtain ⟨hext', hspares⟩ := h hext
      obtain ⟨hext'', hspares'⟩ := h' (hext.trans hext')
      exact ⟨hext'.trans hext'', hspares.trans hspares'⟩
    · have hstart : t.start q = t.start p :=
        (Path.mem_upwards t hq).1.trans (Path.parent?_eq_some t hparent).1
      have hway := (Path.steps_prefix_of_mem_upwards hq).trans
        (Path.steps_prefix_of_parent? hparent)
      have hstands := hext.standsAlong h
      rw [← hext.start] at hstands
      have habove := prefix_of_makeDirectory hsteps hback hstands hstart hway hmake
      obtain ⟨hnone, hmade, hagrees⟩ := makeDirectory_eq_ok hmake
      refine ⟨(changesOnly_makeDirectory hmake).toExtends, hagrees.current, fun loc _ => ?_⟩
      by_cases hloc : loc = t.place q
      · subst hloc
        exact .inr ⟨hext.place p ▸ habove, hnone, hmade⟩
      · exact .inl (hagrees.seen loc hloc)
  exact (hrelated (.refl _)).2

end Job

/-! ### Putting a file -/

namespace FileTree

/-- A content has been put at the place of a path by way of a temporary file, which is gone, and
nothing else has been done but to make directories at locations with a property. -/
structure Puts (W : Location → Prop) (t : FileTree) (p : Path) (content : String) (t' : FileTree) :
    Prop where
  temporary : t.seen? (t.place (temporaryPath p)) ≠ some none
  file : t'.get? (t.place p) = some (.file content)
  vacant : t'.seen? (t.place (temporaryPath p)) = none
  spares : t.Spares (fun loc => loc = t.place p ∨ loc = t.place (temporaryPath p)) W t'

end FileTree

namespace Job

variable {p : Path} {w w₁ w' : World} {disk : Disk} {content : String} {W : Location → Prop}

/-- A content is written by way of a temporary file, which is then moved. -/
theorem write_eq_ok {content : String}
    (h : (write true p content).perform w disk = (.ok (), w')) :
    ∃ t, w.tree.writeFile (temporaryPath p) content = .ok t ∧
      t.moveFile (temporaryPath p) p = .ok w'.tree := by
  obtain ⟨t, t', hwrite, -, hmove, rfl⟩ := write_atomic_eq_ok.1 h
  exact ⟨t, Disk.writeFile_eq_ok hwrite, Disk.moveFile_eq_ok hmove⟩

/-- What writing a content by way of a temporary file has done, after room was made. -/
theorem puts_of_write (hext : w.tree.Extends w₁.tree)
    (hspares : w.tree.Spares (fun _ => False) W w₁.tree)
    (h : (write true p content).perform w₁ disk = (.ok (), w')) :
    w.tree.Puts W p content w'.tree := by
  obtain ⟨t, hwrite, hmove⟩ := write_eq_ok h
  obtain ⟨-, hfree, hsource, hagrees⟩ := writeFile_eq_ok hwrite
  rw [← hagrees.place] at hsource
  obtain ⟨-, -, hfile, hagrees'⟩ := moveFile_eq_ok hmove hsource
  have hvacant := seen?_of_moveFile hmove hsource (place_temporaryPath_ne t p)
  have hplace (q : Path) : t.place q = w.tree.place q := (hagrees.place q).trans (hext.place q)
  rw [hplace, hplace] at hagrees'
  rw [hplace] at hfile hvacant
  rw [hext.place] at hfree hagrees
  refine ⟨fun hdir => hfree ?_, hfile, hvacant, (hspares.mono nofun fun _ _ => id).trans ?_⟩
  · exact isDirectoryAt_iff_seen?.1 (hext.directory _ (isDirectoryAt_iff_seen?.2 hdir))
  · exact ((hagrees.mono fun _ => .inr).trans (hagrees'.mono fun _ => Or.symm)).spares

/-- The export of a file that does not stop keeps what it finds, or makes room and then writes. -/
theorem exportFile_steps {o : ExportOptions} {base : Path} {f : SourceFile} {written : Bool}
    (h : (exportFile o base f).perform w disk = (.ok written, w')) :
    ∃ p, locate base f.path = .ok p ∧
      (written = false ∧ f.policy = .createOnce ∧ w.tree.contains p = true ∧ w'.tree = w.tree ∨
        written = true ∧ ¬(f.policy = .createOnce ∧ w.tree.contains p = true) ∧ ∃ w₁ w₂,
          (makeRoom p).perform w disk = (.ok (), w₁) ∧
            (write o.atomic p f.content).perform w₁ disk = (.ok (), w₂) ∧ w'.tree = w₂.tree) := by
  obtain ⟨p, w₁, hlocate, -⟩ := perform_bind_eq_ok.1 h
  rw [perform_ofExcept] at hlocate
  obtain ⟨hp, -⟩ := Prod.mk.inj hlocate
  rw [perform_exportFile_of_located hp] at h
  refine ⟨p, hp, ?_⟩
  split at h
  · next hkeep =>
    obtain ⟨hwritten, rfl⟩ := Prod.mk.inj h
    exact .inl ⟨(Except.ok.inj hwritten).symm, hkeep.1, hkeep.2, rfl⟩
  · next hnot =>
    obtain ⟨⟨⟩, w₂, hroom, h⟩ := perform_bind_eq_ok.1 h
    obtain ⟨⟨⟩, w₃, hwrite, h⟩ := perform_bind_eq_ok.1 h
    obtain ⟨hwritten, rfl⟩ := Prod.mk.inj h
    exact .inr ⟨(Except.ok.inj hwritten).symm, hnot, w₂, w₃, hroom, hwrite, rfl⟩

end Job

end ApiProxy
