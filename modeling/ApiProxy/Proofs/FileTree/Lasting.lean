import ApiProxy.Proofs.FileTree.Change

/-!
# What lasts in later trees

While the current directory is there, whoever follows a path meets what exists and nothing else. A
path that led somewhere then leads there in every later tree that has the directories of the
earlier one, as long as its end is not taken away. So a directory that was made once need not be
made again, and a path at which a file was put once can be written and moved onto again.

## Main definitions

* `FileTree.Grounded`: the current directory is there.

## Main results

* `FileTree.Extends.walk_of_isSome`: walks last in later trees.
* `FileTree.EndsIn.later`, `FileTree.isDirectory_later`: the same for paths that end in a name and
  for paths that lead to a directory.
* `FileTree.EndsIn.writeFile`, `FileTree.EndsIn.moveFile`, `FileTree.EndsIn.readFile`: what can be
  done at the end of a path.
* `FileTree.isDirectory_of_makeDirectories`, `FileTree.makeDirectories_of_isDirectory`: a directory
  that was made is there, and one that is there need not be made.
-/

namespace ApiProxy.FileTree

variable {t t' : FileTree} {p q : Path} {loc loc' : Location} {name : String} {slash : Bool}
  {content : String}

/-- The current directory is there. -/
def Grounded (t : FileTree) : Prop := t.isDirectoryAt t.current = true

instance (t : FileTree) : Decidable t.Grounded := inferInstanceAs (Decidable (_ = true))

theorem Extends.grounded (h : t.Extends t') (hg : t.Grounded) : t'.Grounded := by
  rw [Grounded, h.current]
  exact h.directory _ hg

theorem Grounded.reached?_eq (hg : t.Grounded) (loc : Location) : t.reached? loc = t.get? loc := by
  rw [reached?]
  cases hget : t.get? loc with
  | some n => rw [Option.some_or]
  | none =>
    rw [Option.none_or, if_neg]
    intro habove
    obtain ⟨rest, hrest⟩ := List.isPrefixOf_iff_prefix.1 habove
    obtain ⟨entries, hentries⟩ := isDirectoryAt_iff.1 hg
    have hsome : (t.get? (loc ++ rest)).isSome = true := by
      rw [hrest, hentries]
      rfl
    have habove' : (t.get? loc).isSome = true := get?_append_isSome hsome
    rw [hget] at habove'
    cases habove'

theorem Grounded.reachesDirectory_iff (hg : t.Grounded) :
    t.reachesDirectory loc = true ↔ t.isDirectoryAt loc = true := by
  rw [reachesDirectory, hg.reached?_eq, isDirectoryAt]

theorem isSome_of_isDirectoryAt (h : t.isDirectoryAt loc = true) :
    (t.get? loc).isSome = true := by
  obtain ⟨entries, hentries⟩ := isDirectoryAt_iff.1 h
  exact Option.isSome_of_eq_some hentries

/-! ### Walks -/

/-- A walk that succeeded succeeds in every later tree in which its end is there. -/
theorem Extends.walk_of_isSome (h : t.Extends t') (hg : t.Grounded) {parts : List String}
    (hwalk : t.walk loc parts = .ok loc') (hend : (t'.get? loc').isSome = true) :
    t'.walk loc parts = .ok loc' := by
  have hg' := h.grounded hg
  have hlater {l : Location} (hdir : t.reachesDirectory l = true) : t'.isDirectoryAt l = true :=
    h.directory l (hg.reachesDirectory_iff.1 hdir)
  induction parts generalizing loc with
  | nil =>
    obtain rfl : loc' = loc := walk_eq_ok hwalk
    rw [FileTree.walk, hg'.reached?_eq, if_pos hend]
  | cons part parts ih =>
    obtain ⟨hdir, hadmits, hwalk⟩ := walk_cons_eq_ok.1 hwalk
    refine walk_cons_eq_ok.2 ⟨hg'.reachesDirectory_iff.2 (hlater hdir), fun hidle hback =>
      ⟨(hadmits hidle hback).1, ?_⟩, ih hwalk⟩
    rw [← advance_name loc hidle hback]
    cases parts with
    | nil =>
      obtain rfl : loc' = advance loc part := walk_eq_ok hwalk
      exact hend
    | cons next parts => exact isSome_of_isDirectoryAt (hlater (walk_cons_eq_ok.1 hwalk).1)

/-- A path that led to an entry leads there in every later tree in which the entry is there. -/
theorem Extends.contains_of_isSome (h : t.Extends t') (hg : t.Grounded)
    (hp : t.contains p = true) (hend : (t'.get? (t.place p)).isSome = true) :
    t'.contains p = true := by
  obtain ⟨loc, hresolve⟩ := contains_iff.1 hp
  obtain ⟨⟨⟩, hcheck, hwalk⟩ := bind_eq_ok.1 hresolve
  obtain rfl : loc = t.place p := walk_eq_ok hwalk
  refine contains_iff.2 ⟨t.place p, bind_eq_ok.2 ⟨(), hcheck, ?_⟩⟩
  rw [h.start]
  exact h.walk_of_isSome hg hwalk hend

theorem isDirectory_iff (hg : t.Grounded) :
    t.isDirectory p = true ↔ t.contains p = true ∧ t.isDirectoryAt (t.place p) = true := by
  rw [contains_iff, isDirectory, find?]
  constructor
  · intro h
    split at h
    · next loc hresolve =>
      obtain ⟨⟨⟩, -, hwalk⟩ := bind_eq_ok.1 hresolve
      obtain rfl : loc = t.place p := walk_eq_ok hwalk
      exact ⟨⟨_, hresolve⟩, hg.reachesDirectory_iff.1 h⟩
    · cases h
  · rintro ⟨⟨loc, hresolve⟩, hdir⟩
    obtain ⟨⟨⟩, -, hwalk⟩ := bind_eq_ok.1 hresolve
    obtain rfl : loc = t.place p := walk_eq_ok hwalk
    rw [hresolve]
    exact hg.reachesDirectory_iff.2 hdir

theorem isDirectory_later (h : t.Extends t') (hg : t.Grounded) (hp : t.isDirectory p = true) :
    t'.isDirectory p = true := by
  obtain ⟨hcontains, hdir⟩ := (isDirectory_iff hg).1 hp
  have hdir' := h.directory _ hdir
  rw [isDirectory_iff (h.grounded hg), h.place]
  exact ⟨h.contains_of_isSome hg hcontains (isSome_of_isDirectoryAt hdir'), hdir'⟩

/-! ### The end of a path -/

theorem EndsIn.later (hend : t.EndsIn p loc name slash) (h : t.Extends t') (hg : t.Grounded) :
    t'.EndsIn p loc name slash where
  checkText := hend.checkText
  steps := by
    obtain ⟨front, blanks, hsteps, hblank, hslash, hwalk⟩ := hend.steps
    refine ⟨front, blanks, hsteps, hblank, hslash, ?_⟩
    rw [h.start]
    exact h.walk_of_isSome hg hwalk
      (isSome_of_isDirectoryAt (h.directory loc hend.isDirectoryAt))
  isDirectoryAt := h.directory loc hend.isDirectoryAt
  isIdle := hend.isIdle
  ne_back := hend.ne_back
  length_le := hend.length_le

theorem EndsIn.resolve (hend : t.EndsIn p loc name false)
    (hthere : (t.get? (t.place p)).isSome = true) : t.resolve p = .ok (t.place p) := by
  obtain ⟨front, blanks, hsteps, -, hslash, hwalk⟩ := hend.steps
  obtain rfl := hslash rfl
  refine bind_eq_ok.2 ⟨(), hend.checkText, ?_⟩
  rw [hend.place_eq] at hthere ⊢
  rw [hsteps]
  refine walk_append_eq_ok.2 ⟨loc, hwalk, walk_cons_eq_ok.2
    ⟨reachesDirectory_of_isDirectoryAt hend.isDirectoryAt, fun _ _ => ⟨hend.length_le, hthere⟩, ?_⟩⟩
  obtain ⟨n, hn⟩ := Option.isSome_iff_exists.1 hthere
  rw [advance_name loc hend.isIdle hend.ne_back, walk, reached?_of_get? hn]
  rfl

theorem EndsIn.contains (hend : t.EndsIn p loc name false)
    (hthere : (t.get? (t.place p)).isSome = true) : t.contains p = true :=
  contains_iff.2 ⟨_, hend.resolve hthere⟩

theorem EndsIn.readFile (hend : t.EndsIn p loc name false)
    (hfile : t.get? (t.place p) = some (.file content)) : t.readFile p = .ok content := by
  rw [FileTree.readFile, hend.resolve (Option.isSome_of_eq_some hfile), ok_bind,
    reached?_of_get? hfile]

theorem unsnoc?_concat {α : Type} (as : List α) (a : α) :
    unsnoc? (as ++ [a]) = some (as, a) := by
  induction as with
  | nil => rfl
  | cons b bs ih =>
    cases bs with
    | nil => rfl
    | cons c cs =>
      rw [List.cons_append, List.cons_append] at *
      rw [unsnoc?, ih]
      · rfl
      · exact List.cons_ne_nil _ _

theorem EndsIn.resolveLast (hend : t.EndsIn p loc name false) :
    t.resolveLast p = .ok (loc, .name name false) := by
  obtain ⟨front, blanks, hsteps, -, hslash, hwalk⟩ := hend.steps
  obtain rfl := hslash rfl
  have hidle := hend.isIdle
  rw [Path.isIdle, Bool.or_eq_false_iff, beq_eq_false_iff_ne, beq_eq_false_iff_ne] at hidle
  have hshown : ((front ++ [name]).reverse.dropWhile (· == "")).reverse = front ++ [name] := by
    rw [List.reverse_append, List.reverse_singleton, List.singleton_append,
      List.dropWhile_cons_of_neg (by simpa using hidle.1), List.reverse_cons,
      List.reverse_reverse]
  have hthere : ¬(t.get? loc).isNone = true := by
    rw [Option.isNone_iff_eq_none]
    exact Option.isSome_iff_ne_none.1 (isSome_of_isDirectoryAt hend.isDirectoryAt)
  rw [FileTree.resolveLast, hend.checkText, ok_bind]
  dsimp only
  rw [hsteps, hshown, unsnoc?_concat]
  dsimp only
  rw [hwalk, ok_bind, reachesDirectory_of_isDirectoryAt hend.isDirectoryAt, if_neg (by decide),
    if_neg hidle.2, if_neg hend.ne_back, if_neg hthere,
    if_neg (Nat.not_lt.2 hend.length_le), bne_self_eq_false]

/-- A file can be written at the end of a path unless a directory is there. -/
theorem EndsIn.writeFile (hend : t.EndsIn p loc name false)
    (hfree : t.isDirectoryAt (t.place p) = false) (content : String) :
    ∃ t', t.writeFile p content = .ok t' := by
  rw [hend.place_eq] at hfree
  have hloc : t.fileLocation p = .ok (loc ++ [name]) := by
    rw [fileLocation, hend.resolveLast, ok_bind]
    dsimp only
    rw [hfree]
    rfl
  exact ⟨_, writeFile_eq_ok_iff.2 ⟨_, hloc, rfl⟩⟩

/-- A file can be moved onto the end of a path unless a directory is there. -/
theorem EndsIn.moveFile (hend : t.EndsIn q loc name false) {from_ : Location} {name' : String}
    (hsource : t.EndsIn p from_ name' false)
    (hfile : t.get? (t.place p) = some (.file content))
    (hfree : t.isDirectoryAt (t.place q) = false) : ∃ t', t.moveFile p q = .ok t' := by
  rw [hend.place_eq] at hfree
  rw [hsource.place_eq] at hfile
  have hmove : t.moveFile p q = .ok { t with
      root := (t.root.erase (from_ ++ [name'])).put (loc ++ [name]) (.file content) } := by
    rw [FileTree.moveFile, hsource.resolveLast, hend.resolveLast, ok_bind]
    dsimp only
    rw [ok_bind]
    dsimp only
    rw [hfile]
    dsimp only
    rw [hfree]
    rfl
  exact ⟨_, hmove⟩

/-- A file that was moved elsewhere is no longer where it was. -/
theorem seen?_of_moveFile (h : t.moveFile p q = .ok t')
    (hfile : t.get? (t.place p) = some (.file content)) (hne : t.place p ≠ t.place q) :
    t'.seen? (t.place p) = none := by
  obtain ⟨⟨from_, last⟩, hfrom, h⟩ := bind_eq_ok.1 h
  obtain ⟨⟨to_, last'⟩, hto, h⟩ := bind_eq_ok.1 h
  cases last with
  | dot => cases h
  | dotDot => cases h
  | root => cases h
  | name name slash =>
  cases last' with
  | dot => cases h
  | dotDot => cases h
  | root => cases h
  | name name' slash' =>
  rw [(resolveLast_name hfrom).place_eq] at hfile hne ⊢
  rw [(resolveLast_name hto).place_eq] at hne
  dsimp only at h
  rw [hfile] at h
  dsimp only at h
  split at h
  · cases h
  split at h
  · cases h
  next hnot =>
  obtain rfl := Except.ok.inj h
  refine (Node.editsDown_put _).seen?_of_not_below ?_ _ |>.trans ?_
  · -- the file would stand below something that is no directory
    rintro ⟨rest, hrest⟩
    have hrest' : rest ≠ [] := fun e => hne (by rw [← hrest, e, List.append_nil])
    refine hnot (isDirectoryAt_of_append hrest' ?_)
    rw [hrest, hfile]
    rfl
  · exact Node.seen?_eq_none.2 (Node.get?_erase_self _ (List.concat_ne_nil _ _))

/-! ### Directories that were made -/

theorem isDirectory_of_makeDirectory (hg : t.Grounded) (h : t.makeDirectory p = .ok t') :
    t'.isDirectory p = true := by
  have hext := (changesOnly_makeDirectory h).toExtends
  have hmade := isDirectoryAt_iff_seen?.2 (makeDirectory_eq_ok h).2.1
  obtain ⟨⟨loc, last⟩, hlast, h⟩ := bind_eq_ok.1 h
  cases last with
  | dot => cases h
  | dotDot => cases h
  | root => cases h
  | name name slash =>
  have hend := (resolveLast_name hlast).later hext hg
  obtain ⟨front, blanks, hsteps, hblank, -, hwalk⟩ := hend.steps
  have hplace := hend.place_eq
  rw [isDirectory_iff (hext.grounded hg), hext.place]
  rw [hext.place] at hplace
  refine ⟨contains_iff.2 ⟨t.place p, bind_eq_ok.2 ⟨(), hend.checkText, ?_⟩⟩, hmade⟩
  rw [hplace] at hmade ⊢
  rw [hsteps]
  refine walk_append_eq_ok.2 ⟨loc, hwalk, walk_cons_eq_ok.2
    ⟨reachesDirectory_of_isDirectoryAt hend.isDirectoryAt,
      fun _ _ => ⟨hend.length_le, isSome_of_isDirectoryAt hmade⟩, ?_⟩⟩
  rw [advance_name loc hend.isIdle hend.ne_back]
  clear hsteps
  induction blanks with
  | nil =>
    obtain ⟨entries, hentries⟩ := isDirectoryAt_iff.1 hmade
    rw [walk, reached?_of_get? hentries]
    rfl
  | cons b bs ih =>
    obtain ⟨rfl, hbs⟩ := List.forall_mem_cons.1 hblank
    exact walk_cons_eq_ok.2 ⟨reachesDirectory_of_isDirectoryAt hmade,
      fun hidle => absurd hidle (by decide), ih hbs⟩

section

variable {make : FileTree → Path → Except FileFault FileTree} (hmakes : Makes make)

include hmakes

theorem isDirectory_of_ensureDirectory (hg : t.Grounded) (h : t.ensureDirectory make p = .ok t') :
    t'.isDirectory p = true := by
  rw [ensureDirectory] at h
  split at h
  · next hmake =>
    obtain rfl := Except.ok.inj h
    exact isDirectory_of_makeDirectory hg (hmakes hmake)
  · split at h
    · next hdir =>
      obtain rfl := Except.ok.inj h
      exact hdir
    · cases h

theorem extends_of_makeMissing {ps : List Path} {r : Except FileFault Unit}
    (h : t.makeMissing make ps = (t', r)) : t.Extends t' := by
  have hmade := makeMissing_of_makeDirectory hmakes Extends.refl (fun _ _ _ => Extends.trans)
    (fun _ (_ : _ ∈ ps) _ _ hmake => (changesOnly_makeDirectory hmake).toExtends) t
  rwa [h] at hmade

/-- A directory that was made, with the missing ones above it, is there. -/
theorem isDirectory_of_makeDirectories (hg : t.Grounded) (hp : p ≠ Path.empty)
    (h : t.makeDirectories p make = (t', .ok ())) : t'.isDirectory p = true := by
  rw [makeDirectories, if_neg hp, upwards, makeMissing] at h
  split at h
  · next hfirst =>
    obtain rfl := congrArg Prod.fst h
    exact isDirectory_of_ensureDirectory hmakes hg hfirst
  · split at h
    · cases h
    · next habove =>
      split at h
      · next hlast =>
        obtain rfl := congrArg Prod.fst h
        exact isDirectory_of_ensureDirectory hmakes
          ((extends_of_makeMissing hmakes habove).grounded hg) hlast
      · cases h
  · cases h

/-- A directory that is there need not be made. -/
theorem makeDirectories_of_isDirectory (hg : t.Grounded) (h : t.isDirectory p = true) :
    t.makeDirectories p make = (t, .ok ()) := by
  have hensure : t.ensureDirectory make p = .ok t := by
    rw [ensureDirectory]
    cases hmake : make t p with
    | ok t₁ =>
      have hdir := isDirectoryAt_iff_seen?.1 ((isDirectory_iff hg).1 h).2
      cases (makeDirectory_eq_ok (hmakes hmake)).1.symm.trans hdir
    | error f => exact if_pos h
  rw [makeDirectories]
  split
  · rfl
  · rw [upwards, makeMissing, hensure]

end

end ApiProxy.FileTree
