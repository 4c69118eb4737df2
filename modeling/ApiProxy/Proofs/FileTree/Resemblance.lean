import ApiProxy.Proofs.FileTree.Lasting

/-!
# Trees in which the same is seen

A tree may hold the entries of a directory in any order, and an operation asks for nothing but what
is seen. So operations on trees in which the same is seen refuse for one reason, or lead to trees in
which the same is seen again. And a walk asks only for what is seen on its way: it goes on as before
when something has changed elsewhere.

## Main definitions

* `FileTree.Resembles`: the same is seen in two trees.
* `FileTree.Concur`: two operations end in the same way.

## Main results

* `FileTree.AgreesOff.walk_congr`, `FileTree.AgreesOff.endsIn`: walks and paths to which a change
  does not matter.
* `FileTree.Resembles.makeDirectories`, `FileTree.Resembles.writeFile`: operations on trees in which
  the same is seen.
-/

namespace ApiProxy.FileTree

variable {t t' : FileTree} {p : Path} {P : Location → Prop} {loc : Location} {name : String}

/-- The same is seen everywhere in two trees with one current directory. -/
abbrev Resembles (t t' : FileTree) : Prop := t.AgreesOff (fun _ => False) t'

/-- Two operations end in the same way: they refuse for one reason, or they lead to trees in which
the same is seen. -/
inductive Concur : Except FileFault FileTree → Except FileFault FileTree → Prop
  | ok {t t' : FileTree} (h : t.Resembles t') : Concur (.ok t) (.ok t')
  | error (f : FileFault) : Concur (.error f) (.error f)

/-! ### Walks that a change does not matter to -/

section

variable (h : t.AgreesOff P t')

include h

theorem AgreesOff.start (p : Path) : t'.start p = t.start p := by
  rw [FileTree.start, FileTree.start, h.current]

theorem AgreesOff.content?_reached? (hloc : ¬P loc) :
    (t'.reached? loc).map Node.content? = (t.reached? loc).map Node.content? := by
  have hseen : (t'.get? loc).map Node.content? = (t.get? loc).map Node.content? := h.seen loc hloc
  rw [reached?, reached?, Option.map_or, Option.map_or, hseen, h.current]

theorem AgreesOff.isSome_get? (hloc : ¬P loc) : (t'.get? loc).isSome = (t.get? loc).isSome := by
  rw [← isSome_seen?, ← isSome_seen?, h.seen loc hloc]

theorem AgreesOff.isDirectoryAt (hloc : ¬P loc) : t'.isDirectoryAt loc = t.isDirectoryAt loc := by
  rw [Bool.eq_iff_iff, isDirectoryAt_iff_seen?, isDirectoryAt_iff_seen?, h.seen loc hloc]

theorem AgreesOff.reachesDirectory (hloc : ¬P loc) :
    t'.reachesDirectory loc = t.reachesDirectory loc := by
  rw [Bool.eq_iff_iff, reachesDirectory_iff_seen?, reachesDirectory_iff_seen?, h.seen loc hloc,
    h.current]

/-- A walk depends only on what is seen on its way. -/
theorem AgreesOff.walk_congr {parts : List String}
    (hclear : ∀ front, front <+: parts → ¬P (follow loc front)) :
    t'.walk loc parts = t.walk loc parts := by
  induction parts generalizing loc with
  | nil =>
    have hloc : ¬P loc := hclear [] List.prefix_rfl
    have hmet := congrArg Option.isSome (h.content?_reached? hloc)
    rw [Option.isSome_map, Option.isSome_map] at hmet
    rw [walk, walk, hmet]
  | cons part parts ih =>
    have hloc : ¬P loc := hclear [] List.nil_prefix
    have hmet := h.content?_reached? hloc
    have hnext : t'.walk (advance loc part) parts = t.walk (advance loc part) parts :=
      ih fun front hfront => hclear (part :: front) (List.cons_prefix_cons.2 ⟨rfl, hfront⟩)
    have hthere : (t'.get? (advance loc part)).isSome = (t.get? (advance loc part)).isSome :=
      h.isSome_get? (hclear [part] (List.cons_prefix_cons.2 ⟨rfl, List.nil_prefix⟩))
    rw [walk, walk]
    generalize t.reached? loc = n at hmet ⊢
    generalize t'.reached? loc = n' at hmet ⊢
    -- what is met is nothing, a file, or a directory in both trees
    rcases n with _ | ⟨content⟩ | entries <;> rcases n' with _ | ⟨content'⟩ | entries' <;>
      try cases hmet
    · rfl
    · rfl
    · dsimp only
      rw [advance] at hnext hthere
      by_cases hidle : Path.isIdle part = true
      · rw [if_pos hidle] at hnext
        rw [if_pos hidle, if_pos hidle, hnext]
      rw [if_neg hidle] at hnext hthere
      rw [if_neg hidle, if_neg hidle]
      by_cases hback : part = ".."
      · rw [if_pos hback] at hnext
        rw [if_pos hback, if_pos hback, hnext]
      rw [if_neg hback] at hnext hthere
      rw [if_neg hback, if_neg hback, hnext, hthere]

/-- A path ends where it did if a change does not matter to the way to it. -/
theorem AgreesOff.endsIn (hend : t.EndsIn p loc name false)
    (hclear : ∀ front, front <+: steps p → front ≠ steps p → ¬P (follow (t.start p) front)) :
    t'.EndsIn p loc name false := by
  obtain ⟨front, blanks, hsteps, hblank, hslash, hwalk⟩ := hend.steps
  obtain rfl := hslash rfl
  have hway (front' : List String) (h' : front' <+: front) : ¬P (follow (t.start p) front') := by
    refine hclear front' (hsteps ▸ h'.trans (List.prefix_append _ _)) fun heq => ?_
    have hlength := h'.length_le
    rw [heq, hsteps, List.length_append, List.length_singleton] at hlength
    omega
  refine ⟨hend.checkText, ⟨front, [], hsteps, hblank, hslash, ?_⟩, ?_, hend.isIdle, hend.ne_back,
    hend.length_le⟩
  · rw [h.start, h.walk_congr hway, hwalk]
  · rw [h.isDirectoryAt, hend.isDirectoryAt]
    exact FileTree.walk_eq_ok hwalk ▸ hway front List.prefix_rfl

end

/-! ### Operations on trees in which the same is seen -/

section

variable (h : t.Resembles t')

include h

theorem Resembles.resolve (p : Path) : t'.resolve p = t.resolve p := by
  rw [FileTree.resolve, FileTree.resolve, h.start, h.walk_congr fun _ _ => not_false]

theorem Resembles.contains (p : Path) : t'.contains p = t.contains p := by
  rw [Bool.eq_iff_iff, contains_iff, contains_iff, h.resolve]

theorem Resembles.isDirectory (p : Path) : t'.isDirectory p = t.isDirectory p := by
  rw [FileTree.isDirectory, FileTree.isDirectory, find?, find?, h.resolve]
  cases t.resolve p with
  | error f => rfl
  | ok loc => exact h.reachesDirectory not_false

theorem Resembles.resolveLast (p : Path) : t'.resolveLast p = t.resolveLast p := by
  have hwalk (loc : Location) (parts : List String) : t'.walk loc parts = t.walk loc parts :=
    h.walk_congr fun _ _ => not_false
  have hdir (loc : Location) : t'.reachesDirectory loc = t.reachesDirectory loc :=
    h.reachesDirectory not_false
  have hnone (loc : Location) : (t'.get? loc).isNone = (t.get? loc).isNone := by
    rw [← Option.not_isSome, ← Option.not_isSome, h.isSome_get? not_false]
  simp only [FileTree.resolveLast, h.start, hwalk, hdir, hnone]

/-- Changes of one location that come to the same there. -/
theorem Resembles.of_agreesOff {t₁ t₁' : FileTree} (h₁ : t.AgreesOff (· = loc) t₁)
    (h₁' : t'.AgreesOff (· = loc) t₁') (hsame : t₁'.seen? loc = t₁.seen? loc) :
    t₁.Resembles t₁' := by
  refine ⟨h₁'.current.trans (h.current.trans h₁.current.symm), fun other _ => ?_⟩
  by_cases hother : other = loc
  · exact hother ▸ hsame
  · rw [h₁'.seen other hother, h₁.seen other hother, h.seen other not_false]

/-- A file or an empty directory is put into a directory. -/
theorem Resembles.put_leaf {value : Node} (hdir : t.isDirectoryAt loc = true)
    (hnot : t.seen? (loc ++ [name]) ≠ some none) (hleaf : ∀ m, value.child? m = none) :
    Resembles { t with root := t.root.put (loc ++ [name]) value }
      { t' with root := t'.root.put (loc ++ [name]) value } := by
  have hdir' : t'.isDirectoryAt loc = true := (h.isDirectoryAt not_false).trans hdir
  have hnot' : t'.seen? (loc ++ [name]) ≠ some none := h.seen _ not_false ▸ hnot
  refine h.of_agreesOff (agreesOff_put_leaf hdir hnot hleaf)
    (agreesOff_put_leaf hdir' hnot' hleaf) ?_
  exact congrArg (Option.map Node.content?)
    ((get?_put value hdir').trans (get?_put value hdir).symm)

theorem Resembles.makeDirectory (p : Path) : Concur (t.makeDirectory p) (t'.makeDirectory p) := by
  rw [FileTree.makeDirectory, FileTree.makeDirectory, h.resolveLast]
  cases hlast : t.resolveLast p with
  | error f => exact .error f
  | ok r =>
    obtain ⟨loc, last⟩ := r
    rw [ok_bind, ok_bind]
    cases last with
    | name name slash =>
      dsimp only
      rw [h.isSome_get? not_false]
      split
      · exact .error _
      · next hfree =>
        refine .ok (h.put_leaf (resolveLast_name hlast).isDirectoryAt ?_ fun _ => rfl)
        rw [seen?, Node.seen?_eq_none.2 (Option.not_isSome_iff_eq_none.1 hfree)]
        exact (Option.some_ne_none none).symm
    | dot => exact .error _
    | dotDot => exact .error _
    | root => exact .error _

theorem Resembles.fileLocation (p : Path) : t'.fileLocation p = t.fileLocation p := by
  have hdir (loc : Location) : t'.isDirectoryAt loc = t.isDirectoryAt loc :=
    h.isDirectoryAt not_false
  simp only [FileTree.fileLocation, h.resolveLast, hdir]

theorem Resembles.writeFile (p : Path) (content : String) :
    Concur (t.writeFile p content) (t'.writeFile p content) := by
  rw [FileTree.writeFile, FileTree.writeFile, h.fileLocation]
  cases hloc : t.fileLocation p with
  | error f => exact .error f
  | ok loc =>
    obtain ⟨rfl, ⟨above, name, hend⟩, hfree⟩ := fileLocation_eq_ok hloc
    rw [hend.place_eq] at hfree ⊢
    exact .ok (h.put_leaf hend.isDirectoryAt hfree fun _ => rfl)

end

/-! ### Missing directories -/

section

variable {make : FileTree → Path → Except FileFault FileTree}
  (hmake : ∀ {t t' : FileTree}, t.Resembles t' → ∀ p, Concur (make t p) (make t' p))

include hmake

theorem Resembles.ensureDirectory (h : t.Resembles t') (p : Path) :
    Concur (t.ensureDirectory make p) (t'.ensureDirectory make p) := by
  rw [FileTree.ensureDirectory, FileTree.ensureDirectory, h.isDirectory]
  have hmade := hmake h p
  generalize make t p = x at hmade ⊢
  generalize make t' p = x' at hmade ⊢
  cases hmade with
  | ok hsame => exact .ok hsame
  | error f =>
    dsimp only
    split
    · exact .ok h
    · exact .error f

/-- Missing directories are made alike, also as far as that comes when it stops half-way. -/
theorem Resembles.makeMissing (h : t.Resembles t') (ps : List Path) :
    (t.makeMissing make ps).1.Resembles (t'.makeMissing make ps).1 ∧
      (t'.makeMissing make ps).2 = (t.makeMissing make ps).2 := by
  induction ps generalizing t t' with
  | nil => exact ⟨h, rfl⟩
  | cons p above ih =>
    rw [FileTree.makeMissing, FileTree.makeMissing]
    have hensure := h.ensureDirectory hmake p
    generalize t.ensureDirectory make p = x at hensure ⊢
    generalize t'.ensureDirectory make p = x' at hensure ⊢
    cases hensure with
    | ok hsame => exact ⟨hsame, rfl⟩
    | error f =>
      cases f with
      | missing =>
        obtain ⟨habove, hresult⟩ := ih h
        dsimp only
        generalize t.makeMissing make above = y at habove hresult ⊢
        generalize t'.makeMissing make above = y' at habove hresult ⊢
        obtain ⟨t₁, r⟩ := y
        obtain ⟨t₁', r'⟩ := y'
        obtain rfl : r' = r := hresult
        cases r' with
        | error f => exact ⟨habove, rfl⟩
        | ok =>
          have hlast := Resembles.ensureDirectory hmake habove p
          dsimp only at hlast ⊢
          generalize t₁.ensureDirectory make p = z at hlast ⊢
          generalize t₁'.ensureDirectory make p = z' at hlast ⊢
          cases hlast with
          | ok hsame => exact ⟨hsame, rfl⟩
          | error f => exact ⟨habove, rfl⟩
      | _ => exact ⟨h, rfl⟩

theorem Resembles.makeDirectories (h : t.Resembles t') (p : Path) :
    (t.makeDirectories p make).1.Resembles (t'.makeDirectories p make).1 ∧
      (t'.makeDirectories p make).2 = (t.makeDirectories p make).2 := by
  rw [FileTree.makeDirectories, FileTree.makeDirectories]
  split
  · exact ⟨h, rfl⟩
  · exact h.makeMissing hmake _

end

end ApiProxy.FileTree
