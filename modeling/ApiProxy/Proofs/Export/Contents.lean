import ApiProxy.Proofs.Export.Settled

/-!
# What an export puts into an empty directory

An export into a place where nothing stands leaves contents that depend on the exported files
alone. If no file is in the way of another, these are exactly the files with the directories that
lead to them. A file is in the way of one with another content at the same place, and of one below
its place: where a directory stands already, a file that is written once is taken to be there.

## Main definitions

* `Contents`: what stands below a directory.
* `FileTree.contentsAt`: what is seen below a location.
* `Contents.put`, `Contents.add`: the contents after a file was put, or exported.
* `Contents.Exactly`: some files and the directories that lead to them, and nothing else.
* `FileTree.Shows`: given contents are seen below a base.

## Main results

* `Contents.exactly_iff`: when exported files make up exactly what is there.
* `Job.shows_of_exportFile`, `Job.shows_of_exportFiles`: what exports make of contents.
-/

namespace ApiProxy

open FileTree

/-! ### Contents -/

/-- What stands below a directory at the end of names: nothing, a directory, or a file with its
content. -/
abbrev Contents := Location → Option (Option String)

/-- A file below a directory: the names that lead there, and its content. -/
abbrev FileEntry := Location × String

/-- A generated file below its base. -/
def SourceFile.entry (f : SourceFile) : FileEntry := (pathNames f.path, f.content)

theorem SourceFile.IsUsual.not_ends_pathNames {f : SourceFile} (hf : f.IsUsual) :
    ¬Ends (pathNames f.path) temporaryEnding := by
  obtain ⟨s, hs⟩ := hf.path
  rw [hs]
  exact not_ends_of_ends (ends_pathNames s f.kind.isEnding) (by cases f.kind <;> decide)

/-- No file is in the way of another. -/
def FileEntry.Clashless (es : List FileEntry) : Prop :=
  ∀ e ∈ es, ∀ e' ∈ es, e.1 <+: e'.1 → e = e'

instance (es : List FileEntry) : Decidable (FileEntry.Clashless es) :=
  inferInstanceAs (Decidable (∀ e ∈ es, ∀ e' ∈ es, _))

/-- What is seen below a location. -/
def FileTree.contentsAt (t : FileTree) (loc : Location) : Contents := fun names =>
  t.seen? (loc ++ names)

namespace Contents

/-- There is nothing. -/
def vacant : Contents := fun _ => none

/-- A file is put there, and the directories that lead to it. -/
def put (c : Contents) (e : FileEntry) : Contents := fun loc =>
  if loc = e.1 then some (some e.2) else if loc <+: e.1 then some none else c loc

/-- A generated file is exported: if it is to be written once and something is there, nothing is
done. -/
def add (c : Contents) (f : SourceFile) : Contents :=
  if f.policy = .createOnce ∧ c f.entry.1 ≠ none then c else c.put f.entry

/-- What the export of some files leaves. -/
def ofFiles (fs : List SourceFile) : Contents := fs.foldl add vacant

/-- Nothing is there but some of the given files and directories that lead to them. -/
structure MadeOf (c : Contents) (es : List FileEntry) : Prop where
  leads (loc : Location) (h : c loc ≠ none) : ∃ e ∈ es, loc <+: e.1
  file (loc : Location) (content : String) (h : c loc = some (some content)) : (loc, content) ∈ es

/-- The given files are there with the directories that lead to them, and nothing else. -/
structure Exactly (c : Contents) (es : List FileEntry) : Prop extends MadeOf c es where
  stands (e : FileEntry) (he : e ∈ es) : c e.1 = some (some e.2)
  directory (e : FileEntry) (he : e ∈ es) (loc : Location) (hloc : loc <+: e.1) (hne : loc ≠ e.1) :
    c loc = some none

variable {c : Contents} {e : FileEntry} {es es' : List FileEntry} {loc : Location}
  {f : SourceFile}

theorem put_self (c : Contents) (e : FileEntry) : c.put e e.1 = some (some e.2) := if_pos rfl

theorem put_above (c : Contents) (h : loc <+: e.1) (hne : loc ≠ e.1) :
    c.put e loc = some none := by
  rw [put, if_neg hne, if_pos h]

theorem put_apart (c : Contents) (h : ¬loc <+: e.1) : c.put e loc = c loc := by
  have hne : loc ≠ e.1 := fun heq => h (heq ▸ List.prefix_rfl)
  rw [put, if_neg hne, if_neg h]

theorem eq_or_of_put {content : String} (h : c.put e loc = some (some content)) :
    (loc, content) = e ∨ c loc = some (some content) := by
  by_cases habove : loc <+: e.1
  · by_cases hself : loc = e.1
    · subst hself
      rw [put_self] at h
      obtain rfl := Option.some.inj (Option.some.inj h)
      exact .inl rfl
    · cases (put_above c habove hself).symm.trans h
  · exact .inr ((put_apart c habove).symm.trans h)

theorem MadeOf.mono (h : c.MadeOf es) (hsub : es ⊆ es') : c.MadeOf es' where
  leads loc hloc := (h.leads loc hloc).imp fun _ => And.imp_left fun he => hsub he
  file loc content hloc := hsub (h.file loc content hloc)

theorem MadeOf.put (h : c.MadeOf es) (e : FileEntry) : (c.put e).MadeOf (es ++ [e]) where
  leads loc hloc := by
    by_cases habove : loc <+: e.1
    · exact ⟨e, List.mem_concat_self, habove⟩
    · rw [put_apart c habove] at hloc
      exact (h.leads loc hloc).imp fun _ => And.imp_left (List.mem_append_left _)
  file loc content hloc := by
    rcases eq_or_of_put hloc with rfl | hloc
    · exact List.mem_concat_self
    · exact List.mem_append_left _ (h.file loc content hloc)

theorem MadeOf.add (h : c.MadeOf es) (f : SourceFile) : (c.add f).MadeOf (es ++ [f.entry]) := by
  rw [Contents.add]
  split
  · exact h.mono (List.subset_append_left _ _)
  · exact h.put f.entry

theorem madeOf_ofFiles (fs : List SourceFile) : (ofFiles fs).MadeOf (fs.map (·.entry)) := by
  induction fs using List.reverseRecOn with
  | nil => exact ⟨fun _ h => absurd rfl h, nofun⟩
  | append_singleton fs f ih =>
    rw [ofFiles, List.foldl_concat, List.map_append]
    exact ih.add f

/-! ### Files that are not in the way of each other -/

theorem clashless_of_append (h : FileEntry.Clashless (es ++ es')) : FileEntry.Clashless es :=
  fun e he e' he' => h e (List.mem_append_left _ he) e' (List.mem_append_left _ he')

theorem Exactly.mono (h : c.Exactly es) (hsub : es ⊆ es') (hsup : es' ⊆ es) : c.Exactly es' where
  toMadeOf := h.toMadeOf.mono hsub
  stands e he := h.stands e (hsup he)
  directory e he := h.directory e (hsup he)

theorem Exactly.put (h : c.Exactly es) (hclash : FileEntry.Clashless (es ++ [e])) :
    (c.put e).Exactly (es ++ [e]) := by
  refine ⟨h.toMadeOf.put e, fun e' he' => ?_, fun e' he' loc hloc hne => ?_⟩
  · by_cases habove : e'.1 <+: e.1
    · obtain rfl := hclash e' he' e List.mem_concat_self habove
      exact put_self c e'
    · rw [put_apart c habove]
      rcases List.mem_append.1 he' with he' | he'
      · exact h.stands e' he'
      · exact absurd (List.mem_singleton.1 he' ▸ List.prefix_rfl) habove
  · by_cases habove : loc <+: e.1
    · refine put_above c habove fun hself => hne ?_
      rw [hself, hclash e List.mem_concat_self e' he' (hself ▸ hloc)]
    · rw [put_apart c habove]
      rcases List.mem_append.1 he' with he' | he'
      · exact h.directory e' he' loc hloc hne
      · exact absurd (List.mem_singleton.1 he' ▸ hloc) habove

theorem Exactly.add (h : c.Exactly es) (hclash : FileEntry.Clashless (es ++ [f.entry])) :
    (c.add f).Exactly (es ++ [f.entry]) := by
  rw [Contents.add]
  split
  · next hkept =>
    -- what is there leads to an earlier file, so it is the file itself
    obtain ⟨e, he, habove⟩ := h.leads _ hkept.2
    obtain rfl := hclash f.entry List.mem_concat_self e (List.mem_append_left _ he) habove
    refine h.mono (List.subset_append_left _ _) (List.append_subset.2 ⟨List.Subset.refl _, ?_⟩)
    exact List.cons_subset.2 ⟨he, List.nil_subset _⟩
  · exact h.put hclash

theorem exactly_ofFiles {fs : List SourceFile}
    (hclash : FileEntry.Clashless (fs.map (·.entry))) :
    (ofFiles fs).Exactly (fs.map (·.entry)) := by
  induction fs using List.reverseRecOn with
  | nil => exact ⟨⟨fun _ h => absurd rfl h, nofun⟩, nofun, nofun⟩
  | append_singleton fs f ih =>
    rw [List.map_append, List.map_singleton] at hclash ⊢
    rw [ofFiles, List.foldl_concat]
    exact (ih (clashless_of_append hclash)).add hclash

theorem Exactly.clashless (h : c.Exactly es) : FileEntry.Clashless es := by
  intro e he e' he' habove
  have hstands := h.stands e he
  by_cases hsame : e.1 = e'.1
  · rw [hsame, h.stands e' he', Option.some.injEq, Option.some.injEq] at hstands
    exact Prod.ext hsame hstands.symm
  · cases (h.directory e' he' e.1 habove hsame).symm.trans hstands

/-- Exported files and then another one make up exactly what is there if and only if none of them is
in the way of another. -/
theorem exactly_iff (fs : List SourceFile) (e : FileEntry) :
    ((ofFiles fs).put e).Exactly (fs.map (·.entry) ++ [e]) ↔
      FileEntry.Clashless (fs.map (·.entry) ++ [e]) :=
  ⟨Exactly.clashless, fun hclash =>
    (exactly_ofFiles (clashless_of_append hclash)).put hclash⟩

end Contents

/-! ### What is seen below a base -/

namespace FileTree

variable {t t' : FileTree} {base p : Path} {c : Contents} {names : Location}

/-- The directories are there that a base names before its last `..`. -/
def Approaches (t : FileTree) (base : Path) : Prop :=
  ∃ init tail, base.lead = init ++ tail ∧ ".." ∉ tail ∧ t.StandsAlong (t.start base) init

theorem Approaches.later (h : t.Approaches base) (hext : t.Extends t') : t'.Approaches base := by
  obtain ⟨init, tail, hlead, hback, hstands⟩ := h
  exact ⟨init, tail, hlead, hback, hext.start base ▸ hext.standsAlong hstands⟩

/-- Given contents are seen below a base. None of the files is named like a temporary file, and if
something is there, the base has been entered. -/
structure Shows (t : FileTree) (base : Path) (c : Contents) : Prop where
  approaches : t.Approaches base
  seen (names : Location) (hne : names ≠ []) : t.seen? (t.place base ++ names) = c names
  lasting (names : Location) (content : String) (h : c names = some (some content)) :
    ¬Ends names temporaryEnding
  entered (names : Location) (h : c names ≠ none) : Entered base t

/-- A path that ends in a name leads to something that exists, if it leads to something. -/
theorem seen?_of_contains {front : List String} {name : String} (hparts : p.parts = front ++ [name])
    (hidle : Path.isIdle name = false) (hback : name ≠ "..") (h : t.contains p = true) :
    t.seen? (t.place p) ≠ none := by
  obtain ⟨loc, hresolve⟩ := contains_iff.1 h
  obtain ⟨-, -, hwalk⟩ := bind_eq_ok.1 hresolve
  have hsteps : steps p = steps ⟨p.anchor, front⟩ ++ [name] := by
    rw [← Path.steps_append, ← hparts]
  rw [hsteps] at hwalk
  obtain ⟨loc₁, hfront, hlast⟩ := walk_append_eq_ok.1 hwalk
  obtain rfl := walk_eq_ok hfront
  have hsome := ((walk_cons_eq_ok.1 hlast).2.1 hidle hback).2
  rw [place, hsteps, follow_append, ← Option.isSome_iff_ne_none, isSome_seen?]
  change (t.get? (advance _ name)).isSome = true
  rw [advance_name _ hidle hback]
  exact hsome

/-- A file that was put below a base is seen there, and directories lead to it. -/
theorem seen?_eq_put {content : String} {loc : Location}
    (hseen : ∀ names ≠ [], t.seen? (loc ++ names) = c names)
    (hfile : t'.get? (loc ++ names) = some (.file content))
    (hother : ∀ other ≠ [], ¬other <+: names → t'.seen? (loc ++ other) = t.seen? (loc ++ other))
    (other : Location) (hne : other ≠ []) :
    t'.seen? (loc ++ other) = c.put (names, content) other := by
  by_cases habove : other <+: names
  · obtain ⟨rest, rfl⟩ := habove
    by_cases hrest : rest = []
    · subst hrest
      rw [List.append_nil] at hfile ⊢
      rw [c.put_self (other, content)]
      exact Node.seen?_eq_some_some.2 hfile
    · rw [c.put_above (List.prefix_append _ _) fun heq => hrest (List.self_eq_append_right.1 heq)]
      refine isDirectoryAt_iff_seen?.1 (isDirectoryAt_of_append hrest ?_)
      rw [List.append_assoc]
      exact Option.isSome_of_eq_some hfile
  · rw [c.put_apart habove, hother other hne habove, hseen other hne]

end FileTree

namespace Job

variable {o : ExportOptions} {base p : Path} {f : SourceFile} {fs : List SourceFile}
  {c : Contents} {w w' : World}

/-- Making room below a base makes directories above the place of the path. -/
theorem spares_makeRoom_of_approaches (h : w.tree.Approaches base)
    (hanchor : p.anchor = base.anchor) {rest : List String} (hsteps : steps p = base.lead ++ rest)
    (hback : ".." ∉ rest) :
    w.tree.Spares (fun _ => False) (· <+: w.tree.place p) ((makeRoom p).perform w).2.tree := by
  obtain ⟨init, tail, hlead, htail, hstands⟩ := h
  rw [hlead, List.append_assoc] at hsteps
  refine spares_makeRoom_of_standsAlong hsteps (fun hmem => ?_) ?_
  · exact (List.mem_append.1 hmem).elim htail hback
  · rw [start_eq_of_anchor w.tree hanchor]
    exact hstands

/-- A generated file that is written is put below the base. -/
theorem shows_of_write {names : Location} {name : String} {w₁ : World}
    (hput : f.PutBelow base p names name) (hp : locate base f.path = .ok p)
    (hbase : base ≠ Path.empty) (hf : f.IsUsual) (h : w.tree.Shows base c)
    (hext : w.tree.Extends w'.tree) (hentered : Entered base w'.tree)
    (hroom : (makeRoom p).perform w = (.ok (), w₁))
    (hwrite : (write true p f.content).perform w₁ = (.ok (), w')) :
    w'.tree.Shows base (c.put f.entry) := by
  obtain ⟨hanchor, rest, last, hsteps, hback⟩ := steps_locate hbase hp
  have hspares := spares_makeRoom_of_approaches h.approaches hanchor hsteps hback
  have hext₁ := (perform_makeRoom p w).toExtends
  rw [hroom] at hspares hext₁
  obtain ⟨htemporary, hfile, hvacant, hspares⟩ := puts_of_write hext₁ hspares hwrite
  rw [hput.temporary_eq] at htemporary hvacant hspares
  rw [hput.place_eq, ← hput.pathNames_eq] at hfile hspares
  have hends : Ends (names ++ [name ++ temporaryEnding]) temporaryEnding :=
    ⟨names, _, rfl, by rw [String.toList_append]; exact List.suffix_append _ _⟩
  have hnone : w.tree.seen? (w.tree.place base ++ (names ++ [name ++ temporaryEnding])) = none := by
    rw [h.seen _ (List.concat_ne_nil _ _)] at htemporary ⊢
    cases hc : c (names ++ [name ++ temporaryEnding]) with
    | none => rfl
    | some content? =>
      cases content? with
      | none => exact absurd hc htemporary
      | some content => exact absurd hends (h.lasting _ content hc)
  refine ⟨h.approaches.later hext, fun other hne => ?_, fun other content hother hends => ?_,
    fun _ _ => hentered⟩
  · rw [hext.place]
    refine seen?_eq_put h.seen hfile (fun other hne hnot => ?_) other hne
    by_cases htemp : other = names ++ [name ++ temporaryEnding]
    · rw [htemp, hvacant, hnone]
    have hapart : ¬(w.tree.place base ++ other = w.tree.place base ++ pathNames f.path ∨
        w.tree.place base ++ other =
          w.tree.place base ++ (names ++ [name ++ temporaryEnding])) := by
      rw [List.append_cancel_left_eq, List.append_cancel_left_eq, not_or]
      exact ⟨fun heq => hnot (heq ▸ List.prefix_rfl), htemp⟩
    exact (hspares.seen _ hapart).resolve_right fun hmade =>
      hnot ((List.prefix_append_right_inj _).1 hmade.1)
  · rcases Contents.eq_or_of_put hother with heq | hother
    · obtain rfl := congrArg Prod.fst heq
      exact hf.not_ends_pathNames hends
    · exact h.lasting other content hother hends

/-- The export of a file makes of the contents what it should. -/
theorem shows_of_exportFile {written : Bool} (hatomic : o.atomic = true) (hbase : base ≠ Path.empty)
    (hf : f.IsUsual) (h : w.tree.Shows base c)
    (hrun : (exportFile o base f).perform w = (.ok written, w')) :
    w'.tree.Shows base (c.add f) := by
  have hexported := perform_exportFile o base f w
  rw [hrun] at hexported
  obtain ⟨p, hp, hcases⟩ := exportFile_steps hrun
  obtain ⟨names, name, hput⟩ := hf.exists_putBelow hp
  have hplace : w.tree.place p = w.tree.place base ++ f.entry.1 :=
    (hput.place_eq w.tree).trans (congrArg _ hput.pathNames_eq.symm)
  have hne : f.entry.1 ≠ [] := by
    rw [SourceFile.entry, hput.pathNames_eq]
    exact List.concat_ne_nil _ _
  rw [Contents.add, ← h.seen _ hne, ← hplace]
  rcases hcases with ⟨-, hpolicy, hthere, htree⟩ | ⟨rfl, hnot, w₁, w₂, hroom, hwrite, htree⟩
  · obtain ⟨front, hparts⟩ := hput.parts
    have hsome := seen?_of_contains hparts hput.isIdle hput.ne_back hthere
    rw [if_pos ⟨hpolicy, hsome⟩, htree]
    exact h
  · rw [if_neg]
    · rw [hatomic] at hwrite
      have hext := hexported.extends
      have hentered := hexported.entered hbase
      rw [htree] at hext hentered ⊢
      exact shows_of_write hput hp hbase hf h hext hentered hroom hwrite
    · rintro ⟨hpolicy, hsome⟩
      -- a file that is to be written once would have been found
      cases hexported with
      | written p' _ hp' _ hwritten =>
        obtain rfl := Except.ok.inj (hp.symm.trans hp')
        refine hnot ⟨hpolicy, hwritten.contains hbase hp (h.entered f.entry.1 ?_) ?_⟩
        · rw [← h.seen _ hne, ← hplace]
          exact hsome
        · rw [← isSome_seen?]
          exact Option.isSome_iff_ne_none.2 hsome

/-- The export of several files, from the first to the last. -/
theorem shows_of_exportFiles {report : ExportReport} (hatomic : o.atomic = true)
    (hbase : base ≠ Path.empty) (hfs : ∀ f ∈ fs, f.IsUsual) (h : w.tree.Shows base c)
    (hrun : (exportFiles o base fs).perform w = (.ok report, w')) :
    w'.tree.Shows base (fs.foldl .add c) := by
  induction fs generalizing w c report with
  | nil =>
    obtain ⟨-, rfl⟩ := Prod.mk.inj hrun
    exact h
  | cons f fs ih =>
    obtain ⟨hf, hfs⟩ := List.forall_mem_cons.1 hfs
    obtain ⟨written, w₁, report', hfirst, hrest, -⟩ := exportFiles_cons_eq_ok hrun
    exact ih hfs (shows_of_exportFile hatomic hbase hf h hfirst) hrest

end Job

end ApiProxy
