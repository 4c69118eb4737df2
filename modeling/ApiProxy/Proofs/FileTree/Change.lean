import ApiProxy.Proofs.FileTree.Entries

/-!
# What operations keep

Making directories changes no file. Writing a file changes what stands at its place, moving one
changes what stands at the two places, and nothing else: directories stay directories, and the
other files keep their content.

## Main definitions

* `FileTree.ChangesOnly`: directories and the files outside of given locations stay.

## Main results

* `FileTree.changesOnly_makeDirectories`, `FileTree.changesOnly_writeFile`,
  `FileTree.changesOnly_moveFile`: what the operations keep that an export uses.
-/

namespace ApiProxy.FileTree

variable {t t' : FileTree} {p : Path} {P Q : Location → Prop}

/-- A later tree that has all directories of an earlier one, and with their content all its files
whose location does not have a property. -/
structure ChangesOnly (P : Location → Prop) (t t' : FileTree) : Prop extends Extends t t' where
  file (loc : Location) (content : String) (hloc : ¬P loc)
    (h : t.get? loc = some (.file content)) : t'.get? loc = some (.file content)

theorem ChangesOnly.refl (P : Location → Prop) (t : FileTree) : t.ChangesOnly P t :=
  ⟨.refl t, fun _ _ _ h => h⟩

theorem ChangesOnly.trans {t'' : FileTree} (h : t.ChangesOnly P t') (h' : t'.ChangesOnly P t'') :
    t.ChangesOnly P t'' :=
  ⟨h.toExtends.trans h'.toExtends, fun loc content hloc hfile =>
    h'.file loc content hloc (h.file loc content hloc hfile)⟩

theorem ChangesOnly.mono (h : t.ChangesOnly P t') (hPQ : ∀ loc, P loc → Q loc) :
    t.ChangesOnly Q t' :=
  ⟨h.toExtends, fun loc content hloc => h.file loc content fun hP => hloc (hPQ loc hP)⟩

/-- If only one file is changed, and stays a file, no file is taken away. -/
theorem ChangesOnly.filesStay {loc : Location} {content : String} (h : t.ChangesOnly (· = loc) t')
    (hfile : t'.get? loc = some (.file content)) : t.FilesStay t' := by
  intro other content' hother
  by_cases heq : other = loc
  · exact ⟨content, heq ▸ hfile⟩
  · exact ⟨content', h.file other content' heq hother⟩

theorem AgreesOff.changesOnly (h : t.AgreesOff P t')
    (hdir : ∀ loc, P loc → t.seen? loc = some none → t'.seen? loc = some none) :
    t.ChangesOnly P t' := by
  refine ⟨⟨h.current, fun loc hloc => ?_⟩, fun loc content hloc hfile => ?_⟩
  · rw [isDirectoryAt_iff_seen?] at hloc ⊢
    by_cases hP : P loc
    · exact hdir loc hP hloc
    · rw [h.seen loc hP, hloc]
  · refine Node.seen?_eq_some_some.1 ((h.seen loc hloc).trans ?_)
    exact Node.seen?_eq_some_some.2 hfile

/-! ### Operations -/

theorem changesOnly_makeDirectory (h : t.makeDirectory p = .ok t') :
    t.ChangesOnly (fun _ => False) t' := by
  obtain ⟨hnone, -, hagrees⟩ := makeDirectory_eq_ok h
  have hchanges : t.ChangesOnly (· = t.place p) t' := by
    refine hagrees.changesOnly ?_
    rintro loc rfl hdir
    cases hnone.symm.trans hdir
  refine ⟨hchanges.toExtends, fun loc content _ hfile => hchanges.file loc content ?_ hfile⟩
  rintro rfl
  cases hnone.symm.trans (Node.seen?_eq_some_some.2 hfile)

/-- Making directories changes no file, also where it stops half-way. -/
theorem changesOnly_makeDirectories {make : FileTree → Path → Except FileFault FileTree}
    (hmakes : Makes make) (t : FileTree) (p : Path) :
    t.ChangesOnly (fun _ => False) (t.makeDirectories p make).1 :=
  makeDirectories_of_makeDirectory hmakes (.refl _) (fun _ _ _ => .trans)
    (fun _ _ _ _ => changesOnly_makeDirectory) t

/-- Writing a file changes only the file. -/
theorem changesOnly_writeFile {content : String} (h : t.writeFile p content = .ok t') :
    t.ChangesOnly (· = t.place p) t' := by
  obtain ⟨-, hnot, -, hagrees⟩ := writeFile_eq_ok h
  refine hagrees.changesOnly ?_
  rintro loc rfl hdir
  exact absurd hdir hnot

/-- Moving a file changes only what stands at its place and where it goes. -/
theorem changesOnly_moveFile {q : Path} {content : String} (h : t.moveFile p q = .ok t')
    (hfile : t.get? (t.place p) = some (.file content)) :
    t.ChangesOnly (fun loc => loc = t.place p ∨ loc = t.place q) t' := by
  obtain ⟨-, hnot, -, hagrees⟩ := moveFile_eq_ok h hfile
  refine hagrees.changesOnly ?_
  rintro loc (rfl | rfl) hdir
  · cases (Node.seen?_eq_some_some.2 hfile).symm.trans hdir
  · exact absurd hdir hnot

end ApiProxy.FileTree
