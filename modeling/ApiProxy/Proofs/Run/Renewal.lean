import ApiProxy.Proofs.Export.Contents
import ApiProxy.Proofs.Run.Artifact

/-!
# Starting afresh

A removal and then a run that generates leave an output folder whose contents depend on the
description alone: nothing is left of what was in the folder before. The contents are exactly the
generated files, the copy of the description and the directories that lead to them, unless one of
the files is in the way of another. Then the run can come to its end without the file: two files are
put at the same place, or the stub of a service belongs where the path of another file has a folder.

## Main definitions

* `RunOptions.output`: the contents of the output folder.
* `RunOptions.outputEntries`: the files that belong into it.

## Main results

* `RunOptions.isDirectory_outputRoot`: whether the path of the output folder leads there.
* `Job.seen?_of_emit`: what the writing of a run leaves where nothing was.
* `Job.generate_afresh`: what a removal and a run leave.
-/

namespace ApiProxy

open FileTree

/-! ### Walks down to a directory -/

namespace FileTree

variable {t t' : FileTree} {p base : Path} {loc : Location} {parts : List String}

theorem isDirectoryAt_of_above {other : Location} (h : t.isDirectoryAt other = true)
    (hloc : loc <+: other) : t.isDirectoryAt loc = true := by
  obtain ⟨rest, rfl⟩ := hloc
  by_cases hrest : rest = []
  · rwa [hrest, List.append_nil] at h
  · exact isDirectoryAt_of_append hrest (isSome_of_isDirectoryAt h)

/-- A walk down to a directory succeeds, if no name on the way is too long. -/
theorem walk_of_isDirectoryAt (hback : ".." ∉ parts)
    (hshort : ∀ part ∈ parts, part.utf8ByteSize ≤ maxName)
    (h : t.isDirectoryAt (follow loc parts) = true) :
    t.walk loc parts = .ok (follow loc parts) := by
  induction parts generalizing loc with
  | nil =>
    obtain ⟨entries, hentries⟩ := isDirectoryAt_iff.1 h
    change t.get? loc = _ at hentries
    rw [walk, reached?_of_get? hentries]
    rfl
  | cons part parts ih =>
    have hdown : loc <+: follow loc (part :: parts) ∧
        advance loc part <+: follow loc (part :: parts) := by
      rw [List.mem_cons, not_or] at hback
      have honly : ".." ∉ [part] := fun hmem => hback.1 (List.mem_singleton.1 hmem)
      have hnext : advance loc part = _ := follow_eq_append honly loc
      rw [follow, List.foldl_cons, ← follow, follow_eq_append hback.2, hnext, List.append_assoc]
      exact ⟨List.prefix_append _ _, (List.prefix_append_right_inj _).2 (List.prefix_append _ _)⟩
    rw [List.mem_cons, not_or] at hback
    obtain ⟨hpart, hshort⟩ := List.forall_mem_cons.1 hshort
    refine walk_cons_eq_ok.2 ⟨?_, fun hidle hback => ⟨hpart, ?_⟩, ih hback.2 hshort h⟩
    · exact reachesDirectory_of_isDirectoryAt (isDirectoryAt_of_above h hdown.1)
    · rw [← advance_name loc hidle hback]
      exact isSome_of_isDirectoryAt (isDirectoryAt_of_above h hdown.2)

/-- A base can be approached if whoever follows its path is led to a directory before the last `..`
of the path. -/
theorem approaches_of_steps {init tail : List String} (hsteps : steps base = init ++ tail)
    (hback : ".." ∉ tail) (h : init = [] ∨ t.LeadsIn (t.start base) init) : t.Approaches base := by
  have hstands : t.StandsAlong (t.start base) init := by
    rcases h with rfl | h
    · exact standsAlong_nil t _
    · exact h.standsAlong
  have hlead := base.lead_prefix
  rw [hsteps] at hlead
  rcases List.prefix_or_prefix_of_prefix hlead (List.prefix_append init tail) with hinit | hinit
  · refine ⟨base.lead, [], (List.append_nil _).symm, List.not_mem_nil, fun front name hname => ?_⟩
    exact hstands front name (hname.trans hinit)
  · obtain ⟨more, hmore⟩ := hinit
    rw [← hmore, List.prefix_append_right_inj] at hlead
    exact ⟨init, more, hmore.symm, fun hmem => hback (hlead.subset hmem), hstands⟩

end FileTree

namespace Path

variable {p : Path} {part : String}

theorem mem_lead_of_mem_steps (h : part ∈ steps p) : part ∈ p.lead ∨ part = "" := by
  rw [lead, front]
  split
  · next hlast =>
    have hsteps : steps p = steps ⟨p.anchor, p.parts.dropLast⟩ ++ [""] := by
      rw [← steps_append, List.dropLast_append_getLast? _ hlast]
    rw [hsteps, List.mem_append, List.mem_singleton] at h
    exact h
  · exact .inl h

/-- The last of some parts follows what the others make. -/
theorem exists_intercalate_concat (parts : List String) : ∃ leading rest,
    leading = "/".intercalate parts ++ rest ∧
      ∀ part, "/".intercalate (parts ++ [part]) = leading ++ part := by
  induction parts with
  | nil => exact ⟨"", "", rfl, fun part => by simp [String.intercalate_singleton]⟩
  | cons first parts ih =>
    obtain ⟨leading, rest, hleading, hparts⟩ := ih
    cases parts with
    | nil =>
      exact ⟨first ++ "/", "/", by simp [String.intercalate_singleton],
        fun part => by simp [String.intercalate_cons_cons, String.intercalate_singleton]⟩
    | cons second parts =>
      refine ⟨first ++ "/" ++ leading, rest, ?_, fun part => ?_⟩
      · rw [String.intercalate_cons_cons, hleading]
        simp only [String.append_assoc]
      · have hpart := hparts part
        rw [List.cons_append] at hpart
        rw [List.cons_append, List.cons_append, String.intercalate_cons_cons, hpart]
        simp only [String.append_assoc]

theorem exists_intercalate_front (p : Path) (part : String) : ∃ rest,
    "/".intercalate (p.front ++ [part]) = "/".intercalate p.parts ++ rest := by
  obtain ⟨leading, rest, hleading, hparts⟩ := exists_intercalate_concat p.front
  rw [hparts]
  rw [front] at hleading hparts
  split at hparts
  · next hlast =>
    have hempty := hparts ""
    rw [List.dropLast_append_getLast? _ hlast, String.append_empty] at hempty
    exact ⟨part, by rw [hempty]⟩
  · next hlast =>
    rw [if_neg hlast] at hleading
    exact ⟨rest ++ part, by rw [hleading, String.append_assoc]⟩

theorem exists_text_join (hp : p ≠ empty) (hpart : slashParts part = [part]) :
    ∃ rest, (p.join part).text = p.text ++ rest := by
  rw [join_part hp hpart]
  obtain ⟨rest, hrest⟩ := p.exists_intercalate_front part
  obtain ⟨first, more, hparts⟩ := List.exists_cons_of_ne_nil (List.concat_ne_nil part p.front)
  rw [hparts] at hrest ⊢
  obtain ⟨anchor, parts⟩ := p
  cases anchor with
  | root => exact ⟨rest, (congrArg _ hrest).trans (String.append_assoc ..).symm⟩
  | bare => exact ⟨rest, hrest⟩
  | here =>
    cases parts with
    | nil =>
      refine ⟨"/" ++ "/".intercalate (first :: more), ?_⟩
      rw [← String.append_assoc]
      rfl
    | cons => exact ⟨rest, (congrArg _ hrest).trans (String.append_assoc ..).symm⟩

theorem checkText_of_join (hp : p ≠ empty) (hpart : slashParts part = [part])
    (h : checkText (p.join part) = .ok ()) : checkText p = .ok () := by
  obtain ⟨rest, htext⟩ := exists_text_join hp hpart
  rw [checkText, htext] at h
  split at h
  · cases h
  next hzero =>
  split at h
  · cases h
  split at h
  · cases h
  next hlong =>
  rw [checkText, if_neg, if_neg hp, if_neg]
  · rw [String.utf8ByteSize_append] at hlong
    omega
  · rw [String.toList_append, List.contains_append, Bool.or_eq_true, not_or] at hzero
    exact hzero.1

end Path

/-! ### The way to the output folder -/

namespace RunOptions

variable {o : RunOptions} {t t' : FileTree}

/-- The parts of the path of the output folder lead to the directory of the project or start at the
root, and then go back nowhere. -/
theorem exists_steps_outputRoot (hwork : o.workDirectory ≠ Path.empty)
    (hdir : t.isDirectory o.workDirectory = true)
    (hback : ".." ∉ slashParts (o.folder?.getD defaultFolder)) : ∃ init tail,
      steps o.outputRoot = init ++ tail ∧ ".." ∉ tail ∧
        (init = [] ∨ t.LeadsIn (t.start o.outputRoot) init) := by
  by_cases habsolute : (o.folder?.getD defaultFolder).toList.head? = some '/'
  · obtain ⟨hanchor, idle, hparts, -⟩ := Path.ofText_of_absolute habsolute
    have hroot : o.outputRoot = Path.ofText (o.folder?.getD defaultFolder) := by
      rw [outputRoot, Path.join, if_pos]
      rw [Bool.or_eq_true, decide_eq_true_eq]
      exact .inl habsolute
    have hsteps : steps o.outputRoot = (Path.ofText (o.folder?.getD defaultFolder)).parts := by
      rw [hroot, steps, hanchor]
      rfl
    refine ⟨[], _, hsteps, fun hmem => hback ?_, .inl rfl⟩
    rw [hparts]
    exact List.mem_cons_of_mem _ (List.mem_append_left _ hmem)
  · have hroot : o.outputRoot = ⟨o.workDirectory.anchor,
        o.workDirectory.front ++ slashParts (o.folder?.getD defaultFolder)⟩ := by
      rw [outputRoot, Path.join, if_neg]
      · rfl
      · rw [Bool.or_eq_true, decide_eq_true_eq, beq_iff_eq, not_or]
        exact ⟨habsolute, hwork⟩
    have hstart : t.start o.outputRoot = t.start o.workDirectory :=
      start_eq_of_anchor t (by rw [hroot])
    have hlead : steps o.outputRoot =
        o.workDirectory.lead ++ slashParts (o.folder?.getD defaultFolder) := by
      rw [hroot, Path.steps_append]
      rfl
    refine ⟨_, _, hlead, hback, .inr ?_⟩
    obtain ⟨hcontains, hreaches⟩ := reachesDirectory_of_isDirectory hdir
    obtain ⟨loc, hresolve⟩ := contains_iff.1 hcontains
    obtain ⟨-, -, hwalk⟩ := bind_eq_ok.1 hresolve
    obtain rfl : loc = t.place o.workDirectory := walk_eq_ok hwalk
    obtain ⟨rest, hrest⟩ := o.workDirectory.lead_prefix
    rw [hstart]
    have hleads : t.LeadsIn (t.start o.workDirectory) (o.workDirectory.lead ++ rest) := by
      rw [hrest]
      exact ⟨_, hwalk, hreaches⟩
    exact hleads.of_append

/-- The path of the output folder leads to the directory at its place, if the copy of the
description can be written into it later. -/
theorem isDirectory_outputRoot {loc : Location} {name : String} {init tail : List String}
    (hsteps : steps o.outputRoot = init ++ tail) (hback : ".." ∉ tail)
    (hinit : init = [] ∨ t.LeadsIn (t.start o.outputRoot) init)
    (hmodule : '/' ∉ o.moduleName.toList) (hend : t'.EndsIn o.artifactPath loc name false)
    (hdir : t.isDirectoryAt (t.place o.outputRoot) = true) : t.isDirectory o.outputRoot = true := by
  obtain ⟨-, hcopy⟩ := steps_artifactPath hmodule
  obtain ⟨-, hwalk⟩ := hend.front (hcopy.trans (List.append_assoc ..).symm)
  have hshort : ∀ part ∈ steps o.outputRoot, part.utf8ByteSize ≤ maxName := by
    intro part hpart
    rcases Path.mem_lead_of_mem_steps hpart with hpart | rfl
    · exact length_le_of_walk hwalk part (List.mem_append_left _ hpart)
    · exact Nat.zero_le _
  rw [hsteps] at hshort
  have hcheck : checkText o.outputRoot = .ok () :=
    Path.checkText_of_join o.outputRoot_ne_empty (slashParts_copy hmodule) hend.checkText
  have hwalk : t.walk (t.start o.outputRoot) (steps o.outputRoot) =
      .ok (t.place o.outputRoot) := by
    rw [place, hsteps] at hdir ⊢
    have htail : ∀ part ∈ tail, part.utf8ByteSize ≤ maxName :=
      fun part hpart => hshort part (List.mem_append_right _ hpart)
    rcases hinit with rfl | ⟨loc₁, hwalk₁, -⟩
    · exact walk_of_isDirectoryAt hback htail hdir
    · obtain rfl := walk_eq_ok hwalk₁
      rw [follow_append] at hdir ⊢
      exact walk_append_eq_ok.2 ⟨_, hwalk₁, walk_of_isDirectoryAt hback htail hdir⟩
  rw [isDirectory, find?, resolve, hcheck, ok_bind, hwalk]
  exact reachesDirectory_of_isDirectoryAt hdir

end RunOptions

/-! ### The contents of the output folder -/

namespace RunOptions

/-- The copy of the description in the output folder. -/
def copyEntry (o : RunOptions) (m : ApiDescription) : FileEntry :=
  ([o.moduleName ++ descriptionEnding], m.text)

/-- The files that belong into the output folder. -/
def outputEntries (o : RunOptions) (m : ApiDescription) : List FileEntry :=
  (o.files m).map (·.entry) ++ [o.copyEntry m]

/-- The contents of the output folder after a run into an empty one. -/
def output (o : RunOptions) (m : ApiDescription) : Contents :=
  (Contents.ofFiles (o.files m)).put (o.copyEntry m)

/-- If no controller has a slash in its name, a file is in the way of another only if it belongs to
the same place. -/
theorem clashless_outputEntries_iff {o : RunOptions} {m : ApiDescription}
    (hnames : ∀ c ∈ m.serviceControllers, '/' ∉ c.controllerName.toList) :
    FileEntry.Clashless (o.outputEntries m) ↔ ∀ f ∈ o.files m, ∀ g ∈ o.files m,
      pathNames f.path = pathNames g.path → f.content = g.content := by
  have hmem (f : SourceFile) (hf : f ∈ o.files m) : f.entry ∈ o.outputEntries m :=
    List.mem_append_left _ (List.mem_map_of_mem hf)
  have hends (f : SourceFile) (hf : f ∈ o.files m) : Ends (pathNames f.path) f.kind.ending := by
    obtain ⟨s, hs⟩ := (isUsual_of_mem_files hf).path
    rw [hs]
    exact ends_pathNames s f.kind.isEnding
  have hcopy : Ends (o.copyEntry m).1 descriptionEnding := by
    refine ⟨[], _, rfl, ?_⟩
    rw [String.toList_append]
    exact List.suffix_append _ _
  have hapart (f : SourceFile) (hf : f ∈ o.files m) : pathNames f.path ≠ (o.copyEntry m).1 := by
    intro heq
    refine not_ends_of_ends (hends f hf) ?_ (heq ▸ hcopy)
    cases f.kind <;> decide
  have hfolders (f : SourceFile) (hf : f ∈ o.files m) : DotlessFolders f.path :=
    dotlessFolders_of_mem_files hnames hf
  constructor
  · intro hclash f hf g hg heq
    have habove : pathNames f.path <+: pathNames g.path := heq ▸ List.prefix_rfl
    exact congrArg Prod.snd (hclash _ (hmem f hf) _ (hmem g hg) habove)
  · intro hsame e he e' he' habove
    rw [outputEntries, List.mem_append, List.mem_map, List.mem_singleton] at he he'
    rcases he with ⟨f, hf, rfl⟩ | rfl <;> rcases he' with ⟨g, hg, rfl⟩ | rfl
    · have hplace : pathNames f.path = pathNames g.path :=
        (hfolders g hg).eq_of_leads (hends f hf) (by cases f.kind <;> decide) habove
      exact Prod.ext hplace (hsame f hf g hg hplace)
    · have hname : f.entry.1 <+: [] ++ (o.copyEntry m).1 := habove
      rcases List.prefix_concat_iff.1 hname with heq | hnil
      · exact absurd heq (hapart f hf)
      · obtain ⟨front, name, hlast, -⟩ := hends f hf
        exact absurd (hlast.symm.trans (List.prefix_nil.1 hnil)) (List.concat_ne_nil _ _)
    · exact absurd ((hfolders g hg).eq_of_leads hcopy (by decide) habove).symm (hapart g hg)
    · rfl

end RunOptions

namespace Job

variable {o : RunOptions} {m : ApiDescription} {w w' : World} {report : ExportReport}
  {removal : RemovalSummary}

/-- A removal leaves nothing below the output folder, if the path of the folder leads to a directory
that is there. -/
theorem seen?_of_remove (h : (remove o).perform w = (.ok removal, w'))
    (hreach : w'.tree = w.tree → w.tree.isDirectoryAt (w.tree.place o.outputRoot) = true →
      w.tree.isDirectory o.outputRoot = true) :
    w'.tree.current = w.tree.current ∧
      ∀ names ≠ [], w'.tree.seen? (w.tree.place o.outputRoot ++ names) = none := by
  obtain ⟨hremoved, hkept, hgone⟩ := remove_eq_ok h
  cases hcase : removal.removed with
  | true =>
    obtain ⟨hagrees, hbelow, -⟩ := removeDirectory_eq_ok (hgone hcase)
    exact ⟨hagrees.current, fun names hne => hbelow _ (below_append hne)⟩
  | false =>
    have htree := hkept hcase
    refine ⟨by rw [htree], fun names hne => ?_⟩
    rw [htree]
    refine Node.seen?_append_of_ne hne fun hdir => ?_
    cases hcase.symm.trans (hremoved.trans (hreach htree (isDirectoryAt_iff_seen?.2 hdir)))

/-- The copy of the description is written at the end of its path. -/
theorem exists_endsIn_of_emit (h : (emit o m).perform w = (.ok report, w')) :
    ∃ (t : FileTree) (loc : Location) (name : String), t.EndsIn o.artifactPath loc name false := by
  obtain ⟨w₁, -, hsave⟩ := emit_eq_ok h
  obtain ⟨w₂, -, hwrite⟩ := saveDescription_steps hsave
  obtain ⟨⟨loc, name, hend⟩, -⟩ := writeFile_eq_ok hwrite
  exact ⟨w₂.tree, loc, name, hend⟩

/-- What the writing of a run leaves in an output folder with nothing in it. -/
theorem seen?_of_emit (hmodule : '/' ∉ o.moduleName.toList)
    (happroaches : w.tree.Approaches o.outputRoot)
    (hempty : ∀ names ≠ [], w.tree.seen? (w.tree.place o.outputRoot ++ names) = none)
    (h : (emit o m).perform w = (.ok report, w')) :
    w'.tree.contentsAt (w.tree.place o.outputRoot) = o.output m := by
  obtain ⟨w₁, hexport, hsave⟩ := emit_eq_ok h
  have husual (f : SourceFile) : f ∈ o.files m → f.IsUsual := RunOptions.isUsual_of_mem_files
  have hvacant : w.tree.Shows o.outputRoot .vacant :=
    ⟨happroaches, hempty, nofun, fun _ hne => absurd rfl hne⟩
  have hshows := shows_of_exportFiles rfl o.outputRoot_ne_empty husual hvacant hexport
  have hcurrent := (perform_exportFiles o.exporter o.outputRoot (o.files m) w).extends.current
  rw [hexport] at hcurrent
  rw [← place_congr hcurrent]
  obtain ⟨w₂, hroom, hwrite⟩ := saveDescription_steps hsave
  obtain ⟨hanchor, hsteps⟩ := RunOptions.steps_artifactPath hmodule
  have hsuffix : descriptionEnding.toList <:+ (o.moduleName ++ descriptionEnding).toList := by
    rw [String.toList_append]
    exact List.suffix_append _ _
  have hname := isName_of_suffix (by decide) hsuffix
  have hplace : w₁.tree.place o.artifactPath =
      w₁.tree.place o.outputRoot ++ (o.copyEntry m).1 := by
    rw [place, hsteps, start_eq_of_anchor w₁.tree hanchor, follow_append, Path.follow_lead]
    exact advance_name _ hname.1 hname.2
  have hspares := spares_makeRoom_of_approaches hshows.approaches hanchor hsteps
    fun hmem => hname.2 (List.mem_singleton.1 hmem).symm
  rw [hroom, hplace] at hspares
  obtain ⟨-, -, hfile, hagrees⟩ := writeFile_eq_ok hwrite
  rw [place_congr hspares.current, hplace] at hfile hagrees
  funext names
  by_cases hne : names = []
  · have hdir := isDirectoryAt_of_append (List.cons_ne_nil _ _) (Option.isSome_of_eq_some hfile)
    rw [hne, RunOptions.output, Contents.put_above _ List.nil_prefix (List.cons_ne_nil _ _).symm,
      FileTree.contentsAt, List.append_nil]
    exact isDirectoryAt_iff_seen?.1 hdir
  · refine seen?_eq_put hshows.seen hfile (fun other hother hnot => ?_) names hne
    have hsame := hagrees.seen _ fun heq =>
      hnot ((List.append_cancel_left heq) ▸ List.prefix_rfl)
    rw [hsame]
    exact (hspares.seen _ not_false).resolve_right fun hmade =>
      hnot ((List.prefix_append_right_inj _).1 hmade.1)

/-- A removal and then a run that generates, on whatever disks, leave an output folder whose
contents depend on the description alone: some of the generated files, the copy of the description,
and directories that lead to them. All of the files are there exactly if none of them is in the way
of another. If no controller has a slash in its name, only different files at one place are in the
way of each other. -/
theorem generate_afresh (o : RunOptions) (s : Source) (w w₁ w₂ w' : World) (disk disk' : Disk)
    (removal : RemovalSummary) (summary : GenerationSummary)
    (hback : ".." ∉ slashParts (o.folder?.getD defaultFolder))
    (hmodule : '/' ∉ o.moduleName.toList)
    (hremove : (remove o).perform w disk = (.ok removal, w₁)) (htree : w₂.tree = w₁.tree)
    (hcheck : o.check w₂.tree = .ok ())
    (hrun : (generate o s).perform w₂ disk' = (.ok summary, w')) :
    ∃ m, ((request o s).perform w₂).1 = .ok m ∧
      w'.tree.contentsAt (w.tree.place o.outputRoot) = o.output m ∧
      (o.output m).MadeOf (o.outputEntries m) ∧
      ((o.output m).Exactly (o.outputEntries m) ↔
        FileEntry.Clashless (o.outputEntries m)) ∧
      ((∀ c ∈ m.serviceControllers, '/' ∉ c.controllerName.toList) →
        (FileEntry.Clashless (o.outputEntries m) ↔ ∀ f ∈ o.files m, ∀ g ∈ o.files m,
          pathNames f.path = pathNames g.path → f.content = g.content)) := by
  replace hremove := (steady_remove o).perform_eq hremove
  obtain ⟨m, report, w₃, hrequest, hemit, -, htree'⟩ :=
    generate_eq_ok ((steady_generate o s).perform_eq hrun)
  refine ⟨m, hrequest, ?_, (Contents.madeOf_ofFiles _).put _, Contents.exactly_iff _ _,
    RunOptions.clashless_outputEntries_iff⟩
  obtain ⟨init, tail, hsteps, htail, hinit⟩ := RunOptions.exists_steps_outputRoot
    (RunOptions.check_eq_ok hcheck).1 (RunOptions.isDirectory_of_check hcheck) hback
  obtain ⟨t, loc, name, hend⟩ := exists_endsIn_of_emit hemit
  obtain ⟨hcurrent, hempty⟩ := seen?_of_remove hremove fun hkept hdir => by
    rw [htree, hkept] at hinit
    exact RunOptions.isDirectory_outputRoot hsteps htail hinit hmodule hend hdir
  rw [← htree] at hcurrent hempty
  rw [← place_congr hcurrent] at hempty ⊢
  rw [htree']
  exact seen?_of_emit hmodule (approaches_of_steps hsteps htail hinit) hempty hemit

end Job

/-! ### A stub in the place of a folder -/

/-- A service for books, and one with a name that has a folder in the place of the stub of the
first. -/
def shadowedDescription : ApiDescription :=
  let controller (name : String) : Controller :=
    ⟨name, none, true, false, none, "Acme.BookController", [⟨"Acme.IBookService", none, []⟩],
      .empty⟩
  ⟨.ofList [("app", ⟨"app", "Default", .ofList [("a", controller "BookClientProxy.cs/Other"),
    ("b", controller "Book")]⟩)], .empty⟩

/-- A project with a stub that somebody has changed. -/
def shadowedWorld : World where
  tree := ⟨.directory [("App.csproj", .file ""),
    ("out", .directory [("BookClientProxy.cs", .file "mine")])], []⟩
  network := .silent

/-- The options of a removal and of a run in this project. -/
def shadowedOptions : RunOptions where
  workDirectory := ⟨.here, []⟩
  givenFolder? := some "out"
  withoutContracts := true

/-- A removal in this project. -/
def shadowedRemoval : Except Failure RemovalSummary × World :=
  (Job.remove shadowedOptions).perform shadowedWorld

/-- A run after the removal. -/
def shadowedRun : Except Failure GenerationSummary × World :=
  (Job.generate shadowedOptions (.given "inline" (.ok shadowedDescription))).perform
    shadowedRemoval.2

/-- The stub that was changed is gone, but the run does not make a new one: a folder stands there.
-/
theorem Job.generate_afresh_shadowed :
    (∃ removal summary, shadowedRemoval.1 = .ok removal ∧ shadowedRun.1 = .ok summary) ∧
      shadowedRun.2.tree.contentsAt ["out"] = shadowedOptions.output shadowedDescription ∧
      shadowedRun.2.tree.contentsAt ["out"] ["BookClientProxy.cs"] = some none ∧
      ¬(shadowedRun.2.tree.contentsAt ["out"]).Exactly
        (shadowedOptions.outputEntries shadowedDescription) := by
  obtain ⟨hremoved, hgenerated, hcheck, hfolder, hclash⟩ : shadowedRemoval.1.isOk = true ∧
      shadowedRun.1.isOk = true ∧ shadowedOptions.check shadowedRemoval.2.tree = .ok () ∧
      shadowedRun.2.tree.contentsAt ["out"] ["BookClientProxy.cs"] = some none ∧
      ¬FileEntry.Clashless (shadowedOptions.outputEntries shadowedDescription) := by decide +kernel
  rcases hremoval : shadowedRemoval with ⟨e | removal, w₁⟩
  · rw [hremoval] at hremoved
    cases hremoved
  rcases hrun : shadowedRun with ⟨e | summary, w'⟩
  · rw [hrun] at hgenerated
    cases hgenerated
  rw [hremoval] at hcheck
  rw [hrun] at hfolder
  rw [shadowedRun, hremoval] at hrun
  obtain ⟨m, hrequest, hcontents, -, hexactly, -⟩ := generate_afresh shadowedOptions
    (.given "inline" (.ok shadowedDescription)) shadowedWorld w₁ w₁ w' .sound .sound removal summary
    (by decide) (by decide) hremoval rfl hcheck hrun
  obtain rfl : shadowedDescription = m := Except.ok.inj hrequest
  have hplace : shadowedWorld.tree.place shadowedOptions.outputRoot = ["out"] := by decide +kernel
  rw [hplace] at hcontents
  refine ⟨⟨removal, summary, rfl, rfl⟩, hcontents, hfolder, fun h => hclash ?_⟩
  exact hexactly.1 (hcontents ▸ h)

end ApiProxy
