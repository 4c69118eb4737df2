import ApiProxy.Proofs.Export.Confinement
import ApiProxy.Proofs.Export.Disks
import ApiProxy.Run

/-!
# What a removal takes away

A run that removes takes away the output folder with everything in it, and nothing else. The check
of the options looks at the directory of the project and at how the name of the folder is written,
not at where the folder is. So a removal keeps to the directory of the project exactly if there is
no such folder or if it is strictly below that directory, as the default folder is; a folder behind
`..`, an absolute one, or `.` may lead to anything else, also to the project itself.

## Main definitions

* `RunOptions.RemovesSafely`: what is taken away is inside of the directory of the project and
  belongs to the output folder, and the project files stay.

## Main results

* `FileTree.removeDirectory_eq_ok`: what is left when a directory has been removed.
* `RunOptions.below_outputRoot`: an output folder that is below the directory of the project.
* `Job.remove_safe_iff`: what a removal takes away, and when it is safe.
-/

namespace ApiProxy

open FileTree

namespace FileTree

variable {t t' : FileTree} {p : Path}

/-! ### Removing a directory -/

/-- A path that leads to an entry has a last part that can be looked up. -/
theorem resolveLast_ne_missing (h : t.contains p = true) : t.resolveLast p ≠ .error .missing := by
  obtain ⟨loc', hresolve⟩ := contains_iff.1 h
  obtain ⟨⟨⟩, hcheck, hwalk⟩ := bind_eq_ok.1 hresolve
  intro hmissing
  rw [resolveLast, hcheck, ok_bind] at hmissing
  dsimp only at hmissing
  split at hmissing
  · cases hmissing
  next front part hlast =>
  obtain ⟨hne, blanks, hsteps, -⟩ := shown_eq_append (eq_append_of_unsnoc? hlast)
  rw [hsteps] at hwalk
  obtain ⟨loc, hfront, hwalk⟩ := walk_append_eq_ok.1 hwalk
  obtain ⟨hdir, hadmits, -⟩ := walk_cons_eq_ok.1 hwalk
  rw [hfront, ok_bind, hdir] at hmissing
  split at hmissing
  · cases hmissing
  split at hmissing
  · cases hmissing
  next hdot =>
  split at hmissing
  · cases hmissing
  next hback =>
  split at hmissing
  · next hnone =>
    have hidle : Path.isIdle part = false := by
      rw [Path.isIdle, beq_eq_false_iff_ne.2 hne, beq_eq_false_iff_ne.2 hdot, Bool.or_false]
    have hsome : (t.get? loc).isSome = true := get?_append_isSome (hadmits hidle hback).2
    rw [Option.isNone_iff_eq_none.1 hnone] at hsome
    cases hsome
  · split at hmissing <;> cases hmissing

theorem EndsIn.contains_erase {loc : Location} {name : String} {slash : Bool}
    (h : t.EndsIn p loc name slash) :
    FileTree.contains { t with root := t.root.erase (loc ++ [name]) } p = false := by
  obtain ⟨front, blanks, hsteps, -, -, hfront⟩ := h.steps
  rw [← Bool.not_eq_true]
  intro hcontains
  obtain ⟨loc', hresolve⟩ := contains_iff.1 hcontains
  obtain ⟨-, -, hwalk⟩ := bind_eq_ok.1 hresolve
  rw [hsteps] at hwalk
  obtain ⟨loc₁, hfront', hwalk⟩ := walk_append_eq_ok.1 hwalk
  obtain ⟨-, hadmits, -⟩ := walk_cons_eq_ok.1 hwalk
  obtain rfl : loc₁ = loc := (walk_eq_ok hfront').trans (walk_eq_ok hfront).symm
  have hsome := (hadmits h.isIdle h.ne_back).2
  rw [get?, Node.get?_erase_self t.root (List.concat_ne_nil _ _)] at hsome
  cases hsome

theorem get?_put_of_isDirectoryAt {loc : Location} (value : Node)
    (h : t.isDirectoryAt loc = true) : (t.root.put loc value).get? loc = some value := by
  rcases List.eq_nil_or_concat' loc with rfl | ⟨front, name, rfl⟩
  · rw [Node.put]
    rfl
  · refine get?_put value (isDirectoryAt_of_append (List.cons_ne_nil name []) ?_)
    obtain ⟨entries, hentries⟩ := isDirectoryAt_iff.1 h
    exact Option.isSome_of_eq_some hentries

/-- Emptying a directory changes only what is below it, of which nothing is left if nothing was
refused. -/
theorem agreesOff_emptyDirectory {loc : Location} {refuses : Location → Option Refusal}
    (h : t.emptyDirectory loc refuses = (t', none)) :
    t.AgreesOff (loc <+: ·) t' ∧ ∀ rest, rest ≠ [] → t'.seen? (loc ++ rest) = none := by
  obtain rfl := emptyDirectory_of_none h
  split
  · next hdir =>
    refine ⟨agreesOff_put t loc _, fun rest hrest => Node.seen?_eq_none.2 ?_⟩
    obtain ⟨name, rest, rfl⟩ := List.exists_cons_of_ne_nil hrest
    rw [get?_append, get?_put_of_isDirectoryAt _ hdir]
    rfl
  · next hdir =>
    refine ⟨.refl _ t, fun rest hrest => Node.seen?_append_of_ne hrest ?_⟩
    exact mt isDirectoryAt_iff_seen?.2 hdir

/-- A directory is removed with everything below it: nothing else is changed, and the path leads
nowhere afterwards. The directory itself stays, empty, if the path goes through it. -/
theorem removeDirectory_eq_ok (h : t.removeDirectory p = (t', .ok ())) :
    t.AgreesOff (t.place p <+: ·) t' ∧ (∀ loc, Below (t.place p) loc → t'.seen? loc = none) ∧
      t'.contains p = false := by
  rw [removeDirectory] at h
  split at h
  · cases h
  next loc hresolve =>
  obtain ⟨⟨⟩, -, hwalk⟩ := bind_eq_ok.1 hresolve
  obtain rfl : loc = t.place p := walk_eq_ok hwalk
  split at h
  swap
  · cases h
  split at h
  · cases h
  next emptied hempty =>
  obtain ⟨hagrees, hbelow⟩ := agreesOff_emptyDirectory hempty
  have hnothing (t₁ : FileTree) (h₁ : ∀ rest, rest ≠ [] → t₁.seen? (t.place p ++ rest) = none)
      (loc : Location) (hloc : Below (t.place p) loc) : t₁.seen? loc = none := by
    obtain ⟨⟨rest, rfl⟩, hne⟩ := hloc
    exact h₁ rest fun e => hne (by rw [e, List.append_nil])
  split at h
  · next t₁ hdrop =>
    obtain rfl : t₁ = t' := congrArg Prod.fst h
    obtain ⟨⟨loc, last⟩, hlast, hdrop⟩ := bind_eq_ok.1 hdrop
    cases last with
    | name name slash =>
      obtain rfl := Except.ok.inj hdrop
      have hend := resolveLast_name hlast
      have hplace : loc ++ [name] = t.place p := hend.place_eq.symm.trans (hagrees.place p)
      refine ⟨hagrees.trans (hplace ▸ agreesOff_erase emptied _), hnothing _ fun rest _ => ?_,
        hend.contains_erase⟩
      rw [← hplace]
      refine Node.seen?_eq_none.2 ?_
      rw [get?_append, Node.get?_erase_self _ (List.concat_ne_nil _ _), Option.bind_none]
    | dot => cases hdrop
    | dotDot => cases hdrop
    | root => cases hdrop
  · next hdrop =>
    obtain rfl : emptied = t' := congrArg Prod.fst h
    refine ⟨hagrees, hnothing _ hbelow, ?_⟩
    rw [← Bool.not_eq_true]
    intro hcontains
    refine resolveLast_ne_missing hcontains ?_
    rw [dropDirectory] at hdrop
    cases hlast : emptied.resolveLast p with
    | error f =>
      rw [hlast] at hdrop
      exact congrArg Except.error (Except.error.inj hdrop)
    | ok x =>
      rw [hlast, ok_bind] at hdrop
      obtain ⟨loc, last⟩ := x
      cases last <;> cases hdrop
  · cases h

end FileTree

/-! ### Running a removal -/

namespace Job

variable {w w' : World}

/-- What the removal of a directory has done when it succeeds. -/
theorem removeOutput_eq_ok {p : Path} {removed : Bool}
    (h : (removeOutput p).perform w = (.ok removed, w')) :
    removed = w.tree.isDirectory p ∧ (removed = false → w'.tree = w.tree) ∧
      (removed = true → w.tree.removeDirectory p = (w'.tree, .ok ())) := by
  rw [removeOutput, perform_bind, perform_get] at h
  dsimp only at h
  split at h
  · next hdir =>
    obtain ⟨⟨⟩, w₁, hremove, h⟩ := perform_bind_eq_ok.1 h
    obtain ⟨t, hgone, rfl⟩ := changePartly_eq_ok.1 hremove
    obtain ⟨hremoved, rfl⟩ := Prod.mk.inj h
    obtain rfl : true = removed := Except.ok.inj hremoved
    exact ⟨hdir.symm, nofun, fun _ => hgone⟩
  · next hdir =>
    obtain ⟨hremoved, rfl⟩ := Prod.mk.inj h
    obtain rfl : false = removed := Except.ok.inj hremoved
    exact ⟨((Bool.not_eq_true _).mp hdir).symm, fun _ => rfl, nofun⟩

/-- What a removal has done when it succeeds. -/
theorem remove_eq_ok {o : RunOptions} {summary : RemovalSummary}
    (h : (remove o).perform w = (.ok summary, w')) :
    summary.removed = w.tree.isDirectory o.outputRoot ∧
      (summary.removed = false → w'.tree = w.tree) ∧
      (summary.removed = true → w.tree.removeDirectory o.outputRoot = (w'.tree, .ok ())) := by
  rw [remove] at h
  obtain ⟨⟨⟩, w₁, henter, h⟩ := perform_bind_eq_ok.1 h
  obtain ⟨removed, w₂, hremove, h⟩ := perform_bind_eq_ok.1 h
  obtain ⟨-, rfl⟩ := Prod.mk.inj henter
  obtain ⟨hremoved, hkept, hgone⟩ := removeOutput_eq_ok hremove
  -- what follows is only written to the log
  cases removed with
  | false =>
    obtain ⟨hsummary, rfl⟩ := Prod.mk.inj h
    obtain rfl := Except.ok.inj hsummary
    exact ⟨hremoved, hkept, hgone⟩
  | true =>
    obtain ⟨hsummary, rfl⟩ := Prod.mk.inj h
    obtain rfl := Except.ok.inj hsummary
    exact ⟨hremoved, hkept, hgone⟩

theorem steady_remove (o : RunOptions) : Steady (remove o) := by
  refine (steady_enter _).bind fun _ => (steady_removeOutput _).bind fun removed => ?_
  cases removed with
  | false => exact (steady_enter _).bind fun _ => steady_pure _
  | true => exact (steady_note _).bind fun _ => (steady_enter _).bind fun _ => steady_pure _

end Job

/-! ### Project files -/

namespace FileTree

variable {t : FileTree} {p : Path} {name : String}

theorem reachesDirectory_of_isDirectory (h : t.isDirectory p = true) :
    t.contains p = true ∧ t.reachesDirectory (t.place p) = true := by
  rw [isDirectory, find?] at h
  split at h
  · next loc hresolve =>
    obtain ⟨⟨⟩, -, hwalk⟩ := bind_eq_ok.1 hresolve
    obtain rfl : loc = t.place p := walk_eq_ok hwalk
    exact ⟨contains_iff.2 ⟨_, hresolve⟩, h⟩
  · cases h

theorem get?_concat {loc : Location} {n : Node} (h : t.get? loc = some n) (name : String) :
    t.get? (loc ++ [name]) = n.child? name := by
  rw [get?, get?_append, ← get?, h, Option.bind_some]
  exact Option.bind_fun_some _

theorem get?_of_mem_fileNames (h : name ∈ t.fileNames p) :
    ∃ content, t.get? (t.place p ++ [name]) = some (.file content) := by
  rw [fileNames] at h
  split at h
  · next entries hfind =>
    obtain ⟨hname, hfile⟩ := List.mem_filter.1 h
    obtain ⟨value, hchild, hfile⟩ := (Option.any_eq_true ..).1 hfile
    rw [find?] at hfind
    split at hfind
    · next loc hresolve =>
      obtain ⟨⟨⟩, -, hwalk⟩ := bind_eq_ok.1 hresolve
      obtain rfl : loc = t.place p := walk_eq_ok hwalk
      -- a directory that was taken away has no files
      rw [reached?] at hfind
      cases hget : t.get? (t.place p) with
      | some n =>
        rw [hget, Option.some_or, Option.some.injEq] at hfind
        subst hfind
        cases value with
        | file content => exact ⟨content, by rw [get?_concat hget, hchild]⟩
        | directory _ => cases hfile
      | none =>
        rw [hget, Option.none_or] at hfind
        split at hfind
        · obtain rfl : [] = entries := Node.directory.inj (Option.some.inj hfind)
          exact absurd hname List.not_mem_nil
        · cases hfind
    · cases hfind
  · exact absurd h List.not_mem_nil

end FileTree

namespace RunOptions

variable {o : RunOptions} {t t' : FileTree}

theorem check_eq_ok (h : o.check t = .ok ()) :
    o.workDirectory ≠ Path.empty ∧
      ∃ name ∈ t.fileNames o.workDirectory, isProjectFile name = true := by
  rw [check] at h
  split at h
  · exact nomatch h
  next hdir =>
  split at h
  · exact nomatch h
  next hproject =>
  constructor
  · rintro hempty
    rw [hempty] at hdir
    exact hdir rfl
  · rwa [Bool.not_eq_true', Bool.not_eq_false, List.any_eq_true] at hproject

theorem isDirectory_of_check (h : o.check t = .ok ()) :
    t.isDirectory o.workDirectory = true := by
  rw [check] at h
  split at h
  · cases h
  next hdir =>
  rwa [Bool.not_eq_true', Bool.not_eq_false] at hdir

/-- A relative folder with a name, that goes back nowhere, is strictly below the directory of the
project. -/
theorem below_outputRoot (t : FileTree) (hwork : o.workDirectory ≠ Path.empty)
    (hrelative : (o.folder?.getD defaultFolder).toList.head? ≠ some '/')
    (hback : ".." ∉ slashParts (o.folder?.getD defaultFolder))
    (hname : pathNames (o.folder?.getD defaultFolder) ≠ []) :
    Below (t.place o.workDirectory) (t.place o.outputRoot) := by
  rw [outputRoot, Path.place_join_relative t hwork hrelative, FileTree.follow_eq_append hback]
  exact below_append hname

/-- What a removal changes is strictly inside of the directory of the project and belongs to the
output folder, and the project files stay. -/
structure RemovesSafely (o : RunOptions) (t t' : FileTree) : Prop where
  inside (loc : Location) (h : t'.seen? loc ≠ t.seen? loc) :
    Below (t.place o.workDirectory) loc ∧ t.place o.outputRoot <+: loc
  projectFiles (name : String) (h : name ∈ t.fileNames o.workDirectory)
    (h' : isProjectFile name = true) :
    t'.seen? (t.place o.workDirectory ++ [name]) = t.seen? (t.place o.workDirectory ++ [name])

/-- A removal of a folder strictly below the directory of the project is safe. -/
theorem removesSafely_of_below (hremove : t.removeDirectory o.outputRoot = (t', .ok ()))
    (hdir : t.isDirectory o.outputRoot = true)
    (hbelow : Below (t.place o.workDirectory) (t.place o.outputRoot)) :
    o.RemovesSafely t t' := by
  obtain ⟨hagrees, -, -⟩ := removeDirectory_eq_ok hremove
  refine ⟨fun loc hchanged => ?_, fun name hname _ => hagrees.seen _ fun habove => ?_⟩
  · have hroot : t.place o.outputRoot <+: loc :=
      not_not.1 fun hnot => hchanged (hagrees.seen loc hnot)
    exact ⟨hbelow.extend hroot, hroot⟩
  · rcases List.prefix_concat_iff.1 habove with hroot | hroot
    · -- the folder would be the project file
      obtain ⟨content, hcontent⟩ := get?_of_mem_fileNames hname
      obtain ⟨entries, hentries⟩ :=
        reachesDirectory_iff.1 (reachesDirectory_of_isDirectory hdir).2
      rw [hroot, reached?_of_get? hcontent] at hentries
      exact nomatch hentries
    · exact hbelow.2 (hroot.eq_of_length_le hbelow.1.length_le)

/-- A folder whose removal is safe is strictly below the directory of the project. -/
theorem RemovesSafely.below {project : String} (h : o.RemovesSafely t t')
    (hremove : t.removeDirectory o.outputRoot = (t', .ok ()))
    (hdir : t.isDirectory o.outputRoot = true) (hproject : project ∈ t.fileNames o.workDirectory)
    (hfile : isProjectFile project = true) :
    Below (t.place o.workDirectory) (t.place o.outputRoot) := by
  obtain ⟨hagrees, hgone, hlost⟩ := removeDirectory_eq_ok hremove
  -- the path of the folder has lost what it led to, so something has changed
  obtain ⟨loc, hchanged⟩ : ∃ loc, t'.seen? loc ≠ t.seen? loc := by
    by_contra hsame
    rw [not_exists_not] at hsame
    have hall : t.AgreesOff (fun _ => False) t' := ⟨hagrees.current, fun loc _ => hsame loc⟩
    exact nomatch hlost.symm.trans (hall.contains (reachesDirectory_of_isDirectory hdir).1)
  obtain ⟨hinside, hroot⟩ := h.inside loc hchanged
  by_contra hnot
  -- so the folder is the directory of the project or above it, and the project file is gone
  have habove : t.place o.outputRoot <+: t.place o.workDirectory := by
    rcases List.prefix_or_prefix_of_prefix hinside.1 hroot with hwork | hwork
    · exact (not_not.1 fun hne => hnot ⟨hwork, hne⟩) ▸ List.prefix_rfl
    · exact hwork
  have hbelow : Below (t.place o.outputRoot) (t.place o.workDirectory ++ [project]) := by
    refine ⟨habove.trans (List.prefix_append _ _), fun heq => ?_⟩
    have hlength := habove.length_le
    rw [← heq, List.length_append, List.length_singleton] at hlength
    omega
  obtain ⟨content, hcontent⟩ := get?_of_mem_fileNames hproject
  have hkept := h.projectFiles project hproject hfile
  rw [hgone _ hbelow, seen?, Node.seen?_eq_some_some.2 hcontent] at hkept
  cases hkept

end RunOptions

/-- A removal that succeeds, on whatever disk, takes away the output folder with everything in it if
there is one, and nothing else. It is safe exactly if there is none or if it is strictly below the
directory of the project, which the check of the options does not ask for. -/
theorem Job.remove_safe_iff (o : RunOptions) (w w' : World) (disk : Disk)
    (summary : RemovalSummary) (hcheck : o.check w.tree = .ok ())
    (hrun : (remove o).perform w disk = (.ok summary, w')) :
    summary.removed = w.tree.isDirectory o.outputRoot ∧
      (summary.removed = false → w'.tree = w.tree) ∧
      (summary.removed = true →
        w.tree.AgreesOff (w.tree.place o.outputRoot <+: ·) w'.tree ∧
        (∀ loc, Below (w.tree.place o.outputRoot) loc → w'.tree.seen? loc = none) ∧
        w'.tree.contains o.outputRoot = false) ∧
      (o.RemovesSafely w.tree w'.tree ↔ (summary.removed = true →
        Below (w.tree.place o.workDirectory) (w.tree.place o.outputRoot))) := by
  obtain ⟨hremoved, hkept, hgone⟩ := remove_eq_ok ((steady_remove o).perform_eq hrun)
  obtain ⟨-, project, hproject, hfile⟩ := RunOptions.check_eq_ok hcheck
  refine ⟨hremoved, hkept, fun h => removeDirectory_eq_ok (hgone h), fun hsafe h => ?_,
    fun hbelow => ?_⟩
  · exact hsafe.below (hgone h) (hremoved.symm.trans h) hproject hfile
  · cases h : summary.removed with
    | true =>
      exact RunOptions.removesSafely_of_below (hgone h) (hremoved.symm.trans h) (hbelow h)
    | false =>
      have htree := hkept h
      exact ⟨fun loc hchanged => absurd (by rw [htree]) hchanged, fun name _ _ => by rw [htree]⟩

/-- A project with an output folder, beside a directory that belongs to nobody else. -/
def sharedWorld : World where
  tree := ⟨.directory
    [("proj", .directory
      [("App.csproj", .file ""), ("ClientProxies", .directory [("Book.cs", .file "")])]),
    ("shared", .directory [("notes.txt", .file "mine")])], []⟩
  network := .silent

/-- The removal of a folder of the project. -/
def sharedOptions (folder? : Option String) : RunOptions where
  workDirectory := ⟨.bare, ["proj"]⟩
  givenFolder? := folder?

/-- The removal of the default folder is safe. That of the directory beside the project and that of
the project itself pass the same check and are not. -/
theorem Job.remove_safe_sharedOptions :
    (sharedOptions none).RemovesSafely sharedWorld.tree
        ((remove (sharedOptions none)).perform sharedWorld).2.tree ∧
      ∀ folder ∈ ["../shared", "../proj"],
        (sharedOptions (some folder)).check sharedWorld.tree = .ok () ∧
        ¬(sharedOptions (some folder)).RemovesSafely sharedWorld.tree
          ((remove (sharedOptions (some folder))).perform sharedWorld).2.tree := by
  have hiff (folder? : Option String) (output : String)
      (hcheck : (sharedOptions folder?).check sharedWorld.tree = .ok ())
      (hrun : ((remove (sharedOptions folder?)).perform sharedWorld).1 = .ok ⟨output, true⟩) :
      (sharedOptions folder?).RemovesSafely sharedWorld.tree
          ((remove (sharedOptions folder?)).perform sharedWorld).2.tree ↔
        Below (sharedWorld.tree.place (sharedOptions folder?).workDirectory)
          (sharedWorld.tree.place (sharedOptions folder?).outputRoot) := by
    obtain ⟨-, -, -, hsafe⟩ := remove_safe_iff (sharedOptions folder?) sharedWorld
      ((remove (sharedOptions folder?)).perform sharedWorld).2 .sound ⟨output, true⟩ hcheck
      (Prod.ext hrun rfl)
    exact hsafe.trans (forall_prop_of_true rfl)
  have hdefault := hiff none "ClientProxies" (by decide +kernel) (by decide +kernel)
  have hshared := hiff (some "../shared") "../shared" (by decide +kernel) (by decide +kernel)
  have hproj := hiff (some "../proj") "../proj" (by decide +kernel) (by decide +kernel)
  constructor
  · refine hdefault.2 (RunOptions.below_outputRoot _ ?_ ?_ ?_ ?_) <;> decide
  · rw [List.forall_mem_cons, List.forall_mem_singleton]
    refine ⟨⟨by decide +kernel, fun h => ?_⟩, by decide +kernel, fun h => ?_⟩
    · exact absurd (hshared.1 h) (by decide +kernel)
    · exact absurd (hproj.1 h) (by decide +kernel)

end ApiProxy
