import ApiProxy.Proofs.Run.Regeneration

/-!
# Where a run saves its description

The name of a module is any key of a map that a service supplied, and a run puts it behind the
output folder as it is, to save its description there. What stands before the last slash of the name
is followed like any path, from the output folder or, if the name begins with a slash, from the
root. So the copy of the description is directly inside of the output folder exactly if these parts
lead back to the folder, as they do if there is no slash. A run writes below the output folder and
at the place of the copy, and nowhere else.

## Main definitions

* `RunOptions.copyDirectory`: where the name of the module leads.
* `RunOptions.Writes`: where a run may write.
* `RunOptions.Leads`: where a run may make directories outside of that.

## Main results

* `RunOptions.exists_place_artifactPath_eq`: the place of the copy.
* `Job.relates_emit`: what the writing of a run spares, whether it comes to its end or stops.
* `Job.generate_artifact`: where the copy is put, and what a run leaves as it is.
-/

namespace ApiProxy

open FileTree

/-! ### The place of the copy -/

namespace Path

/-- A text that begins with a slash is followed from the root. -/
theorem ofText_of_absolute {text : String} (h : text.toList.head? = some '/') :
    (ofText text).anchor = .root ∧ ∃ idle, slashParts text = "" :: ((ofText text).parts ++ idle) ∧
      ∀ part ∈ idle, isIdle part = true := by
  obtain ⟨cs, hcs⟩ := List.head?_eq_some_iff.1 h
  have hparts : slashParts text = "" :: (splitSlash cs).map String.ofList := by
    rw [slashParts, hcs, splitSlash, if_pos rfl]
    rfl
  rw [hparts, ofText, hcs]
  cases cs with
  | nil => exact ⟨rfl, [""], rfl, fun part hpart => List.mem_singleton.1 hpart ▸ rfl⟩
  | cons c cs =>
    exact ⟨rfl, [], congrArg (List.cons "") (List.append_nil _).symm,
      fun _ hpart => absurd hpart List.not_mem_nil⟩

theorem place_ofText_of_absolute (t : FileTree) {text : String}
    (h : text.toList.head? = some '/') : t.place (ofText text) = follow [] (slashParts text) := by
  obtain ⟨hanchor, idle, hparts, hidle⟩ := ofText_of_absolute h
  have hstart : t.start (ofText text) = [] := by
    rw [start, isAbsolute, hanchor]
    rfl
  have hsteps : steps (ofText text) = (ofText text).parts := by
    rw [steps, hanchor]
    rfl
  rw [place, hstart, hsteps, hparts]
  change _ = follow [] ((ofText text).parts ++ idle)
  rw [follow_append, follow_of_isIdle hidle]

end Path

namespace RunOptions

variable {o : RunOptions} {t t' : FileTree}

/-- Where the name of the module leads from the output folder, its last part apart. -/
def copyDirectory (o : RunOptions) (t : FileTree) : Location :=
  follow (if o.moduleName.toList.head? = some '/' then [] else t.place o.outputRoot)
    (slashParts o.moduleName).dropLast

/-- The copy is put where the name of the module leads. -/
theorem exists_place_artifactPath_eq (o : RunOptions) (t : FileTree) :
    ∃ last ∈ (slashParts o.moduleName).getLast?,
      t.place o.artifactPath = o.copyDirectory t ++ [last ++ descriptionEnding] := by
  obtain ⟨folders, last, h⟩ := exists_slashParts_eq o.moduleName
  rw [copyDirectory, h, List.dropLast_concat, List.getLast?_concat]
  refine ⟨last, rfl, ?_⟩
  obtain ⟨front, last', hparts⟩ := exists_slashParts_append o.moduleName
  have hmodule := hparts "" List.not_mem_nil
  rw [String.append_empty, String.append_empty, h] at hmodule
  obtain ⟨rfl, hlast⟩ := List.append_inj' hmodule rfl
  obtain rfl : last = last' := List.head_eq_of_cons_eq hlast
  have hsuffix : descriptionEnding.toList <:+ (last ++ descriptionEnding).toList := by
    rw [String.toList_append]
    exact List.suffix_append _ _
  obtain ⟨hidle, hback⟩ := isName_of_suffix (by decide) hsuffix
  have hfollow (loc : Location) : follow loc (slashParts (o.moduleName ++ descriptionEnding)) =
      follow loc folders ++ [last ++ descriptionEnding] := by
    rw [hparts descriptionEnding (by decide), follow_append]
    exact advance_name _ hidle hback
  have hhead : (o.moduleName ++ descriptionEnding).toList.head? = some '/' ↔
      o.moduleName.toList.head? = some '/' := by
    rw [String.toList_append]
    cases o.moduleName.toList with
    | nil => exact iff_of_false (by decide) (by decide)
    | cons c cs => exact Iff.rfl
  rw [artifactPath]
  change t.place (o.outputRoot.join (o.moduleName ++ descriptionEnding)) = _
  split
  · next habsolute =>
    have hjoin : o.outputRoot.join (o.moduleName ++ descriptionEnding) =
        Path.ofText (o.moduleName ++ descriptionEnding) := by
      rw [Path.join, if_pos]
      rw [Bool.or_eq_true, decide_eq_true_eq]
      exact .inl (hhead.2 habsolute)
    rw [hjoin, Path.place_ofText_of_absolute t (hhead.2 habsolute), hfollow]
  · next hrelative =>
    rw [Path.place_join_relative t o.outputRoot_ne_empty (mt hhead.1 hrelative), hfollow]

/-- The copy is directly inside of the output folder exactly if the name of the module leads back to
it. -/
theorem exists_place_artifactPath_eq_iff (o : RunOptions) (t : FileTree) :
    (∃ name, t.place o.artifactPath = t.place o.outputRoot ++ [name]) ↔
      o.copyDirectory t = t.place o.outputRoot := by
  obtain ⟨last, -, hplace⟩ := o.exists_place_artifactPath_eq t
  rw [hplace]
  constructor
  · rintro ⟨name, heq⟩
    exact (List.append_inj' heq rfl).1
  · intro heq
    exact ⟨_, by rw [heq]⟩

theorem copyDirectory_of_not_mem (t : FileTree) (h : '/' ∉ o.moduleName.toList) :
    o.copyDirectory t = t.place o.outputRoot := by
  have hrelative : o.moduleName.toList.head? ≠ some '/' := fun hhead =>
    h (List.mem_of_mem_head? hhead)
  rw [copyDirectory, if_neg hrelative, slashParts, splitSlash_of_not_mem h]
  rfl

/-! ### Where a run writes -/

/-- A run may write strictly below the output folder and at the place of the copy. -/
def Writes (o : RunOptions) (t : FileTree) (loc : Location) : Prop :=
  Below (t.place o.outputRoot) loc ∨ loc = t.place o.artifactPath

/-- A run may make directories on the way to the output folder and on the way to the copy. -/
def Leads (o : RunOptions) (t : FileTree) (loc : Location) : Prop :=
  t.PassesThrough o.outputRoot loc ∨ t.PassesThrough o.artifactPath loc

end RunOptions

/-- What a run spares. -/
def RunOptions.SparesRest (o : RunOptions) (t t' : FileTree) : Prop :=
  t.Spares (o.Writes t) (o.Leads t) t'

namespace RunOptions

variable {o : RunOptions} {t t' t'' : FileTree}

theorem sparesRest_refl (t : FileTree) : o.SparesRest t t := .refl _ _ t

theorem SparesRest.trans (h : o.SparesRest t t') (h' : o.SparesRest t' t'') :
    o.SparesRest t t'' := by
  have hwrites : o.Writes t' = o.Writes t := by
    funext loc
    rw [Writes, Writes, place_congr h.current, place_congr h.current]
  have hleads : o.Leads t' = o.Leads t := by
    funext loc
    rw [Leads, Leads, PassesThrough, PassesThrough, PassesThrough, PassesThrough, start, start,
      start, start, h.current]
  rw [SparesRest, hwrites, hleads] at h'
  exact Spares.trans h h'

end RunOptions

theorem Path.lead_prefix (p : Path) : p.lead <+: steps p := by
  rw [lead, front]
  split
  · next hlast =>
    refine ⟨[""], ?_⟩
    rw [← steps_append, List.dropLast_append_getLast? _ hlast]
  · exact List.prefix_rfl

/-- The path of a generated file goes through what its base goes through, and from there on stays
below the base. -/
theorem below_or_passesThrough_of_locate {base p : Path} {relative : String} {t : FileTree}
    {loc : Location} (hbase : base ≠ Path.empty) (hp : locate base relative = .ok p)
    (h : t.PassesThrough p loc) : Below (t.place base) loc ∨ t.PassesThrough base loc := by
  obtain ⟨hanchor, rest, last, hsteps, hback⟩ := steps_locate hbase hp
  obtain ⟨parts, hparts, rfl⟩ := h
  rw [start_eq_of_anchor t hanchor]
  rw [hsteps] at hparts
  rcases List.prefix_or_prefix_of_prefix hparts (List.prefix_append _ _) with hlead | ⟨more, rfl⟩
  · exact .inr ⟨parts, hlead.trans base.lead_prefix, rfl⟩
  rw [List.prefix_append_right_inj] at hparts
  rw [follow_append, Path.follow_lead, ← place, follow_eq_append fun h => hback (hparts.subset h)]
  by_cases hnone : (more.filter fun part => !Path.isIdle part) = []
  · rw [hnone, List.append_nil]
    exact .inr ⟨steps base, List.prefix_rfl, rfl⟩
  · exact .inl (below_append hnone)

namespace Job

variable {o : RunOptions} {m : ApiDescription}

theorem relates_makeRoom_spares {p : Path} (hp : ∀ t loc, t.PassesThrough p loc →
    o.Writes t loc ∨ o.Leads t loc) : Relates o.SparesRest (makeRoom p) := fun w disk =>
  (opensWay_makeRoom p w disk).spares.mono nofun fun loc hloc hpasses =>
    (hp w.tree loc hpasses).resolve_left hloc

theorem relates_exportFiles_spares {fs : List SourceFile} (hfs : ∀ f ∈ fs, f.IsUsual) :
    Relates o.SparesRest (exportFiles o.exporter o.outputRoot fs) := by
  have htrans (t t' t'' : FileTree) : o.SparesRest t t' → o.SparesRest t' t'' →
      o.SparesRest t t'' := .trans
  refine relates_exportFiles RunOptions.sparesRest_refl htrans fun f hf =>
    relates_exportFile RunOptions.sparesRest_refl htrans fun p hp => ⟨?_, ?_⟩
  · refine relates_makeRoom_spares fun t loc hloc => ?_
    exact (below_or_passesThrough_of_locate o.outputRoot_ne_empty hp hloc).imp .inl .inl
  · refine relates_write_of_agreesOff RunOptions.sparesRest_refl htrans fun t t' h => ?_
    obtain ⟨hfile, htemporary⟩ := (hfs f hf).below t hp
    exact (h.mono fun loc hloc => .inl (hloc.elim htemporary.extend hfile.extend)).spares

theorem relates_saveDescription_spares :
    Relates o.SparesRest (saveDescription o.artifactPath m) :=
  relates_saveDescription RunOptions.sparesRest_refl (fun _ _ _ => .trans)
    (relates_makeRoom_spares fun _ _ hloc => .inr (.inr hloc)) fun _ _ _ hwrite =>
      ((writeFile_eq_ok hwrite).2.2.2.mono fun _ hloc => .inr hloc).spares

/-- The writing of a run, whether it comes to its end or stops, changes nothing but what is below
the output folder and the copy, and makes directories on the way to both. -/
theorem relates_emit (o : RunOptions) (m : ApiDescription) : Relates o.SparesRest (emit o m) := by
  have husual : ∀ f ∈ o.files m, f.IsUsual := fun f => RunOptions.isUsual_of_mem_files
  exact (relates_exportFiles_spares husual).bind (fun _ _ _ => .trans) fun _ =>
    relates_saveDescription_spares.bind (fun _ _ _ => .trans) fun _ w _ =>
      RunOptions.sparesRest_refl w.tree

/-! ### Saving the copy -/

variable {w w' : World} {report : ExportReport}

theorem get?_artifactPath_of_emit (h : (emit o m).perform w = (.ok report, w')) :
    w'.tree.get? (w.tree.place o.artifactPath) = some (.file m.text) := by
  obtain ⟨w₁, hexport, hsave⟩ := emit_eq_ok h
  have hcurrent := (perform_exportFiles o.exporter o.outputRoot (o.files m) w).extends.current
  rw [hexport] at hcurrent
  rw [← place_congr hcurrent]
  exact get?_of_saveDescription hsave

theorem generate_spares (o : RunOptions) (s : Source) :
    Relates o.SparesRest (generate o s) := fun w disk => by
  cases hrequest : ((request o s).perform w).1 with
  | error e =>
    rw [(perform_generate_of_error hrequest disk).2]
    exact RunOptions.sparesRest_refl w.tree
  | ok m =>
    rw [(perform_generate_of_ok hrequest disk).2]
    exact relates_emit o m w disk

/-- A run puts the copy of its description where the name of the module says: directly inside of the
output folder exactly if the folders in this name lead back to it, as they do if there are none. The
run changes nothing but this copy and what is strictly below the output folder, on whatever disk and
whether it comes to its end or stops, except that it makes missing directories on the way to both.
-/
theorem generate_artifact (o : RunOptions) (s : Source) (w w' : World) (disk : Disk)
    (result : Except Failure GenerationSummary)
    (hrun : (generate o s).perform w disk = (result, w')) :
    (∃ last ∈ (slashParts o.moduleName).getLast?,
      w.tree.place o.artifactPath = o.copyDirectory w.tree ++ [last ++ descriptionEnding]) ∧
      ((∃ name, w.tree.place o.artifactPath = w.tree.place o.outputRoot ++ [name]) ↔
        o.copyDirectory w.tree = w.tree.place o.outputRoot) ∧
      ('/' ∉ o.moduleName.toList → o.copyDirectory w.tree = w.tree.place o.outputRoot) ∧
      (∀ summary, result = .ok summary → ∃ m, ((request o s).perform w).1 = .ok m ∧
        w'.tree.get? (w.tree.place o.artifactPath) = some (.file m.text)) ∧
      w.tree.Spares (o.Writes w.tree) (o.Leads w.tree) w'.tree := by
  refine ⟨o.exists_place_artifactPath_eq w.tree, o.exists_place_artifactPath_eq_iff w.tree,
    RunOptions.copyDirectory_of_not_mem w.tree, ?_, ?_⟩
  · rintro summary rfl
    obtain ⟨m, report, w₁, hrequest, hemit, -, htree⟩ :=
      generate_eq_ok ((steady_generate o s).perform_eq hrun)
    exact ⟨m, hrequest, htree ▸ get?_artifactPath_of_emit hemit⟩
  · have hspares := generate_spares o s w disk
    rw [hrun] at hspares
    exact hspares

end Job

/-- A description with the service for books in a module whose name goes back. -/
def strayDescription : ApiDescription :=
  let controller : Controller :=
    ⟨"Book", none, true, false, none, "Acme.BookController", [⟨"Acme.IBookService", none, []⟩],
      .empty⟩
  ⟨.ofList [("../../notes", ⟨"app", "Default", .ofList [("book", controller)]⟩)], .empty⟩

/-- A project beside a file of somebody else. -/
def strayWorld : World where
  tree := ⟨.directory [("notes-generate-proxy.json", .file "mine"),
    ("proj", .directory [("App.csproj", .file "")])], []⟩
  network := .silent

/-- The options of a run for this module. -/
def strayOptions : RunOptions where
  workDirectory := ⟨.bare, ["proj"]⟩
  moduleName := "../../notes"

/-- A run for this module. -/
def strayRun : Except Failure GenerationSummary × World :=
  (Job.generate strayOptions (.given "inline" (.ok strayDescription))).perform strayWorld

/-- The options are right and the module is there. The run replaces the file beside the project by
the copy of the description. -/
theorem Job.generate_artifact_stray :
    strayOptions.check strayWorld.tree = .ok () ∧
      strayDescription.selectModule strayOptions.moduleName = .ok strayDescription ∧
      strayWorld.tree.place strayOptions.outputRoot = ["proj", "ClientProxies"] ∧
      strayOptions.copyDirectory strayWorld.tree = [] ∧
      (¬∃ name, strayWorld.tree.place strayOptions.artifactPath =
        strayWorld.tree.place strayOptions.outputRoot ++ [name]) ∧
      (∃ summary, strayRun.1 = .ok summary) ∧
      strayRun.2.tree.get? ["notes-generate-proxy.json"] = some (.file strayDescription.text) ∧
      strayWorld.tree.Spares (strayOptions.Writes strayWorld.tree)
        (strayOptions.Leads strayWorld.tree) strayRun.2.tree := by
  obtain ⟨-, hinside, -, hcontent, hspares⟩ := generate_artifact strayOptions
    (.given "inline" (.ok strayDescription)) strayWorld strayRun.2 .sound strayRun.1 rfl
  have hok : strayRun.1.isOk = true := by decide +kernel
  obtain ⟨summary, hsummary⟩ : ∃ summary, strayRun.1 = .ok summary := by
    cases hrun : strayRun.1 with
    | error e =>
      rw [hrun] at hok
      cases hok
    | ok summary => exact ⟨summary, rfl⟩
  have hplace : strayWorld.tree.place strayOptions.artifactPath =
      ["notes-generate-proxy.json"] := by decide +kernel
  obtain ⟨m, hrequest, hfile⟩ := hcontent summary hsummary
  obtain rfl : strayDescription = m := Except.ok.inj hrequest
  refine ⟨by decide +kernel, rfl, by decide +kernel, by decide +kernel, ?_, ⟨summary, hsummary⟩,
    hplace ▸ hfile, hspares⟩
  rw [hinside]
  decide +kernel

end ApiProxy
