import ApiProxy.Proofs.Run.Trees

/-!
# Stubs belong to the user

A run keeps a file at the place of a stub, whatever else it generates, in all but two cases: a
data type is put at that place, or the run starts by putting a file there that it does not find.
The latter happens if the way to the output folder goes through a directory that is missing: what
is behind it is not found, and making the directory opens the way. In both cases a run that comes
to its end leaves generated content in place of the file.

## Main definitions

* `GenerationRun`: a run that generates, in the world in which it starts.
* `GenerationRun.trees`: the trees that a run goes through, file by file.
* `GenerationRun.Spares`: neither of the two cases.
* `Event`, `runs`: runs with anything else happening in between.

## Main results

* `stub_kept_iff_spared`: runs that spare the place of a stub keep the file there, and the others
  replace it.
-/

namespace ApiProxy

/-- If there is a file at a location, a later tree has it there with the same content. -/
def FileTree.KeepsFile (loc : Location) (t t' : FileTree) : Prop :=
  ∀ content, t.get? loc = some (.file content) → t'.get? loc = some (.file content)

namespace FileTree

theorem KeepsFile.refl (loc : Location) (t : FileTree) : t.KeepsFile loc t := fun _ h => h

theorem KeepsFile.trans {loc : Location} {t t' t'' : FileTree} (h : t.KeepsFile loc t')
    (h' : t'.KeepsFile loc t'') : t.KeepsFile loc t'' :=
  fun content hfile => h' content (h content hfile)

end FileTree

/-- A run that generates, in the world in which it starts and on a disk. -/
structure GenerationRun where
  options : RunOptions
  source : Source
  start : World
  disk : Disk := .sound

namespace GenerationRun

/-- The files that a run comes to. -/
def files (g : GenerationRun) : List SourceFile := Job.files g.options g.source g.start

/-- What comes of a run. -/
def outcome (g : GenerationRun) : Except Failure GenerationSummary × World :=
  (Job.generate g.options g.source).perform g.start g.disk

/-- The tree after the export of a number of files. -/
def treeAfter (g : GenerationRun) (count : Nat) : FileTree :=
  ((Job.exportFiles g.options.exporter g.options.outputRoot
    (g.files.take count)).perform g.start g.disk).2.tree

/-- The trees that a run goes through: before its files, after each of them, and in the end. -/
def trees (g : GenerationRun) : List FileTree :=
  (List.range (g.files.length + 1)).map g.treeAfter ++ [g.outcome.2.tree]

/-- A run comes to a file that it puts at a location. -/
def Puts (g : GenerationRun) (f : SourceFile) (loc : Location) : Prop :=
  f ∈ g.files ∧ f.PutAt g.options.outputRoot g.start.tree loc

/-- A run puts no data type at a location, and if a file is there, it does not start by putting
another one there without finding it. -/
structure Spares (g : GenerationRun) (loc : Location) : Prop where
  dataType (f : SourceFile) (hf : g.Puts f loc) : f.kind ≠ .dataType
  first (content : String) (hfile : g.start.tree.get? loc = some (.file content))
    (f : SourceFile) (hf : f ∈ g.files.head?) :
    ¬f.MissedAt g.options.outputRoot g.start.tree loc

/-- A run comes to a stub that it puts at a location. -/
def PutsStub (g : GenerationRun) (loc : Location) : Prop :=
  ∃ f, g.Puts f loc ∧ f.kind = .classStub

instance (g : GenerationRun) (loc : Location) : Decidable (g.PutsStub loc) :=
  decidable_of_iff (∃ f ∈ g.files, f.PutAt g.options.outputRoot g.start.tree loc ∧
      f.kind = .classStub)
    ⟨fun ⟨f, hf, hput, hkind⟩ => ⟨f, ⟨hf, hput⟩, hkind⟩,
      fun ⟨f, ⟨hf, hput⟩, hkind⟩ => ⟨f, hf, hput, hkind⟩⟩

instance (g : GenerationRun) (loc : Location) : Decidable (g.Spares loc) :=
  decidable_of_iff
    ((∀ f ∈ g.files, f.PutAt g.options.outputRoot g.start.tree loc → f.kind ≠ .dataType) ∧
      ∀ n ∈ g.start.tree.get? loc, n.isDirectory = false → ∀ f ∈ g.files.head?,
        ¬f.MissedAt g.options.outputRoot g.start.tree loc)
    ⟨fun h => ⟨fun f hf => h.1 f hf.1 hf.2, fun content hfile => h.2 (.file content) hfile rfl⟩,
      fun h => ⟨fun f hf hput => h.dataType f ⟨hf, hput⟩, fun n hn hfile => by
        cases n with
        | file content => exact h.first content hn
        | directory entries => exact nomatch hfile⟩⟩

variable {g : GenerationRun} {f : SourceFile} {loc : Location}

theorem isUsual_of_mem (hf : f ∈ g.files) : f.IsUsual := by
  rw [files, Job.files] at hf
  split at hf
  · next m _ =>
    rw [RunOptions.files] at hf
    split at hf
    · exact absurd hf List.not_mem_nil
    next classes hclasses =>
    have hclass (hf : f ∈ classes) := (ApiDescription.mem_controllerFiles hclasses hf).1
    split at hf
    · split at hf
      · exact hclass hf
      next types htypes =>
      rcases List.mem_append.1 hf with hf | hf
      · exact hclass hf
      · exact (ApiDescription.mem_dataTypeFiles htypes hf).1
    · exact hclass hf
  · exact absurd hf List.not_mem_nil

theorem Puts.ends (h : g.Puts f loc) : Ends loc f.kind.ending := by
  obtain ⟨hf, p, hp, rfl⟩ := h
  exact (isUsual_of_mem hf).ends hp _

/-! ### Locations of stubs -/

theorem Puts.kind_cases (h : g.Puts f loc) (hloc : Ends loc FileKind.classStub.ending) :
    f.kind = .classStub ∨ f.kind = .dataType := by
  have hends := h.ends.suffix_or_suffix hloc
  cases hkind : f.kind with
  | classStub => exact .inl rfl
  | dataType => exact .inr rfl
  | proxyClass => rw [hkind] at hends; exact absurd hends (by decide)
  | serviceInterface => rw [hkind] at hends; exact absurd hends (by decide)

theorem Spares.policy (h : g.Spares loc) (hloc : Ends loc FileKind.classStub.ending)
    (hf : g.Puts f loc) : f.policy = .createOnce := by
  rw [(isUsual_of_mem hf.1).policy, (hf.kind_cases hloc).resolve_right (h.dataType f hf)]
  rfl

/-! ### One run -/

/-- A run that spares the place of a stub keeps the file there when it goes on from some files to
more. -/
theorem Spares.keepsFile_append (h : g.Spares loc) (hloc : Ends loc FileKind.classStub.ending)
    {fs gs : List SourceFile} (hfiles : fs ++ gs <+: g.files) :
    FileTree.KeepsFile loc
      ((Job.exportFiles g.options.exporter g.options.outputRoot fs).perform g.start g.disk).2.tree
      ((Job.exportFiles g.options.exporter g.options.outputRoot (fs ++ gs)).perform g.start
        g.disk).2.tree := by
  intro content hfile
  have hbase := g.options.outputRoot_ne_empty
  have hfs := Job.perform_exportFiles g.options.exporter g.options.outputRoot fs g.start g.disk
  rw [Job.exportFiles_append, Job.perform_bind]
  rcases hperform : (Job.exportFiles g.options.exporter g.options.outputRoot fs).perform g.start
    g.disk with ⟨e | report, w⟩
  · rw [hperform] at hfile
    exact hfile
  rw [hperform] at hfile hfs
  have hgs := Job.perform_exportFiles g.options.exporter g.options.outputRoot gs w g.disk
  have hkept : ((Job.exportFiles g.options.exporter g.options.outputRoot gs).perform w
      g.disk).2.tree.get? loc = some (.file content) := by
    refine hgs.keeps hbase (not_ends_of_ends hloc (by decide)) (fun f hf hput => ?_) ?_ hfile
    · have hmem : f ∈ g.files := hfiles.subset (List.mem_append_right _ hf)
      exact h.policy hloc ⟨hmem, (SourceFile.PutAt.congr hfs.extends.current).1 hput⟩
    · cases fs with
      | cons f fs => exact .inl (hfs.entered hbase (List.cons_ne_nil _ _))
      | nil =>
        obtain rfl : g.start = w := (Prod.mk.inj hperform).2
        refine .inr fun f hf => h.first content hfile f ?_
        obtain ⟨rest, hrest⟩ := hfiles
        rw [← hrest, List.nil_append, List.head?_append, Option.mem_def.1 hf]
        rfl
  dsimp only
  rw [Job.perform_bind]
  generalize (Job.exportFiles g.options.exporter g.options.outputRoot gs).perform w g.disk = x
    at hkept ⊢
  rcases x with ⟨e | report', w'⟩ <;> exact hkept

/-- From one number of files to a larger one a run that spares the place of a stub keeps the file
there. -/
theorem Spares.keepsFile_treeAfter (h : g.Spares loc) (hloc : Ends loc FileKind.classStub.ending)
    {i j : Nat} (hij : i ≤ j) : FileTree.KeepsFile loc (g.treeAfter i) (g.treeAfter j) := by
  have hsplit := List.take_append_drop i (g.files.take j)
  rw [List.take_take, Nat.min_eq_left hij] at hsplit
  have hkeeps := h.keepsFile_append hloc (hsplit ▸ List.take_prefix j g.files)
  rwa [hsplit] at hkeeps

theorem keepsFile_outcome (hloc : Ends loc FileKind.classStub.ending) :
    FileTree.KeepsFile loc (g.treeAfter g.files.length) g.outcome.2.tree := by
  intro content hfile
  rw [treeAfter, List.take_length] at hfile
  exact (Job.perform_generate g.options g.source g.start g.disk).changes.file loc content
    (not_ends_of_ends hloc (by decide)) hfile

/-- A run that spares the place of a stub keeps a file there from its beginning on and to its
end. -/
theorem Spares.keepsFile_of_mem_trees (h : g.Spares loc)
    (hloc : Ends loc FileKind.classStub.ending) {t : FileTree} (ht : t ∈ g.trees) :
    g.start.tree.KeepsFile loc t ∧ t.KeepsFile loc g.outcome.2.tree := by
  have hend {i : Nat} (hi : i ≤ g.files.length) :
      (g.treeAfter i).KeepsFile loc g.outcome.2.tree :=
    (h.keepsFile_treeAfter hloc hi).trans (keepsFile_outcome hloc)
  rw [trees, List.mem_append, List.mem_map] at ht
  rcases ht with ⟨i, hi, rfl⟩ | ht
  · rw [List.mem_range] at hi
    exact ⟨h.keepsFile_treeAfter hloc (Nat.zero_le i), hend (by omega)⟩
  · obtain rfl := List.mem_singleton.1 ht
    exact ⟨hend (Nat.zero_le _), .refl _ _⟩

/-- A run that spares the place of a stub keeps a file there, from when it is made. -/
theorem Spares.pairwise_trees (h : g.Spares loc) (hloc : Ends loc FileKind.classStub.ending) :
    g.trees.Pairwise (FileTree.KeepsFile loc) := by
  have hmem {t : FileTree} (ht : t ∈ (List.range (g.files.length + 1)).map g.treeAfter) :=
    h.keepsFile_of_mem_trees hloc (List.mem_append_left [g.outcome.2.tree] ht)
  rw [trees, List.pairwise_append, List.pairwise_map]
  refine ⟨?_, List.pairwise_singleton _ _, fun t ht t' ht' => ?_⟩
  · exact List.pairwise_lt_range.imp fun hlt => h.keepsFile_treeAfter hloc (Nat.le_of_lt hlt)
  · obtain rfl := List.mem_singleton.1 ht'
    exact (hmem ht).2

/-- A run that does not spare the place of a stub leaves generated content there, if it comes to
its end. -/
theorem replaces_of_not_spares (h : ¬g.Spares loc) (hloc : Ends loc FileKind.classStub.ending)
    (hok : g.outcome.1.isOk = true) :
    ∃ f, g.Puts f loc ∧ g.outcome.2.tree.get? loc = some (.file f.content) := by
  have htemp : ¬Ends loc temporaryEnding := not_ends_of_ends hloc (by decide)
  have hcompletes := Job.perform_generate g.options g.source g.start g.disk
  have hall := Job.perform_exportFiles g.options.exporter g.options.outputRoot
    (Job.files g.options g.source g.start) g.start g.disk
  have hreplaced : (∃ f ∈ g.files, f.PutAt g.options.outputRoot g.start.tree loc ∧
        f.policy ≠ .createOnce) ∨
      ∃ f ∈ g.files.head?, f.MissedAt g.options.outputRoot g.start.tree loc := by
    by_contra hno
    rw [not_or] at hno
    refine h ⟨fun f hf hkind => ?_, fun content hfile f hf hmissed => ?_⟩
    · refine hno.1 ⟨f, hf.1, hf.2, ?_⟩
      rw [(isUsual_of_mem hf.1).policy, hkind]
      decide
    · exact hno.2 ⟨f, hf, hmissed⟩
  obtain ⟨f, hf, hput, hfile⟩ :=
    hall.replaces (hcompletes.isOk hok) (List.Subset.refl _) htemp hreplaced
  refine ⟨f, ⟨hf, (SourceFile.PutAt.congr hall.extends.current).1 hput⟩, ?_⟩
  exact hcompletes.changes.file loc _ (not_ends_of_ends hloc (by decide)) hfile

end GenerationRun

/-! ### Many runs -/

/-- What happens to a project: a run that generates, on a disk, or anything else. -/
inductive Event where
  | run (o : RunOptions) (s : Source) (disk : Disk := .sound)
  | other (change : World → World)

/-- The runs that generate, each in the world in which it starts. -/
def runs (w : World) : List Event → List GenerationRun
  | [] => []
  | .run o s disk :: es => ⟨o, s, w, disk⟩ :: runs (GenerationRun.mk o s w disk).outcome.2 es
  | .other change :: es => runs (change w) es

/-- What else happens: the trees before and after. -/
def otherChanges (w : World) : List Event → List (FileTree × FileTree)
  | [] => []
  | .run o s disk :: es => otherChanges (GenerationRun.mk o s w disk).outcome.2 es
  | .other change :: es => (w.tree, (change w).tree) :: otherChanges (change w) es

/-- All trees that a project goes through. -/
def history (w : World) : List Event → List FileTree
  | [] => [w.tree]
  | .run o s disk :: es =>
    (GenerationRun.mk o s w disk).trees ++ history (GenerationRun.mk o s w disk).outcome.2 es
  | .other change :: es => w.tree :: history (change w) es

/-- A file at the place of a stub stays through the whole history, if all runs spare it and
nothing else touches it. -/
theorem pairwise_history {w : World} {es : List Event} {loc : Location}
    (hloc : Ends loc FileKind.classStub.ending) (hruns : ∀ g ∈ runs w es, g.Spares loc)
    (hother : ∀ x ∈ otherChanges w es, x.1.KeepsFile loc x.2) :
    (∀ t ∈ history w es, w.tree.KeepsFile loc t) ∧
      (history w es).Pairwise (FileTree.KeepsFile loc) := by
  induction es generalizing w with
  | nil =>
    rw [history, List.forall_mem_singleton]
    exact ⟨.refl _ _, List.pairwise_singleton _ _⟩
  | cons e es ih =>
    cases e with
    | run o s disk =>
      rw [runs, List.forall_mem_cons] at hruns
      obtain ⟨hspares, hruns⟩ := hruns
      obtain ⟨hlater, hpairwise⟩ := ih hruns hother
      have htrees {t : FileTree} (ht : t ∈ (GenerationRun.mk o s w disk).trees) :=
        hspares.keepsFile_of_mem_trees hloc ht
      rw [history, List.forall_mem_append, List.pairwise_append]
      refine ⟨⟨fun t ht => (htrees ht).1, fun t ht => ?_⟩, hspares.pairwise_trees hloc, hpairwise,
        fun t ht t' ht' => (htrees ht).2.trans (hlater t' ht')⟩
      exact ((htrees (List.mem_append_right _ (List.mem_singleton.2 rfl))).1).trans (hlater t ht)
    | other change =>
      rw [otherChanges, List.forall_mem_cons] at hother
      obtain ⟨hlater, hpairwise⟩ := ih hruns hother.2
      have hall (t : FileTree) (ht : t ∈ history (change w) es) : w.tree.KeepsFile loc t :=
        FileTree.KeepsFile.trans hother.1 (hlater t ht)
      rw [history, List.forall_mem_cons, List.pairwise_cons]
      exact ⟨⟨.refl _ _, hall⟩, hall, hpairwise⟩

/-- What happens to a file at the place where some run puts a stub: the runs that spare it keep
it, and so does the whole history if all runs spare it and nothing else touches it; any other run
that comes to its end replaces it by generated content. -/
theorem stub_kept_iff_spared (w : World) (es : List Event) (loc : Location)
    (hstub : ∃ g ∈ runs w es, g.PutsStub loc) :
    (∀ g ∈ runs w es, g.Spares loc → g.trees.Pairwise (FileTree.KeepsFile loc)) ∧
      ((∀ g ∈ runs w es, g.Spares loc) → (∀ x ∈ otherChanges w es, x.1.KeepsFile loc x.2) →
        (history w es).Pairwise (FileTree.KeepsFile loc)) ∧
      ∀ g ∈ runs w es, ¬g.Spares loc → g.outcome.1.isOk = true →
        ∃ f, g.Puts f loc ∧ g.outcome.2.tree.get? loc = some (.file f.content) := by
  obtain ⟨g, -, f, hf, hkind⟩ := hstub
  have hloc : Ends loc FileKind.classStub.ending := hkind ▸ hf.ends
  refine ⟨fun g _ h => h.pairwise_trees hloc, fun hruns hother => ?_, fun g _ h hok => ?_⟩
  · exact (pairwise_history hloc hruns hother).2
  · exact GenerationRun.replaces_of_not_spares h hloc hok

/-! ### A service for books -/

/-- The description of a service for books with the given data types. -/
def bookDescription (types : Catalog TypeDefinition) : ApiDescription :=
  let controller : Controller :=
    ⟨"Book", none, true, false, none, "Acme.BookController", [⟨"Acme.IBookService", none, []⟩],
      .empty⟩
  let controllers : Catalog Controller := ⟨[("book", controller)], List.pairwise_singleton _ _⟩
  ⟨⟨[("app", ⟨"app", "Default", controllers⟩)], List.pairwise_singleton _ _⟩, types⟩

/-- A data type that is named like the proxy class of the service. -/
def bookNamesake : Catalog TypeDefinition :=
  ⟨[("Acme.BookClientProxy", ⟨none, false, none, none, none, none⟩)],
    List.pairwise_singleton _ _⟩

/-- The place of the stub of the proxy class. -/
def bookStub : Location := ["ClientProxies", "Acme", "BookClientProxy.cs"]

/-- A world in which the user has written the stub. -/
def bookWorld : World where
  tree := ⟨.directory [("App.csproj", .file ""), ("ClientProxies", .directory
    [("Acme", .directory [("BookClientProxy.cs", .file "// mine\n")])])], []⟩
  network := .silent

/-- A run without data types, a run into a folder behind a directory that is missing, and a run
with the namesake. In between the user puts everything back. -/
def bookEvents : List Event :=
  [.run { workDirectory := ⟨.here, []⟩ } (.given "inline" (.ok (bookDescription .empty))),
    .other fun _ => bookWorld,
    .run { workDirectory := ⟨.here, []⟩, givenFolder? := some "later/../ClientProxies/Acme" }
      (.given "inline" (.ok (bookDescription .empty))),
    .other fun _ => bookWorld,
    .run { workDirectory := ⟨.here, []⟩ } (.given "inline" (.ok (bookDescription bookNamesake)))]

/-- The first run keeps the stub of the user, the others replace it. -/
theorem bookStub_kept_once :
    (∃ g ∈ runs bookWorld bookEvents, g.PutsStub bookStub) ∧
      (∀ g ∈ (runs bookWorld bookEvents).take 1,
        g.trees.Pairwise (FileTree.KeepsFile bookStub)) ∧
      ∀ g ∈ (runs bookWorld bookEvents).drop 1,
        ∃ f, g.Puts f bookStub ∧ g.outcome.2.tree.get? bookStub = some (.file f.content) := by
  have hstub : ∃ g ∈ runs bookWorld bookEvents, g.PutsStub bookStub := by decide +kernel
  have hspared : ∀ g ∈ (runs bookWorld bookEvents).take 1, g.Spares bookStub := by decide +kernel
  have hnot : ∀ g ∈ (runs bookWorld bookEvents).drop 1,
      ¬g.Spares bookStub ∧ g.outcome.1.isOk = true := by decide +kernel
  obtain ⟨hkept, -, hreplaced⟩ := stub_kept_iff_spared bookWorld bookEvents bookStub hstub
  refine ⟨hstub, fun g hg => ?_, fun g hg => ?_⟩
  · exact hkept g (List.mem_of_mem_take hg) (hspared g hg)
  · exact hreplaced g (List.mem_of_mem_drop hg) (hnot g hg).1 (hnot g hg).2

end ApiProxy
