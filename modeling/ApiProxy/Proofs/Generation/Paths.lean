import ApiProxy.Proofs.Export.Placement
import ApiProxy.Proofs.Generation.Selection
import ApiProxy.Proofs.TypeRef.DisplayName
import Mathlib.Data.List.Perm.Basic

/-!
# Which generated files share a path

Nothing keeps two controllers, two services or two data types of a description apart when the
paths of their files are made: of a name only what follows its last dot is used, the arguments of
a generic type are cut off, and without folders for namespaces all of them meet in one folder. A
data type may also be named like a proxy class or like a service.

These are all the ways in which two generated files can share a path. How the paths of the kinds
end rules out the others; a data type never meets a proxy class, since no dot is left in its path
but the one in front of `cs`.

## Main definitions

* `ApiDescription.Distinguishes`: a way to tell paths apart, as texts or as places.
* `ApiDescription.Apart`: no two controllers, services or data types are given the same path.

## Main results

* `ApiDescription.exists_paths_nodup_iff`: when the generated paths are pairwise distinct, as
  texts and as places.
-/

namespace ApiProxy

open Text

/-! ### The dots in a path -/

theorem not_mem_namespaceFolder (ns : String) : '.' ∉ (namespaceFolder ns).toList := by
  rw [namespaceFolder, String.toList_ofList, List.mem_map]
  rintro ⟨c, -, hc⟩
  split at hc
  · exact absurd hc (by decide)
  · next hne => exact hne hc

theorem Arrangement.not_mem_path (a : Arrangement) (ns : String) {name : String}
    (hname : '.' ∉ name.toList) : '.' ∉ (a.path ns name).toList := by
  cases a with
  | flat => exact hname
  | namespaced =>
    rw [Arrangement.path]
    split
    · exact hname
    · rw [String.toList_append, String.toList_append, List.mem_append, List.mem_append, not_or,
        not_or]
      exact ⟨⟨not_mem_namespaceFolder ns, by decide⟩, hname⟩

/-- The path of a data type has no dot but the one of its ending. -/
theorem DataType.exists_path_eq {m : ApiDescription} {types : List DataType} {t : DataType}
    (h : ofDescription m = .ok types) (ht : t ∈ types) (a : Arrangement) :
    ∃ s, t.path a = s ++ FileKind.dataType.ending ∧ '.' ∉ s.toList := by
  obtain ⟨e, he, htype⟩ := mem_of_mapM_eq_ok h ht
  obtain ⟨content, -, htype⟩ := bind_eq_ok.1 htype
  obtain rfl := Except.ok.inj htype
  obtain ⟨s, hs⟩ := a.exists_path_eq _ (stem _)
  refine ⟨s, hs _, ?_⟩
  rw [← String.append_empty (s := s), ← hs "", String.append_empty]
  refine a.not_mem_path _ ?_
  rw [stem, String.toList_ofList]
  exact fun hdot => TypeRef.not_mem_displayWith true _ ((List.takeWhile_prefix _).subset hdot)

/-! ### The paths of all files -/

namespace ApiDescription

variable (o : GeneratorOptions) (m : ApiDescription)

/-- The paths of the stubs of all proxy classes. -/
def stubPaths : List String := m.serviceControllers.map (·.stubPath o.arrangement)

/-- The paths of all proxy classes. -/
def classPaths : List String := m.serviceControllers.map (·.classPath o.arrangement)

/-- The paths of the interfaces of all services. -/
def contractPaths : List String :=
  if o.withContracts then m.serviceControllers.map (·.contractPath o.arrangement) else []

/-- The paths of data types. -/
def dataTypePaths (types : List DataType) : List String :=
  if o.withContracts then types.map (·.path o.arrangement) else []

/-- The paths of all files, by their kinds. -/
theorem paths_perm {files : List SourceFile} {types : List DataType}
    (h : m.generate o = .ok files) (htypes : DataType.ofDescription m = .ok types) :
    (files.map (·.path)).Perm
      (m.stubPaths o ++ (m.classPaths o ++ m.contractPaths o) ++ dataTypePaths o types) := by
  obtain ⟨classes, hclasses⟩ := m.exists_controllerFiles_eq_ok o
  rw [generate_eq_ok hclasses htypes] at h
  obtain rfl := Except.ok.inj h
  have htypePaths : (if o.withContracts then types.map (·.file o.arrangement) else []).map
      (·.path) = dataTypePaths o types := by
    rw [dataTypePaths]
    split
    · rw [List.map_map]
      rfl
    · rfl
  have hcontractPaths : (m.serviceControllers.flatMap fun c =>
      if o.withContracts then [c.contractPath o.arrangement] else []) = m.contractPaths o := by
    rw [contractPaths]
    split
    · exact List.map_eq_flatMap.symm
    · exact List.flatMap_eq_nil_iff.2 fun _ _ => rfl
  rw [List.map_append, paths_of_controllerFiles hclasses, htypePaths, ← hcontractPaths]
  exact ((List.map_append_flatMap_perm _ _ _).symm.trans
    ((List.map_append_flatMap_perm _ _ _).symm.append_left _)).append_right _

/-- How paths are told apart: as texts, or by the names through which they lead. -/
structure Distinguishes {β : Type} (k : String → β) : Prop where
  names : ∀ p q, k p = k q → pathNames p = pathNames q
  ending : ∀ s s' ending ending' : String, IsEnding ending → IsEnding ending' →
    k (s ++ ending) = k (s' ++ ending) → k (s ++ ending') = k (s' ++ ending')

theorem distinguishes_id : Distinguishes id where
  names _ _ h := congrArg pathNames h
  ending _ _ _ ending' _ _ h := congrArg (· ++ ending') ((String.append_left_inj _).1 h)

theorem distinguishes_pathNames : Distinguishes pathNames where
  names _ _ h := h
  ending _ _ _ _ hending hending' h := (pathNames_append_inj hending hending').1 h

/-- No two controllers, no two services and no two data types have the same path, and no data
type has the path of a stub or of the interface of a service. -/
structure Apart {β : Type} (k : String → β) (types : List DataType) : Prop where
  stubs : ((m.stubPaths o).map k).Nodup
  contracts : ((m.contractPaths o).map k).Nodup
  dataTypes : ((dataTypePaths o types).map k).Nodup
  stub_dataType : ∀ p ∈ m.stubPaths o, ∀ q ∈ dataTypePaths o types, k p ≠ k q
  contract_dataType : ∀ p ∈ m.contractPaths o, ∀ q ∈ dataTypePaths o types, k p ≠ k q

variable {o m}

theorem mem_stubPaths {p : String} (h : p ∈ m.stubPaths o) :
    ∃ s, p = s ++ FileKind.classStub.ending := by
  obtain ⟨c, -, rfl⟩ := List.mem_map.1 h
  obtain ⟨s, hs, -⟩ := c.exists_stubPath_eq o.arrangement
  exact ⟨s, hs⟩

theorem mem_classPaths {p : String} (h : p ∈ m.classPaths o) :
    ∃ s, p = s ++ FileKind.proxyClass.ending := by
  obtain ⟨c, -, rfl⟩ := List.mem_map.1 h
  obtain ⟨s, -, hs⟩ := c.exists_stubPath_eq o.arrangement
  exact ⟨s, hs⟩

theorem mem_contractPaths {p : String} (h : p ∈ m.contractPaths o) :
    ∃ s, p = s ++ FileKind.serviceInterface.ending := by
  rw [contractPaths] at h
  split at h
  · obtain ⟨c, hc, rfl⟩ := List.mem_map.1 h
    exact c.exists_contractPath_eq o.arrangement (List.mem_filter.1 hc).2
  · exact absurd h List.not_mem_nil

theorem mem_dataTypePaths {types : List DataType} {p : String}
    (htypes : DataType.ofDescription m = .ok types) (h : p ∈ dataTypePaths o types) :
    ∃ s, p = s ++ FileKind.dataType.ending ∧ '.' ∉ s.toList := by
  rw [dataTypePaths] at h
  split at h
  · obtain ⟨t, ht, rfl⟩ := List.mem_map.1 h
    exact DataType.exists_path_eq htypes ht o.arrangement
  · exact absurd h List.not_mem_nil

/-- Paths with endings none of which ends the other differ. -/
theorem ne_of_endings {β : Type} {k : String → β} (hk : Distinguishes k) {p q : String}
    {kind kind' : FileKind} (hp : ∃ s, p = s ++ kind.ending) (hq : ∃ s, q = s ++ kind'.ending)
    (h : ¬kind.ending.toList <:+ kind'.ending.toList)
    (h' : ¬kind'.ending.toList <:+ kind.ending.toList) : k p ≠ k q := by
  obtain ⟨s, rfl⟩ := hp
  obtain ⟨s', rfl⟩ := hq
  intro heq
  exact (suffix_or_suffix_of_pathNames kind.isEnding kind'.isEnding (hk.names _ _ heq)).elim h h'

/-- A proxy class never shares its place with a data type: its name has one dot more. -/
theorem pathNames_class_ne_dataType {s s' : String} (hs' : '.' ∉ s'.toList) :
    pathNames (s ++ FileKind.proxyClass.ending) ≠ pathNames (s' ++ FileKind.dataType.ending) := by
  obtain ⟨front, last, -, hs⟩ := exists_pathNames_append s
  obtain ⟨front', last', hlast', hs'_⟩ := exists_pathNames_append s'
  rw [hs _ FileKind.proxyClass.isEnding, hs'_ _ FileKind.dataType.isEnding]
  intro heq
  obtain ⟨-, heq⟩ := List.append_inj' heq rfl
  have hname : last ++ "ClientProxy.Generated" ++ ".cs" = last' ++ ".cs" :=
    (String.append_assoc ..).trans (List.head_eq_of_cons_eq heq)
  have hlast : last ++ "ClientProxy.Generated" = last' := (String.append_left_inj _).1 hname
  refine hs' (subset_of_mem_slashParts hlast' ?_)
  rw [← hlast, String.toList_append]
  exact List.mem_append_right _ (by decide)

theorem nodup_classPaths {β : Type} {k : String → β} (hk : Distinguishes k) :
    ((m.classPaths o).map k).Nodup ↔ ((m.stubPaths o).map k).Nodup := by
  simp only [classPaths, stubPaths, List.map_map, List.Nodup, List.pairwise_map]
  refine List.Pairwise.iff fun c c' => not_congr ?_
  obtain ⟨s, hstub, hclass⟩ := c.exists_stubPath_eq o.arrangement
  obtain ⟨s', hstub', hclass'⟩ := c'.exists_stubPath_eq o.arrangement
  rw [Function.comp_apply, Function.comp_apply, Function.comp_apply, Function.comp_apply, hstub,
    hclass, hstub', hclass']
  exact ⟨hk.ending _ _ _ _ FileKind.proxyClass.isEnding FileKind.classStub.isEnding,
    hk.ending _ _ _ _ FileKind.classStub.isEnding FileKind.proxyClass.isEnding⟩

/-- The paths of all files are told apart exactly if those are that may meet. -/
theorem nodup_paths_iff {β : Type} {k : String → β} (hk : Distinguishes k)
    {files : List SourceFile} {types : List DataType}
    (h : m.generate o = .ok files) (htypes : DataType.ofDescription m = .ok types) :
    ((files.map (·.path)).map k).Nodup ↔ m.Apart o k types := by
  have hstub_class : ∀ p ∈ m.stubPaths o, ∀ q ∈ m.classPaths o, k p ≠ k q :=
    fun p hp q hq => ne_of_endings hk (mem_stubPaths hp) (mem_classPaths hq) (by decide)
      (by decide)
  have hstub_contract : ∀ p ∈ m.stubPaths o, ∀ q ∈ m.contractPaths o, k p ≠ k q :=
    fun p hp q hq => ne_of_endings hk (mem_stubPaths hp) (mem_contractPaths hq) (by decide)
      (by decide)
  have hclass_contract : ∀ p ∈ m.classPaths o, ∀ q ∈ m.contractPaths o, k p ≠ k q :=
    fun p hp q hq => ne_of_endings hk (mem_classPaths hp) (mem_contractPaths hq) (by decide)
      (by decide)
  have hclass_dataType : ∀ p ∈ m.classPaths o, ∀ q ∈ dataTypePaths o types, k p ≠ k q := by
    intro p hp q hq heq
    obtain ⟨s, rfl⟩ := mem_classPaths hp
    obtain ⟨s', rfl, hs'⟩ := mem_dataTypePaths htypes hq
    exact pathNames_class_ne_dataType hs' (hk.names _ _ heq)
  rw [((paths_perm o m h htypes).map k).nodup_iff]
  simp only [List.map_append, List.nodup_append, List.mem_append, List.forall_mem_map,
    nodup_classPaths hk, or_imp, forall_and]
  constructor
  · rintro ⟨⟨hstubs, ⟨-, hcontracts, -⟩, -⟩, hdataTypes, hstub, -, hcontract⟩
    exact ⟨hstubs, hcontracts, hdataTypes, hstub, hcontract⟩
  · rintro ⟨hstubs, hcontracts, hdataTypes, hstub, hcontract⟩
    exact ⟨⟨hstubs, ⟨hstubs, hcontracts, hclass_contract⟩, hstub_class, hstub_contract⟩,
      hdataTypes, hstub, hclass_dataType, hcontract⟩

/-- The generated paths are distinct exactly if no two controllers, services or data types have
the same path and no data type that of a stub or of an interface; and they lead to distinct places
exactly if this holds of the names through which they lead. -/
theorem exists_paths_nodup_iff (o : GeneratorOptions) (m : ApiDescription) : ∃ files types,
    m.generate o = .ok files ∧ DataType.ofDescription m = .ok types ∧
      ((files.map (·.path)).Nodup ↔ m.Apart o id types) ∧
      ((files.map fun f => pathNames f.path).Nodup ↔ m.Apart o pathNames types) := by
  obtain ⟨files, hfiles⟩ := m.exists_generate_eq_ok o
  obtain ⟨types, htypes⟩ := m.exists_ofDescription_eq_ok
  refine ⟨files, types, hfiles, htypes, ?_, ?_⟩
  · rw [← nodup_paths_iff distinguishes_id hfiles htypes, List.map_id]
  · rw [← nodup_paths_iff distinguishes_pathNames hfiles htypes, List.map_map]
    rfl

/-- A controller in a namespace that defines two instances of one generic type. -/
def boxDescription : ApiDescription :=
  let book : Controller :=
    ⟨"Book", none, true, false, none, "Acme.BookController", [], .empty⟩
  let box (type : String) : TypeDefinition :=
    ⟨none, false, none, none, none, some [⟨"Content", none, type, none, false, none, none, none,
      none, none⟩]⟩
  ⟨.ofList [("app", ⟨"app", "Default", .ofList [("book", book)]⟩)],
    .ofList [("Acme.Box<Acme.Cup>", box "Acme.Cup"), ("Acme.Box<Acme.Jug>", box "Acme.Jug")]⟩

/-- Both instances are written to one file. -/
example : (boxDescription.generate ⟨.namespaced, true⟩).toOption.map
    (fun files => files.map (·.path)) = some ["Acme/Box.cs", "Acme/Box.cs"] := by
  decide +kernel

end ApiDescription

end ApiProxy
