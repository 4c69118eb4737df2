import ApiProxy.Generation
import ApiProxy.Proofs.Except
import ApiProxy.Proofs.Text.Dotted

/-!
# The names of generated files

The path of a generated file ends as all paths of its kind do, and the file has the policy of its
kind. The name of a service interface ends in `Service`, since only controllers of services get
files.

## Main definitions

* `FileKind.ending`: how the paths of files of a kind end.
* `Controller.stubPath`, `Controller.classPath`, `Controller.contractPath`, `DataType.path`: the
  paths of generated files.

## Main results

* `ApiDescription.mem_controllerFiles`, `ApiDescription.mem_dataTypeFiles`: the kinds, endings and
  policies of generated files.
* `ApiDescription.paths_of_controllerFiles`: the paths of the files of all controllers.
-/

namespace ApiProxy

open Text

/-- How the paths of files of a kind end. -/
def FileKind.ending : FileKind → String
  | classStub => "ClientProxy.cs"
  | proxyClass => "ClientProxy.Generated.cs"
  | serviceInterface => "Service.cs"
  | dataType => ".cs"

/-- A file has the policy of its kind, and its path ends like those of its kind. -/
structure SourceFile.IsUsual (f : SourceFile) : Prop where
  policy : f.policy = f.kind.policy
  path : ∃ s, f.path = s ++ f.kind.ending

theorem Arrangement.exists_path_eq (a : Arrangement) (ns stem : String) :
    ∃ s, ∀ ending, a.path ns (stem ++ ending) = s ++ ending := by
  cases a with
  | flat => exact ⟨stem, fun _ => rfl⟩
  | namespaced =>
    by_cases hns : ns = ""
    · exact ⟨stem, fun _ => if_pos hns⟩
    · exact ⟨namespaceFolder ns ++ "/" ++ stem, fun ending =>
        (if_neg hns).trans (String.append_assoc ..).symm⟩

/-- A service ending without a dot ends the last segment of a name that it ends. -/
theorem suffix_lastSegment {tail name : String} (hdot : '.' ∉ tail.toList)
    (h : tail.toList <:+ name.toList) : tail.toList <:+ (lastSegment name).toList := by
  obtain ⟨front, hfront⟩ := h
  rw [lastSegment, String.toList_ofList, ← hfront, lastSegmentChars_append front hdot]
  exact List.suffix_append _ _

theorem suffix_of_isSome_serviceEnding? {type : String} (h : (serviceEnding? type).isSome = true) :
    "Service".toList <:+ type.toList := by
  obtain ⟨ending, hending⟩ := Option.isSome_iff_exists.1 h
  have hall : ∀ e ∈ serviceEndings, "Service".toList <:+ e.toList := by decide
  have hsuffix := hall ending (List.mem_of_find?_eq_some hending)
  have htype := (List.find?_eq_some_iff_append.1 hending).1
  rw [endsWith, List.isSuffixOf_iff_suffix] at htype
  exact hsuffix.trans htype

theorem exists_lastSegment_eq {type : String} (h : (serviceEnding? type).isSome = true) :
    ∃ s, lastSegment type = s ++ "Service" := by
  obtain ⟨front, hfront⟩ :=
    suffix_lastSegment (by decide) (suffix_of_isSome_serviceEnding? h)
  refine ⟨String.ofList front, String.toList_inj.1 ?_⟩
  rw [String.toList_append, String.toList_ofList, hfront]

namespace Controller

/-- The name of the service that a controller is generated for, without its namespace. -/
def serviceName (c : Controller) : String :=
  lastSegment ((c.primaryInterface?.map (·.type)).getD "")

/-- The path of the stub of a proxy class. -/
def stubPath (a : Arrangement) (c : Controller) : String :=
  a.path c.namespaceName (c.className ++ ".cs")

/-- The path of a proxy class. -/
def classPath (a : Arrangement) (c : Controller) : String :=
  a.path c.namespaceName (c.className ++ ".Generated.cs")

/-- The path of the interface of a service. -/
def contractPath (a : Arrangement) (c : Controller) : String :=
  a.path c.namespaceName (c.serviceName ++ ".cs")

/-- The paths of a proxy class and of its stub differ in how they end only. -/
theorem exists_stubPath_eq (a : Arrangement) (c : Controller) :
    ∃ s, c.stubPath a = s ++ FileKind.classStub.ending ∧
      c.classPath a = s ++ FileKind.proxyClass.ending := by
  obtain ⟨s, hs⟩ := a.exists_path_eq c.namespaceName c.controllerName
  rw [stubPath, classPath, className, String.append_assoc, String.append_assoc]
  exact ⟨s, hs _, hs _⟩

/-- The path of the interface of a service ends like those of its kind. -/
theorem exists_contractPath_eq (a : Arrangement) {c : Controller} (h : c.isService = true) :
    ∃ s, c.contractPath a = s ++ FileKind.serviceInterface.ending := by
  rw [isService] at h
  split at h
  · next i hi =>
    obtain ⟨stem, hstem⟩ := exists_lastSegment_eq h
    obtain ⟨s, hs⟩ := a.exists_path_eq c.namespaceName stem
    refine ⟨s, ?_⟩
    rw [contractPath, serviceName, hi, Option.map_some, Option.getD_some, hstem,
      String.append_assoc]
    exact hs _
  · exact nomatch h

variable {a : Arrangement} {c : Controller} {i : ServiceInterface} {f : SourceFile}

theorem stubFile_eq_ok (h : c.stubFile a = .ok f) :
    ∃ content, f = .ofKind (c.stubPath a) content .classStub := by
  obtain ⟨content, -, h⟩ := bind_eq_ok.1 h
  exact ⟨content, (Except.ok.inj h).symm⟩

theorem classFile_eq_ok (h : c.classFile a i = .ok f) :
    ∃ content, f = .ofKind (c.classPath a) content .proxyClass := by
  obtain ⟨content, -, h⟩ := bind_eq_ok.1 h
  exact ⟨content, (Except.ok.inj h).symm⟩

theorem interfaceFile_eq_ok (hi : c.primaryInterface? = some i)
    (h : c.interfaceFile a i = .ok f) :
    ∃ content, f = .ofKind (c.contractPath a) content .serviceInterface := by
  obtain ⟨content, -, h⟩ := bind_eq_ok.1 h
  rw [contractPath, serviceName, hi]
  exact ⟨content, (Except.ok.inj h).symm⟩

/-- The files of the controller of a service. -/
theorem files_eq_ok {o : GeneratorOptions} {files : List SourceFile}
    (hservice : c.isService = true) (h : c.files o = .ok files) : ∃ stub proxy contract,
      files = .ofKind (c.stubPath o.arrangement) stub .classStub ::
        .ofKind (c.classPath o.arrangement) proxy .proxyClass ::
          if o.withContracts then
            [.ofKind (c.contractPath o.arrangement) contract .serviceInterface] else [] := by
  rw [Controller.files] at h
  rw [isService] at hservice
  split at h
  · next hi =>
    rw [hi] at hservice
    exact nomatch hservice
  next i hi =>
  obtain ⟨f, hstub, h⟩ := bind_eq_ok.1 h
  obtain ⟨f', hproxy, h⟩ := bind_eq_ok.1 h
  obtain ⟨stub, rfl⟩ := stubFile_eq_ok hstub
  obtain ⟨proxy, rfl⟩ := classFile_eq_ok hproxy
  split at h
  · next hcontracts =>
    obtain ⟨f'', hcontract, h⟩ := bind_eq_ok.1 h
    obtain ⟨contract, rfl⟩ := interfaceFile_eq_ok hi hcontract
    exact ⟨stub, proxy, contract, by rw [if_pos hcontracts]; exact (Except.ok.inj h).symm⟩
  · next hcontracts =>
    exact ⟨stub, proxy, "", by rw [if_neg hcontracts]; exact (Except.ok.inj h).symm⟩

/-- The paths of the files of the controller of a service. -/
theorem paths_of_files {o : GeneratorOptions} {files : List SourceFile}
    (hservice : c.isService = true) (h : c.files o = .ok files) :
    files.map (·.path) = c.stubPath o.arrangement :: c.classPath o.arrangement ::
      if o.withContracts then [c.contractPath o.arrangement] else [] := by
  obtain ⟨stub, proxy, contract, rfl⟩ := files_eq_ok hservice h
  split <;> rfl

/-- The kinds of the files of the controller of a service. -/
theorem kinds_of_files {o : GeneratorOptions} {files : List SourceFile}
    (hservice : c.isService = true) (h : c.files o = .ok files) :
    files.map (·.kind) = .classStub :: .proxyClass ::
      if o.withContracts then [.serviceInterface] else [] := by
  obtain ⟨stub, proxy, contract, rfl⟩ := files_eq_ok hservice h
  split <;> rfl

/-- The files of the controller of a service have the policies and the endings of their kinds. -/
theorem mem_files {o : GeneratorOptions} {files : List SourceFile} (hservice : c.isService = true)
    (h : c.files o = .ok files) (hf : f ∈ files) : f.IsUsual ∧ f.kind ≠ .dataType := by
  obtain ⟨stub, proxy, contract, rfl⟩ := files_eq_ok hservice h
  obtain ⟨s, hstub, hproxy⟩ := exists_stubPath_eq o.arrangement c
  obtain ⟨s', hcontract⟩ := exists_contractPath_eq o.arrangement hservice
  rcases List.mem_cons.1 hf with rfl | hf
  · exact ⟨⟨rfl, s, hstub⟩, nofun⟩
  rcases List.mem_cons.1 hf with rfl | hf
  · exact ⟨⟨rfl, s, hproxy⟩, nofun⟩
  split at hf
  · obtain rfl := List.mem_singleton.1 hf
    exact ⟨⟨rfl, s', hcontract⟩, nofun⟩
  · exact absurd hf List.not_mem_nil

end Controller

/-- The path of the file of a data type. -/
def DataType.path (a : Arrangement) (t : DataType) : String :=
  a.path t.namespaceName (t.fileStem ++ ".cs")

namespace ApiDescription

variable {m : ApiDescription} {o : GeneratorOptions} {files : List SourceFile} {f : SourceFile}

/-- The files of the controllers of a description. -/
theorem mem_controllerFiles (h : m.controllerFiles o = .ok files) (hf : f ∈ files) :
    f.IsUsual ∧ f.kind ≠ .dataType := by
  obtain ⟨parts, hparts, h⟩ := bind_eq_ok.1 h
  obtain rfl : parts.flatten = files := Except.ok.inj h
  obtain ⟨part, hpart, hf⟩ := List.mem_flatten.1 hf
  obtain ⟨c, hc, hfiles⟩ := mem_of_mapM_eq_ok hparts hpart
  exact Controller.mem_files (List.mem_filter.1 hc).2 hfiles hf

/-- The paths of the files of the controllers of a description, in their order. -/
theorem paths_of_controllerFiles (h : m.controllerFiles o = .ok files) :
    files.map (·.path) = m.serviceControllers.flatMap fun c =>
      c.stubPath o.arrangement :: c.classPath o.arrangement ::
        if o.withContracts then [c.contractPath o.arrangement] else [] := by
  obtain ⟨parts, hparts, h⟩ := bind_eq_ok.1 h
  obtain rfl : parts.flatten = files := Except.ok.inj h
  rw [List.map_flatten, List.flatMap_def]
  congr 1
  exact map_eq_of_mapM_eq_ok hparts fun c hc part hpart =>
    Controller.paths_of_files (List.mem_filter.1 hc).2 hpart

/-- The kinds of the files of the controllers of a description, in their order. -/
theorem kinds_of_controllerFiles (h : m.controllerFiles o = .ok files) :
    files.map (·.kind) = m.serviceControllers.flatMap fun _ => .classStub :: .proxyClass ::
      if o.withContracts then [.serviceInterface] else [] := by
  obtain ⟨parts, hparts, h⟩ := bind_eq_ok.1 h
  obtain rfl : parts.flatten = files := Except.ok.inj h
  rw [List.map_flatten, List.flatMap_def]
  congr 1
  exact map_eq_of_mapM_eq_ok hparts fun c hc part hpart =>
    Controller.kinds_of_files (List.mem_filter.1 hc).2 hpart

/-- The files of the data types of a description. -/
theorem mem_dataTypeFiles (h : m.dataTypeFiles o = .ok files) (hf : f ∈ files) :
    f.IsUsual ∧ f.kind = .dataType := by
  obtain ⟨types, -, h⟩ := bind_eq_ok.1 h
  obtain rfl := Except.ok.inj h
  obtain ⟨t, -, rfl⟩ := List.mem_map.1 hf
  obtain ⟨s, hs⟩ := o.arrangement.exists_path_eq t.namespaceName t.fileStem
  exact ⟨⟨rfl, s, hs _⟩, rfl⟩

theorem isUsual_of_generate (h : m.generate o = .ok files) (hf : f ∈ files) : f.IsUsual := by
  obtain ⟨classes, hclasses, h⟩ := bind_eq_ok.1 h
  split at h
  · obtain ⟨types, htypes, h⟩ := bind_eq_ok.1 h
    obtain rfl := Except.ok.inj h
    rcases List.mem_append.1 hf with hf | hf
    · exact (mem_controllerFiles hclasses hf).1
    · exact (mem_dataTypeFiles htypes hf).1
  · obtain rfl := Except.ok.inj h
    exact (mem_controllerFiles hclasses hf).1

end ApiDescription

end ApiProxy
