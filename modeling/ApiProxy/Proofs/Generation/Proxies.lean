import ApiProxy.Proofs.Generation.Rendering

/-!
# What proxies depend on

The proxy class of a controller and the stub of that class come from the controller and from where
files are placed. Whether contracts are generated with them decides on further files only, and so
do the data types that the description defines.

## Main definitions

* `FileKind.isOfProxy`: the kinds of proxy classes and of their stubs.

## Main results

* `ApiDescription.controllerFiles_of_generate`: the proxies among the files of a description are
  what is generated for its controllers without contracts.
* `ApiDescription.exists_generate_filter_isOfProxy`: descriptions with the same modules have the
  same proxies, with contracts or without them.
-/

namespace ApiProxy

/-- Whether a file of the kind is a proxy class or the stub of one. -/
def FileKind.isOfProxy : FileKind → Bool
  | classStub | proxyClass => true
  | serviceInterface | dataType => false

namespace Controller

variable {o : GeneratorOptions} {c : Controller} {files : List SourceFile}

theorem files_withoutContracts (h : c.files o = .ok files) :
    c.files ⟨o.arrangement, false⟩ = .ok (files.filter (·.kind.isOfProxy)) := by
  cases hi : c.primaryInterface? with
  | none =>
    rw [Controller.files, hi] at h ⊢
    obtain rfl := Except.ok.inj h
    rfl
  | some i =>
    obtain ⟨stub, hstub⟩ := c.exists_stubFile_eq_ok o.arrangement
    obtain ⟨proxy, hproxy⟩ := c.exists_classFile_eq_ok o.arrangement i
    obtain ⟨contract, hcontract⟩ := c.exists_interfaceFile_eq_ok o.arrangement i
    obtain rfl := Except.ok.inj ((files_eq hi hstub hproxy hcontract).symm.trans h)
    have hwithout : c.files ⟨o.arrangement, false⟩ = .ok [stub, proxy] :=
      files_eq hi hstub hproxy hcontract
    rw [hwithout]
    obtain ⟨_, rfl⟩ := stubFile_eq_ok hstub
    obtain ⟨_, rfl⟩ := classFile_eq_ok hproxy
    obtain ⟨_, rfl⟩ := interfaceFile_eq_ok hi hcontract
    split <;> rfl

/-- Without contracts a service has a stub and a proxy class, in this order. -/
theorem proxies_of_files {a : Arrangement} (hservice : c.isService = true)
    (h : c.files ⟨a, false⟩ = .ok files) :
    files.map (fun f => (f.kind, f.path)) =
      [(.classStub, c.stubPath a), (.proxyClass, c.classPath a)] := by
  obtain ⟨stub, proxy, -, rfl⟩ := files_eq_ok hservice h
  rfl

end Controller

namespace ApiDescription

variable {o : GeneratorOptions} {m : ApiDescription} {files : List SourceFile}

theorem controllerFiles_withoutContracts (h : m.controllerFiles o = .ok files) :
    m.controllerFiles ⟨o.arrangement, false⟩ = .ok (files.filter (·.kind.isOfProxy)) := by
  obtain ⟨parts, hparts, h⟩ := bind_eq_ok.1 h
  obtain rfl : parts.flatten = files := Except.ok.inj h
  rw [List.filter_flatten]
  exact bind_eq_ok.2
    ⟨_, mapM_eq_ok_map hparts fun _ _ => Controller.files_withoutContracts, rfl⟩

/-- The proxies among all files of a description are the files of its controllers without
contracts: no data type is one of them. -/
theorem controllerFiles_of_generate (h : m.generate o = .ok files) :
    m.controllerFiles ⟨o.arrangement, false⟩ = .ok (files.filter (·.kind.isOfProxy)) := by
  obtain ⟨classes, hclasses⟩ := m.exists_controllerFiles_eq_ok o
  obtain ⟨types, htypes⟩ := m.exists_ofDescription_eq_ok
  obtain rfl := Except.ok.inj ((generate_eq_ok hclasses htypes).symm.trans h)
  have hnone : (if o.withContracts then types.map (·.file o.arrangement) else []).filter
      (·.kind.isOfProxy) = [] := by
    refine List.filter_eq_nil_iff.2 fun f hf => ?_
    split at hf
    · obtain ⟨t, -, rfl⟩ := List.mem_map.1 hf
      exact Bool.false_ne_true
    · exact absurd hf List.not_mem_nil
  rw [List.filter_append, hnone, List.append_nil]
  exact controllerFiles_withoutContracts hclasses

/-- The proxies of a description are a stub and a class for every service, in the order of the
controllers. -/
theorem proxies_of_controllerFiles {a : Arrangement}
    (h : m.controllerFiles ⟨a, false⟩ = .ok files) :
    files.map (fun f => (f.kind, f.path)) = m.serviceControllers.flatMap fun c =>
      [(.classStub, c.stubPath a), (.proxyClass, c.classPath a)] := by
  obtain ⟨parts, hparts, h⟩ := bind_eq_ok.1 h
  obtain rfl : parts.flatten = files := Except.ok.inj h
  rw [List.map_flatten, List.flatMap_def]
  congr 1
  exact map_eq_of_mapM_eq_ok hparts fun c hc part hpart =>
    Controller.proxies_of_files (List.mem_filter.1 hc).2 hpart

/-- Descriptions with the same modules have the same stubs and proxy classes, whatever data types
they define and whether contracts are generated with them or not. -/
theorem exists_generate_filter_isOfProxy (modules : Catalog ServiceModule)
    (types types' : Catalog TypeDefinition) (a : Arrangement)
    (withContracts withContracts' : Bool) : ∃ files files' proxies,
      generate ⟨a, withContracts⟩ ⟨modules, types⟩ = .ok files ∧
      generate ⟨a, withContracts'⟩ ⟨modules, types'⟩ = .ok files' ∧
      files.filter (·.kind.isOfProxy) = proxies ∧ files'.filter (·.kind.isOfProxy) = proxies ∧
      proxies.map (fun f => (f.kind, f.path)) =
        (serviceControllers ⟨modules, types⟩).flatMap fun c =>
          [(.classStub, c.stubPath a), (.proxyClass, c.classPath a)] := by
  obtain ⟨files, hfiles⟩ := exists_generate_eq_ok ⟨a, withContracts⟩ ⟨modules, types⟩
  obtain ⟨files', hfiles'⟩ := exists_generate_eq_ok ⟨a, withContracts'⟩ ⟨modules, types'⟩
  have hproxies := controllerFiles_of_generate hfiles
  -- The files of controllers do not depend on the types of a description.
  have hproxies' : controllerFiles ⟨a, false⟩ ⟨modules, types⟩ =
      .ok (files'.filter (·.kind.isOfProxy)) := controllerFiles_of_generate hfiles'
  have hsame := Except.ok.inj (hproxies.symm.trans hproxies')
  exact ⟨files, files', _, hfiles, hfiles', rfl, hsame.symm, proxies_of_controllerFiles hproxies⟩

end ApiDescription

end ApiProxy
