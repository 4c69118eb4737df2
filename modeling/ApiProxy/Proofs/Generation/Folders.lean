import ApiProxy.Proofs.Generation.Paths

/-!
# The folders of generated files

The folders in a generated path come from a namespace, whose dots become slashes, or from a slash in
the name of a service or of a data type, of which only what follows its last dot is used. So their
names have no dots, unless the name of a controller, which is used as it is, has a slash.

## Main definitions

* `DotlessFolders`: the folders of a path have no dots in their names.

## Main results

* `ApiDescription.dotlessFolders_of_controllerFiles`,
  `ApiDescription.dotlessFolders_of_dataTypeFiles`: the folders of the files of a description.
-/

namespace ApiProxy

open Text

/-- The folders that a path goes through have no dots in their names. -/
def DotlessFolders (path : String) : Prop :=
  ∀ part ∈ (slashParts path).dropLast, '.' ∉ part.toList

theorem dotlessFolders_append {s ending : String} (hs : '.' ∉ s.toList)
    (hending : '/' ∉ ending.toList) : DotlessFolders (s ++ ending) := by
  obtain ⟨front, last, hparts⟩ := exists_slashParts_append s
  have hself := hparts "" List.not_mem_nil
  rw [String.append_empty, String.append_empty] at hself
  intro part hpart hdot
  rw [hparts ending hending, List.dropLast_concat] at hpart
  refine hs (subset_of_mem_slashParts ?_ hdot)
  rw [hself]
  exact List.mem_append_left _ hpart

theorem mem_dropLast_of_filter {α : Type} {P : α → Bool} {as : List α} {a : α}
    (h : a ∈ (as.filter P).dropLast) : a ∈ as.dropLast := by
  rcases List.eq_nil_or_concat' as with rfl | ⟨front, last, rfl⟩
  · exact h
  · rw [List.filter_append, List.filter_singleton] at h
    rw [List.dropLast_concat]
    cases hlast : P last with
    | true =>
      rw [hlast, cond_true, List.dropLast_concat] at h
      exact (List.mem_filter.1 h).1
    | false =>
      rw [hlast, cond_false, List.append_nil] at h
      exact (List.mem_filter.1 (List.dropLast_subset _ h)).1

/-- What has a dot in its name is only on the way of a path as its end. -/
theorem DotlessFolders.eq_of_leads {path ending : String} {loc : Location}
    (h : DotlessFolders path) (hends : Ends loc ending) (hdot : '.' ∈ ending.toList)
    (hleads : loc <+: pathNames path) : loc = pathNames path := by
  obtain ⟨front, name, rfl, hname⟩ := hends
  obtain ⟨more, hmore⟩ := hleads
  rcases List.eq_nil_or_concat' more with rfl | ⟨more, last, rfl⟩
  · rwa [List.append_nil] at hmore
  · have hmem : name ∈ (pathNames path).dropLast := by
      rw [← hmore, ← List.append_assoc, List.dropLast_concat]
      exact List.mem_append_left _ List.mem_concat_self
    exact absurd (hname.subset hdot) (h name (mem_dropLast_of_filter hmem))

theorem Arrangement.dotlessFolders_path (a : Arrangement) (ns : String) {name : String}
    (hname : '/' ∉ name.toList) : DotlessFolders (a.path ns name) := by
  have hself : slashParts name = [name] := by
    rw [slashParts, splitSlash_of_not_mem hname, List.map_singleton, String.ofList_toList]
  have hplain : DotlessFolders name := by
    intro part hpart
    rw [hself, List.dropLast_singleton] at hpart
    exact absurd hpart List.not_mem_nil
  cases a with
  | flat => exact hplain
  | namespaced =>
    rw [path]
    split
    · exact hplain
    intro part hpart hdot
    have hparts : slashParts (namespaceFolder ns ++ "/" ++ name) =
        slashParts (namespaceFolder ns) ++ [name] := by
      rw [← hself, slashParts, String.append_assoc, String.toList_append, String.toList_append]
      exact (congrArg _ (splitSlash_append_slash _ _)).trans List.map_append
    rw [hparts, List.dropLast_concat] at hpart
    exact not_mem_namespaceFolder ns (subset_of_mem_slashParts hpart hdot)

/-- The folders of the files of a controller whose name has no slash. -/
theorem Controller.dotlessFolders_of_mem {o : GeneratorOptions} {c : Controller} {path : String}
    (hname : '/' ∉ c.controllerName.toList)
    (h : path ∈ c.stubPath o.arrangement :: c.classPath o.arrangement ::
      if o.withContracts then [c.contractPath o.arrangement] else []) : DotlessFolders path := by
  have hclass {ending : String} (hending : '/' ∉ ending.toList) :
      '/' ∉ (c.className ++ ending).toList := by
    rw [className, String.toList_append, String.toList_append, List.mem_append, List.mem_append,
      not_or, not_or]
    exact ⟨⟨hname, by decide⟩, hending⟩
  rcases List.mem_cons.1 h with rfl | h
  · exact o.arrangement.dotlessFolders_path _ (hclass (by decide))
  rcases List.mem_cons.1 h with rfl | h
  · exact o.arrangement.dotlessFolders_path _ (hclass (by decide))
  split at h
  · obtain rfl := List.mem_singleton.1 h
    obtain ⟨s, hs⟩ := o.arrangement.exists_path_eq c.namespaceName c.serviceName
    rw [contractPath, hs]
    refine dotlessFolders_append ?_ (by decide)
    rw [← String.append_empty (s := s), ← hs "", String.append_empty]
    exact o.arrangement.not_mem_path _ (not_mem_lastSegment _)
  · exact absurd h List.not_mem_nil

namespace ApiDescription

variable {m : ApiDescription} {o : GeneratorOptions} {files : List SourceFile} {f : SourceFile}

/-- The folders of the files of controllers, if no controller has a slash in its name. -/
theorem dotlessFolders_of_controllerFiles
    (hnames : ∀ c ∈ m.serviceControllers, '/' ∉ c.controllerName.toList)
    (h : m.controllerFiles o = .ok files) (hf : f ∈ files) : DotlessFolders f.path := by
  have hpath : f.path ∈ files.map (·.path) := List.mem_map_of_mem hf
  rw [paths_of_controllerFiles h] at hpath
  obtain ⟨c, hc, hpath⟩ := List.mem_flatMap.1 hpath
  exact c.dotlessFolders_of_mem (hnames c hc) hpath

/-- The folders of the files of data types. -/
theorem dotlessFolders_of_dataTypeFiles (h : m.dataTypeFiles o = .ok files) (hf : f ∈ files) :
    DotlessFolders f.path := by
  obtain ⟨types, htypes, h⟩ := bind_eq_ok.1 h
  obtain rfl := Except.ok.inj h
  obtain ⟨t, ht, rfl⟩ := List.mem_map.1 hf
  obtain ⟨s, hs, hdot⟩ := DataType.exists_path_eq htypes ht o.arrangement
  have hfolders : DotlessFolders (t.path o.arrangement) := by
    rw [hs]
    exact dotlessFolders_append hdot (by decide)
  exact hfolders

end ApiDescription

end ApiProxy
