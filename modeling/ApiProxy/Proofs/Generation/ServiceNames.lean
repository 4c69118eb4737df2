import ApiProxy.Proofs.Generation.Templates
import ApiProxy.Proofs.TypeRef.BuiltIn
import ApiProxy.Proofs.TypeRef.Endings

/-!
# Namespaces and short names of services

The files of a service import its namespace and use its short name. The namespace is found by
reading the full name as a type descriptor, the short name by cutting the full name at its last dot
without reading it. The two belong together: the full name of a service ends in `Service`, so it is
read as a plain name even if it has brackets, commas or blanks in it, and its namespace is what
stands in front of that last dot.

## Main definitions

* `Text.trimStart`: a text without the blanks in front.
* `Unites`: a namespace, if there is one, and a short name make up a full name.
* `ImportSet.Covers`: the namespace of a service is imported, unless it is blank.

## Main results

* `service_names_unite`: the namespace that the files of a service import and the short name in
  them make up the full name.
-/

namespace ApiProxy

open Text

/-- A text without the blanks in front. -/
def Text.trimStart (s : String) : String :=
  String.ofList (skipBlank s.toList)

/-- A namespace, if there is one, and a short name without dots make up a full name. A full name
without a dot has no namespace and is its own short name. Blanks in front of a full name with a dot
belong to neither of the two. -/
structure Unites (full : String) (ns? : Option String) (short : String) : Prop where
  dotless : '.' ∉ short.toList
  eq_none_iff : ns? = none ↔ '.' ∉ full.toList
  eq_of_none : ns? = none → short = full
  eq_of_some : ∀ ns ∈ ns?, ns ++ "." ++ short = trimStart full

/-- A set imports the namespace of a service, unless it is blank. -/
def ImportSet.Covers (s : ImportSet) (ns? : Option String) : Prop :=
  ∀ ns ∈ ns?, allBlank ns = false → ns ∈ s

theorem ImportSet.covers_collectImports (fixed : List String) (ns? : Option String)
    (ms : List Member) :
    (Member.collectImports ((ofList fixed).insertMany ns?.toList) ms).Covers ns? :=
  fun _ hns hblank => Member.mem_collectImports.2
    (.inl (mem_insertMany.2 (.inr ⟨Option.mem_toList.2 hns, hblank⟩)))

/-! ### Blanks in front of a dotted name -/

section TrimStart

variable {s : String}

theorem toList_trimStart (s : String) : (trimStart s).toList = skipBlank s.toList :=
  String.toList_ofList

theorem dot_mem_trimStart : '.' ∈ (trimStart s).toList ↔ '.' ∈ s.toList := by
  obtain ⟨ws, hws, hsplit⟩ := blanks_skipBlank s.toList
  rw [toList_trimStart, hsplit, skipBlank_append hws, skipBlank_skipBlank, List.mem_append,
    or_iff_right]
  exact fun hmem => absurd (hws _ hmem) (by decide)

theorem lastSegment_trimStart (h : '.' ∈ s.toList) : lastSegment (trimStart s) = lastSegment s := by
  obtain ⟨ws, -, hsplit⟩ := blanks_skipBlank s.toList
  rw [← dot_mem_trimStart, toList_trimStart] at h
  rw [lastSegment, lastSegment, toList_trimStart, hsplit, lastSegmentChars_append_of_mem ws h,
    ← hsplit]

end TrimStart

/-! ### The full name of a service -/

section FullName

variable {full : String} (h : (serviceEnding? full).isSome = true)

include h

theorem mem_getLast?_of_service : 'e' ∈ full.toList.getLast? :=
  getLast?_of_suffix (suffix_of_isSome_serviceEnding? h) (by decide)

theorem trim_of_service : trim full = trimStart full := by
  rw [trim, trimStart, trimBlank_eq_skipBlank]
  exact fun c hc => Option.mem_unique (mem_getLast?_of_service h) hc ▸ (by decide)

theorem ofDescriptor_of_service :
    TypeRef.ofDescriptor full = .simple (trimStart full) false := by
  have htrim : trimBlank full.toList = skipBlank full.toList :=
    String.ofList_injective (trim_of_service h)
  have hlast : 'e' ∈ (trimBlank full.toList).getLast? :=
    htrim ▸ getLast?_skipBlank (by decide) (mem_getLast?_of_service h)
  rw [← trim_of_service h]
  exact TypeRef.ofDescriptor_eq_simple_trim fun c hc => Option.mem_unique hlast hc ▸ rfl

theorem namespaceOf?_of_service : namespaceOf? full = qualifier? (trimStart full) := by
  rw [namespaceOf?, ofDescriptor_of_service h, TypeRef.namespace?]

theorem unites_of_service : Unites full (namespaceOf? full) (lastSegment full) := by
  have hnone : namespaceOf? full = none ↔ '.' ∉ full.toList := by
    rw [namespaceOf?_of_service h, qualifier?_eq_none_iff, dot_mem_trimStart]
  refine ⟨?_, hnone, fun hns => ?_, fun ns hns => ?_⟩
  · rw [lastSegment, String.toList_ofList]
    exact not_mem_lastSegmentChars _
  · rw [lastSegment, lastSegmentChars_of_not_mem (hnone.1 hns), String.ofList_toList]
  · have hdot : '.' ∈ full.toList :=
      not_not.1 fun hno => Option.some_ne_none ns (hns.symm.trans (hnone.2 hno))
    rw [namespaceOf?_of_service h] at hns
    rw [← lastSegment_trimStart hdot, ← eq_append_of_qualifier?_eq_some hns]

end FullName

/-! ### The files of a service -/

namespace Controller

variable {a : Arrangement} {c : Controller} {i : ServiceInterface} {f : SourceFile}

theorem content_of_classFile (h : c.classFile a i = .ok f) : ∃ imports members,
    ImportSet.Covers imports (namespaceOf? i.type) ∧
      f.content = ProxyClass.text ⟨imports.render, c.namespaceName, c.className,
        lastSegment i.type, c.isIntegrationService, members⟩ := by
  rw [classFile, ProxyClass.render_eq_text, ok_bind] at h
  obtain rfl := Except.ok.inj h
  exact ⟨_, _, ImportSet.covers_collectImports _ _ _, rfl⟩

theorem content_of_interfaceFile (h : c.interfaceFile a i = .ok f) : (∃ imports members,
    ImportSet.Covers imports (namespaceOf? i.type) ∧
      f.content =
        InterfaceFile.text ⟨imports.render, c.namespaceName, lastSegment i.type, members⟩) ∧
    f.path = a.path c.namespaceName (lastSegment i.type ++ ".cs") := by
  rw [interfaceFile, InterfaceFile.render_eq_text, ok_bind] at h
  obtain rfl := Except.ok.inj h
  exact ⟨⟨_, _, ImportSet.covers_collectImports _ _ _, rfl⟩, rfl⟩

end Controller

/-- **The namespace and the short name of a service belong together.** For every controller of a
service and all options, the namespace of the primary interface and one short name make up its full
name, whatever is in it. There is no namespace exactly if the full name has no dot. The proxy class
names its interface by the short name in all places, the file of the interface declares that name
and is called so too, and both files import the namespace unless it is blank. -/
theorem service_names_unite {c : Controller} (h : c.isService = true) (o : GeneratorOptions) :
    ∃ i short stub proxy contract, c.primaryInterface? = some i ∧
      Unites i.type (namespaceOf? i.type) short ∧
      c.files o = .ok (stub :: proxy :: if o.withContracts then [contract] else []) ∧
      (∃ imports members, ImportSet.Covers imports (namespaceOf? i.type) ∧
        proxy.content = ProxyClass.text
          ⟨imports.render, c.namespaceName, c.className, short, c.isIntegrationService, members⟩) ∧
      (∃ imports members, ImportSet.Covers imports (namespaceOf? i.type) ∧
        contract.content = InterfaceFile.text ⟨imports.render, c.namespaceName, short, members⟩) ∧
      contract.path = o.arrangement.path c.namespaceName (short ++ ".cs") := by
  obtain ⟨i, stub, proxy, contract, hi, hservice, -, hproxy, hcontract, hfiles⟩ :=
    Controller.exists_files_eq o h
  exact ⟨i, lastSegment i.type, stub, proxy, contract, hi, unites_of_service hservice, hfiles,
    Controller.content_of_classFile hproxy, Controller.content_of_interfaceFile hcontract⟩

/-- A service whose full name begins with a blank and then like the descriptor of an array. -/
def bracketedController : Controller :=
  ⟨"Book", none, true, false, none, "Acme.Books.BookController",
    [⟨" [Acme.Books, x.IBookAppService", none, []⟩], .empty⟩

/-- What begins like an array is the namespace of a service, too. -/
theorem service_names_unite_bracketed :
    bracketedController.isService = true ∧ ∃ stub proxy contract,
      bracketedController.files ⟨.flat, true⟩ = .ok [stub, proxy, contract] ∧
      (∃ (imports : ImportSet) (members : String), "[Acme.Books, x" ∈ imports ∧
        proxy.content = ProxyClass.text
          ⟨imports.render, "Acme.Books", "BookClientProxy", "IBookAppService", false, members⟩) ∧
      (∃ (imports : ImportSet) (members : String), "[Acme.Books, x" ∈ imports ∧
        contract.content = InterfaceFile.text
          ⟨imports.render, "Acme.Books", "IBookAppService", members⟩) ∧
      contract.path = "IBookAppService.cs" := by
  have hservice : bracketedController.isService = true := by decide +kernel
  have hns : namespaceOf? " [Acme.Books, x.IBookAppService" = some "[Acme.Books, x" := by
    decide +kernel
  have hcontroller : bracketedController.namespaceName = "Acme.Books" := by decide +kernel
  obtain ⟨i, short, stub, proxy, contract, hi, hunites, hfiles, ⟨imports, members, hcovers, hproxy⟩,
    ⟨imports', members', hcovers', hcontract⟩, hpath⟩ :=
    service_names_unite hservice ⟨.flat, true⟩
  obtain rfl : i = ⟨" [Acme.Books, x.IBookAppService", none, []⟩ := Option.some.inj hi.symm
  rw [hns] at hunites hcovers hcovers'
  obtain rfl : "IBookAppService" = short := by
    have hfull := hunites.eq_of_some _ rfl
    have htrim : trimStart " [Acme.Books, x.IBookAppService" =
        "[Acme.Books, x" ++ "." ++ "IBookAppService" := by decide
    exact (String.append_right_inj _).1 (hfull.trans htrim).symm
  rw [hcontroller] at hproxy hcontract
  exact ⟨hservice, stub, proxy, contract, hfiles, ⟨imports, members, hcovers _ rfl rfl, hproxy⟩,
    ⟨imports', members', hcovers' _ rfl rfl, hcontract⟩, hpath⟩

end ApiProxy
