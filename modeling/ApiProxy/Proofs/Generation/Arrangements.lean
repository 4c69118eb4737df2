import ApiProxy.Proofs.Generation.Imports
import Mathlib.Data.List.Forall2

/-!
# The two arrangements of generated files

Whether files are nested in folders or stand all in one folder, the same files are generated, in
the same order and with the same contents. Only their paths differ: a nested file stands in the
folder of the namespace that it declares. For this, what is generated is put as a list of drafts,
which do not depend on the arrangement. A draft has the values for the slots of its template, among
them the namespace, and from this namespace and its name the file gets its path.

## Main definitions

* `Draft`: a generated file before it is rendered and placed.
* `ApiDescription.drafts`: the drafts of a description.
* `Draft.Mirrors`: a nested file and one that is not nested, both made from one draft.

## Main results

* `ApiDescription.generate_eq_mapM_drafts`: the files of a description are made from its drafts.
* `Draft.exists_declaration`: a rendered draft declares its namespace.
* `ApiDescription.generate_arrangements`: the files in the two arrangements agree one by one.
-/

namespace ApiProxy

open Text

/-! ### The line that declares a namespace -/

namespace Template

variable {context : Json} {s : String}

/-- A slot between two fixed texts stands between them in what is rendered. -/
theorem exists_eq_of_render_slot {t : Template} {front back : List Piece}
    {name text before after : String}
    (hpieces : t.pieces = front ++ .text before :: .slot name :: .text after :: back)
    (hname : context.get? name = some (.string text)) (h : t.render context = .ok s) :
    ∃ s₁ s₂, s = s₁ ++ (before ++ text ++ after) ++ s₂ := by
  rw [eq_filledAll_of_render h, hpieces, filledAll_append]
  refine ⟨filledAll context front, filledAll context back, ?_⟩
  simp only [filledAll, filled_text, filled_slot hname, String.append_assoc]

end Template

/-- The template of the files of a kind. -/
def FileKind.template : FileKind → Template
  | proxyClass => CodeTemplate.proxyClass
  | classStub => CodeTemplate.classStub
  | serviceInterface => CodeTemplate.serviceInterface
  | dataType => CodeTemplate.dataType

/-- In all templates of generated files the slot of the namespace is the rest of a line that
declares it. -/
theorem FileKind.exists_template_pieces (k : FileKind) : ∃ front before after back,
    k.template.pieces = front ++ .text (before ++ "\nnamespace ") :: .slot "namespace" ::
      .text (";\n" ++ after) :: back := by
  cases k with
  | proxyClass =>
    exact ⟨[.text CodeTemplate.heading, .slot "usings"],
      "\n\n// ReSharper disable once CheckNamespace",
      "\n[Dependency(ReplaceServices = true)]\n[ExposeServices(typeof(", _, rfl⟩
  | classStub =>
    exact ⟨[.text "// This file is part of ", .slot "class_name"],
      ", you can customize it here\n// ReSharper disable once CheckNamespace",
      "\npublic partial class ", _, rfl⟩
  | serviceInterface =>
    exact ⟨[.text CodeTemplate.heading, .slot "usings"],
      "\n\n// ReSharper disable once CheckNamespace", "\npublic interface ", _, rfl⟩
  | dataType =>
    exact ⟨[.text CodeTemplate.heading, .slot "usings"],
      "\n\n// ReSharper disable once CheckNamespace", "\npublic ", _, rfl⟩

/-! ### Drafts -/

/-- A generated file before it is rendered and placed. -/
structure Draft where
  kind : FileKind
  /-- The values for the slots of the template. -/
  context : Json
  /-- The namespace whose folder the file is nested in. -/
  namespaceName : String
  fileName : String
  get?_namespace : context.get? "namespace" = some (.string namespaceName)
  exists_render : ∃ content, kind.template.render context = .ok content

/-- The file that is made from a draft. -/
def Draft.file (a : Arrangement) (d : Draft) : Except Failure SourceFile := do
  let content ← d.kind.template.render d.context
  return .ofKind (a.path d.namespaceName d.fileName) content d.kind

/-- A rendered draft has a line that declares its namespace. -/
theorem Draft.exists_declaration {d : Draft} {content : String}
    (h : d.kind.template.render d.context = .ok content) :
    ∃ front back, content = front ++ ("\nnamespace " ++ d.namespaceName ++ ";\n") ++ back := by
  obtain ⟨_, before, after, _, hpieces⟩ := d.kind.exists_template_pieces
  obtain ⟨s₁, s₂, rfl⟩ := Template.exists_eq_of_render_slot hpieces d.get?_namespace h
  exact ⟨s₁ ++ before, after ++ s₂, by simp only [String.append_assoc]⟩

namespace Controller

variable (c : Controller) (i : ServiceInterface)

/-- The values in the stub of the proxy class of a controller. -/
def stubValues : ClassStub :=
  { namespaceName := c.namespaceName, className := c.className }

/-- The values in the proxy class of a controller for an interface. -/
def classValues : ProxyClass :=
  let members := (c.proxyActions i).map (·.member)
  let base := (ImportSet.ofList proxyClassImports).insertMany (namespaceOf? i.type).toList
  { imports := (Member.collectImports base members).render
    namespaceName := c.namespaceName
    className := c.className
    serviceInterface := lastSegment i.type
    isIntegrationService := c.isIntegrationService
    members := Member.block members }

/-- The values in the file of a service interface of a controller. -/
def interfaceValues : InterfaceFile :=
  let members := i.methods.map (·.member)
  let base := (ImportSet.ofList interfaceImports).insertMany (namespaceOf? i.type).toList
  { imports := (Member.collectImports base members).render
    namespaceName := c.namespaceName
    serviceInterface := lastSegment i.type
    members := Member.block members }

/-- The draft of the stub of a proxy class. -/
def stubDraft : Draft :=
  ⟨.classStub, c.stubValues.context, c.namespaceName, c.className ++ ".cs", rfl,
    c.stubValues.exists_render_eq_ok⟩

/-- The draft of a proxy class. -/
def classDraft : Draft :=
  ⟨.proxyClass, (c.classValues i).context, c.namespaceName, c.className ++ ".Generated.cs", rfl,
    (c.classValues i).exists_render_eq_ok⟩

/-- The draft of a service interface. -/
def interfaceDraft : Draft :=
  ⟨.serviceInterface, (c.interfaceValues i).context, c.namespaceName, lastSegment i.type ++ ".cs",
    rfl, (c.interfaceValues i).exists_render_eq_ok⟩

/-- The drafts of a controller: none if it implements no interface. -/
def drafts (withContracts : Bool) : List Draft :=
  match c.primaryInterface? with
  | none => []
  | some i =>
    c.stubDraft :: c.classDraft i :: if withContracts then [c.interfaceDraft i] else []

variable {c i} in
theorem drafts_eq (hi : c.primaryInterface? = some i) (withContracts : Bool) :
    c.drafts withContracts = c.stubDraft :: c.classDraft i ::
      if withContracts then [c.interfaceDraft i] else [] := by
  rw [drafts, hi]

theorem files_eq_mapM_drafts (o : GeneratorOptions) :
    c.files o = (c.drafts o.withContracts).mapM (·.file o.arrangement) := by
  cases hi : c.primaryInterface? with
  | none =>
    rw [files, drafts, hi]
    rfl
  | some i =>
    have hstub : c.stubFile o.arrangement = c.stubDraft.file o.arrangement := rfl
    have hclass : c.classFile o.arrangement i = (c.classDraft i).file o.arrangement := rfl
    have hinterface :
        c.interfaceFile o.arrangement i = (c.interfaceDraft i).file o.arrangement := rfl
    rw [files, drafts_eq hi, hi]
    dsimp only
    rw [hstub, hclass, hinterface, List.mapM_cons, List.mapM_cons]
    cases c.stubDraft.file o.arrangement with
    | error e => rfl
    | ok stub =>
      cases (c.classDraft i).file o.arrangement with
      | error e => rfl
      | ok proxy =>
        rw [ok_bind, ok_bind, ok_bind, ok_bind]
        split
        · rw [List.mapM_cons]
          cases (c.interfaceDraft i).file o.arrangement <;> rfl
        · rfl

end Controller

namespace DataType

/-- The values in the file of a data type. -/
def values (key : String) (d : TypeDefinition) : DataTypeFile :=
  let type := (TypeRef.ofDescriptor key).instantiate d.arguments
  { imports := (imports key d).render
    namespaceName := type.namespace?.getD ""
    declaration := declaration d type.displayName
    members := memberBlock (members d type.text) }

/-- The draft of the file of a data type. -/
def draft (key : String) (d : TypeDefinition) : Draft :=
  ⟨.dataType, (values key d).context, (values key d).namespaceName,
    stem ((TypeRef.ofDescriptor key).instantiate d.arguments).displayName ++ ".cs", rfl,
    (values key d).exists_render_eq_ok⟩

/-- The file of the data type that a definition gives is made from the draft of the definition. -/
theorem ofDefinition_bind_file (a : Arrangement) (key : String) (d : TypeDefinition) :
    (ofDefinition key d >>= fun t => .ok (t.file a)) = (draft key d).file a := by
  change (((values key d).render >>= _) >>= _) = ((values key d).render >>= _)
  cases (values key d).render <;> rfl

end DataType

namespace ApiDescription

variable (m : ApiDescription)

/-- The drafts of a description: those of its controllers and then, with contracts, those of its
data types. -/
def drafts (withContracts : Bool) : List Draft :=
  m.serviceControllers.flatMap (·.drafts withContracts) ++
    if withContracts then (DataType.definitions m).map fun e => DataType.draft e.1 e.2 else []

/-- The files of the controllers of a description are made from the drafts of the controllers. -/
theorem controllerFiles_eq_mapM (o : GeneratorOptions) :
    m.controllerFiles o =
      (m.serviceControllers.flatMap (·.drafts o.withContracts)).mapM (·.file o.arrangement) := by
  rw [controllerFiles, ← mapM_bind_flatten]
  simp only [Controller.files_eq_mapM_drafts]
  rfl

/-- The files of the data types of a description are made from the drafts of its definitions. -/
theorem dataTypeFiles_eq_mapM (o : GeneratorOptions) :
    m.dataTypeFiles o = ((DataType.definitions m).map fun e => DataType.draft e.1 e.2).mapM
      (·.file o.arrangement) := by
  rw [List.mapM_map]
  change (DataType.ofDescription m >>= fun types => .ok (types.map (·.file o.arrangement))) = _
  rw [DataType.ofDescription, mapM_bind_map]
  simp only [DataType.ofDefinition_bind_file, Function.comp_def]

/-- The files of a description are made from its drafts. -/
theorem generate_eq_mapM_drafts (o : GeneratorOptions) :
    m.generate o = (m.drafts o.withContracts).mapM (·.file o.arrangement) := by
  rw [generate, controllerFiles_eq_mapM, dataTypeFiles_eq_mapM, drafts, List.mapM_append]
  refine bind_congr fun classes => ?_
  split
  · rfl
  · rw [List.mapM_nil, pure_bind, List.append_nil]

end ApiDescription

/-! ### Files in the two arrangements -/

/-- Two files are both made from a draft and differ in their paths only: one is nested in the
folders of the namespace that the draft declares, if there is one, and the other one is not. -/
structure Draft.Mirrors (d : Draft) (nested flat : SourceFile) : Prop where
  kind : flat.kind = d.kind
  rendered : d.kind.template.render d.context = .ok flat.content
  nested_eq : nested = { flat with path := nested.path }
  /-- The folders are those of the value for the slot of the namespace, and this is the namespace
  that the content declares. -/
  folder : ∃ ns, d.context.get? "namespace" = some (.string ns) ∧
    nested.path = (if ns = "" then flat.path else namespaceFolder ns ++ "/" ++ flat.path) ∧
    ∃ front back, flat.content = front ++ ("\nnamespace " ++ ns ++ ";\n") ++ back

theorem Draft.exists_files_mirrors (d : Draft) : ∃ nested flat,
    d.file .namespaced = .ok nested ∧ d.file .flat = .ok flat ∧ d.Mirrors nested flat := by
  obtain ⟨content, hcontent⟩ := d.exists_render
  refine ⟨.ofKind (Arrangement.path .namespaced d.namespaceName d.fileName) content d.kind,
    .ofKind d.fileName content d.kind, ?_, ?_, rfl, hcontent, rfl, d.namespaceName,
    d.get?_namespace, rfl, Draft.exists_declaration hcontent⟩
  · rw [Draft.file, hcontent]
    rfl
  · rw [Draft.file, hcontent]
    rfl

/-- Going through a list in two ways that both succeed gives results that belong together one by
one. -/
theorem exists_mapM_pairs {ε α β γ : Type} {f : α → Except ε β} {f' : α → Except ε γ}
    {r : α → β → γ → Prop} (h : ∀ a, ∃ b c, f a = .ok b ∧ f' a = .ok c ∧ r a b c) (as : List α) :
    ∃ pairs : List (β × γ), as.mapM f = .ok (pairs.map (·.1)) ∧
      as.mapM f' = .ok (pairs.map (·.2)) ∧ as.Forall₂ (fun a p => r a p.1 p.2) pairs := by
  induction as with
  | nil => exact ⟨[], rfl, rfl, .nil⟩
  | cons a as ih =>
    obtain ⟨b, c, hb, hc, hr⟩ := h a
    obtain ⟨pairs, hbs, hcs, hrs⟩ := ih
    refine ⟨(b, c) :: pairs, ?_, ?_, .cons hr hrs⟩
    · rw [List.mapM_cons, hb, ok_bind, hbs]
      rfl
    · rw [List.mapM_cons, hc, ok_bind, hcs]
      rfl

/-- In both arrangements the files of a description can be generated. They agree one by one, in
their order, and differ only in that the nested ones stand in the folders of the namespaces that
they declare. -/
theorem ApiDescription.generate_arrangements (m : ApiDescription) (withContracts : Bool) :
    ∃ pairs : List (SourceFile × SourceFile),
      m.generate ⟨.namespaced, withContracts⟩ = .ok (pairs.map (·.1)) ∧
      m.generate ⟨.flat, withContracts⟩ = .ok (pairs.map (·.2)) ∧
      (m.drafts withContracts).Forall₂ (fun d p => d.Mirrors p.1 p.2) pairs := by
  rw [generate_eq_mapM_drafts, generate_eq_mapM_drafts]
  exact exists_mapM_pairs Draft.exists_files_mirrors (m.drafts withContracts)

end ApiProxy
