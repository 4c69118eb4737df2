import ApiProxy.Proofs.Generation.FileNames

/-!
# Rendering always succeeds

A template is filled if its context has a value for every slot. The four kinds of generated files
bring the values of all slots of their templates, so every file of a description can be generated,
whatever texts the description consists of.

## Main definitions

* `Template.slotsOf`: the names of the slots of a template.
* `Template.filledAll`: the text that pieces make when all their slots have values.

## Main results

* `Template.render_eq_ok`: a template whose slots all have values can be rendered.
* `Template.eq_filledAll_of_render`: whatever is rendered is the text of the pieces.
* `ApiDescription.exists_generate_eq_ok`: the files of a description can be generated.
-/

namespace ApiProxy

namespace Template

mutual

/-- The names of the slots of a piece, those of its body included. -/
def Piece.slots : Piece → List String
  | .text _ => []
  | .slot name => [name]
  | .block _ body => slotsOf body

/-- The names of the slots of pieces. -/
def slotsOf : List Piece → List String
  | [] => []
  | q :: qs => q.slots ++ slotsOf qs

end

mutual

/-- The text of a piece whose slots all have values. -/
def Piece.filled (context : Json) : Piece → String
  | .text s => s
  | .slot name => ((context.get? name).map slotText).getD ""
  | .block name body => if holds (context.get? name) then filledAll context body else ""

/-- The text of pieces whose slots all have values. -/
def filledAll (context : Json) : List Piece → String
  | [] => ""
  | q :: qs => q.filled context ++ filledAll context qs

end

mutual

/-- A piece is filled if all its slots have values, and wherever it stands in the same way. -/
theorem Piece.fill_eq_ok {context : Json} :
    ∀ (q : Piece) (p : Place), (∀ name ∈ q.slots, (context.get? name).isSome = true) →
      q.fill context p = .ok (q.filled context)
  | .text s, _, _ => rfl
  | .slot name, p, h => by
    obtain ⟨v, hv⟩ := Option.isSome_iff_exists.1 (h name (List.mem_singleton.2 rfl))
    rw [Piece.fill, Piece.filled, hv]
    rfl
  | .block name body, p, h => by
    rw [Piece.fill, Piece.filled]
    split
    · exact fillAll_eq_ok body _ h
    · rfl

/-- Pieces are filled if all their slots have values. -/
theorem fillAll_eq_ok {context : Json} :
    ∀ (qs : List Piece) (p : Place), (∀ name ∈ slotsOf qs, (context.get? name).isSome = true) →
      fillAll context p qs = .ok (filledAll context qs)
  | [], _, _ => rfl
  | q :: qs, p, h => by
    rw [slotsOf, List.forall_mem_append] at h
    rw [fillAll, q.fill_eq_ok p h.1, ok_bind, fillAll_eq_ok qs (q.after p) h.2, ok_bind]
    rfl

end

mutual

theorem Piece.filled_eq_of_fill {context : Json} :
    ∀ (q : Piece) (p : Place) {s : String}, q.fill context p = .ok s → q.filled context = s
  | .text _, _, _, h => Except.ok.inj h
  | .slot name, p, s, h => by
    rw [Piece.fill] at h
    rw [Piece.filled]
    split at h
    · next v hv =>
      rw [hv]
      exact Except.ok.inj h
    · cases h
  | .block name body, p, s, h => by
    rw [Piece.fill] at h
    rw [Piece.filled]
    split at h
    · next hholds =>
      rw [if_pos hholds]
      exact filledAll_eq_of_fillAll body _ h
    · next hholds =>
      rw [if_neg hholds]
      exact Except.ok.inj h

theorem filledAll_eq_of_fillAll {context : Json} :
    ∀ (qs : List Piece) (p : Place) {s : String},
      fillAll context p qs = .ok s → filledAll context qs = s
  | [], _, _, h => Except.ok.inj h
  | q :: qs, p, s, h => by
    obtain ⟨front, hfront, h⟩ := bind_eq_ok.1 h
    obtain ⟨back, hback, h⟩ := bind_eq_ok.1 h
    rw [filledAll, q.filled_eq_of_fill p hfront, filledAll_eq_of_fillAll qs _ hback]
    exact Except.ok.inj h

end

/-- What is rendered from a context that has a value for every slot. -/
theorem render_eq_ok (t : Template) {context : Json}
    (h : ∀ name ∈ slotsOf t.pieces, (context.get? name).isSome = true) :
    t.render context = .ok (filledAll context t.pieces) := by
  rw [render, fill, fillAll_eq_ok t.pieces .start h]

variable {context : Json}

/-- Whatever is rendered is made of the texts of the pieces. -/
theorem eq_filledAll_of_render {t : Template} {s : String} (h : t.render context = .ok s) :
    s = filledAll context t.pieces := by
  rw [render, fill] at h
  split at h
  · next hfill => rw [← Except.ok.inj h, filledAll_eq_of_fillAll t.pieces .start hfill]
  · cases h

theorem filledAll_append (front back : List Piece) :
    filledAll context (front ++ back) = filledAll context front ++ filledAll context back := by
  induction front with
  | nil => exact String.empty_append.symm
  | cons q front ih => rw [List.cons_append, filledAll, ih, filledAll, String.append_assoc]

theorem filled_text (s : String) : (Piece.text s).filled context = s := rfl

theorem filled_slot {name text : String} (h : context.get? name = some (.string text)) :
    (Piece.slot name).filled context = text := by
  rw [Piece.filled, h]
  rfl

end Template

/-! ### The kinds of generated files -/

section Kinds

open Template

theorem ProxyClass.render_eq_ok (c : ProxyClass) :
    c.render = .ok (filledAll c.context CodeTemplate.proxyClass.pieces) := by
  refine CodeTemplate.proxyClass.render_eq_ok ?_
  simp [CodeTemplate.proxyClass, CodeTemplate.preamble, CodeTemplate.body, slotsOf, Piece.slots,
    context, Json.get?]

theorem ClassStub.render_eq_ok (c : ClassStub) :
    c.render = .ok (filledAll c.context CodeTemplate.classStub.pieces) := by
  refine CodeTemplate.classStub.render_eq_ok ?_
  simp [CodeTemplate.classStub, slotsOf, Piece.slots, context, Json.get?]

theorem InterfaceFile.render_eq_ok (c : InterfaceFile) :
    c.render = .ok (filledAll c.context CodeTemplate.serviceInterface.pieces) := by
  refine CodeTemplate.serviceInterface.render_eq_ok ?_
  simp [CodeTemplate.serviceInterface, CodeTemplate.preamble, CodeTemplate.body, slotsOf,
    Piece.slots, context, Json.get?]

theorem DataTypeFile.render_eq_ok (c : DataTypeFile) :
    c.render = .ok (filledAll c.context CodeTemplate.dataType.pieces) := by
  refine CodeTemplate.dataType.render_eq_ok ?_
  simp [CodeTemplate.dataType, CodeTemplate.preamble, CodeTemplate.body, slotsOf, Piece.slots,
    context, Json.get?]

theorem ProxyClass.exists_render_eq_ok (c : ProxyClass) : ∃ s, c.render = .ok s :=
  ⟨_, c.render_eq_ok⟩

theorem ClassStub.exists_render_eq_ok (c : ClassStub) : ∃ s, c.render = .ok s :=
  ⟨_, c.render_eq_ok⟩

theorem InterfaceFile.exists_render_eq_ok (c : InterfaceFile) : ∃ s, c.render = .ok s :=
  ⟨_, c.render_eq_ok⟩

theorem DataTypeFile.exists_render_eq_ok (c : DataTypeFile) : ∃ s, c.render = .ok s :=
  ⟨_, c.render_eq_ok⟩

end Kinds

/-! ### The files of a description -/

namespace Controller

variable (o : GeneratorOptions) (a : Arrangement) (c : Controller) (i : ServiceInterface)

theorem exists_stubFile_eq_ok : ∃ f, c.stubFile a = .ok f := by
  obtain ⟨content, h⟩ :=
    ClassStub.exists_render_eq_ok { namespaceName := c.namespaceName, className := c.className }
  exact ⟨_, bind_eq_ok.2 ⟨content, h, rfl⟩⟩

theorem exists_classFile_eq_ok : ∃ f, c.classFile a i = .ok f := by
  obtain ⟨content, h⟩ := ProxyClass.exists_render_eq_ok _
  exact ⟨_, bind_eq_ok.2 ⟨content, h, rfl⟩⟩

theorem exists_interfaceFile_eq_ok : ∃ f, c.interfaceFile a i = .ok f := by
  obtain ⟨content, h⟩ := InterfaceFile.exists_render_eq_ok _
  exact ⟨_, bind_eq_ok.2 ⟨content, h, rfl⟩⟩

variable {o c i} in
/-- The files of a controller with a primary interface. -/
theorem files_eq {stub proxy contract : SourceFile} (hi : c.primaryInterface? = some i)
    (hstub : c.stubFile o.arrangement = .ok stub) (hproxy : c.classFile o.arrangement i = .ok proxy)
    (hcontract : c.interfaceFile o.arrangement i = .ok contract) :
    c.files o = .ok (stub :: proxy :: if o.withContracts then [contract] else []) := by
  rw [files, hi]
  dsimp only
  rw [hstub, ok_bind, hproxy, ok_bind]
  split
  · rw [hcontract]
    rfl
  · rfl

variable {c} in
/-- The files of the controller of a service can be generated. -/
theorem exists_files_eq (h : c.isService = true) : ∃ i stub proxy contract,
    c.primaryInterface? = some i ∧ (serviceEnding? i.type).isSome = true ∧
      c.stubFile o.arrangement = .ok stub ∧ c.classFile o.arrangement i = .ok proxy ∧
      c.interfaceFile o.arrangement i = .ok contract ∧
      c.files o = .ok (stub :: proxy :: if o.withContracts then [contract] else []) := by
  cases hi : c.primaryInterface? with
  | none =>
    rw [isService, hi] at h
    exact absurd h Bool.false_ne_true
  | some i =>
    rw [isService, hi] at h
    obtain ⟨stub, hstub⟩ := c.exists_stubFile_eq_ok o.arrangement
    obtain ⟨proxy, hproxy⟩ := c.exists_classFile_eq_ok o.arrangement i
    obtain ⟨contract, hcontract⟩ := c.exists_interfaceFile_eq_ok o.arrangement i
    exact ⟨i, stub, proxy, contract, rfl, h, hstub, hproxy, hcontract,
      files_eq hi hstub hproxy hcontract⟩

theorem exists_files_eq_ok : ∃ files, c.files o = .ok files := by
  cases hi : c.primaryInterface? with
  | none => exact ⟨[], by rw [files, hi]⟩
  | some i =>
    obtain ⟨stub, hstub⟩ := c.exists_stubFile_eq_ok o.arrangement
    obtain ⟨proxy, hproxy⟩ := c.exists_classFile_eq_ok o.arrangement i
    obtain ⟨contract, hcontract⟩ := c.exists_interfaceFile_eq_ok o.arrangement i
    exact ⟨_, files_eq hi hstub hproxy hcontract⟩

end Controller

theorem DataType.exists_ofDefinition_eq_ok (key : String) (d : TypeDefinition) :
    ∃ t, ofDefinition key d = .ok t := by
  obtain ⟨content, h⟩ := DataTypeFile.exists_render_eq_ok _
  exact ⟨_, bind_eq_ok.2 ⟨content, h, rfl⟩⟩

/-- The file of a data type. -/
def DataType.file (a : Arrangement) (t : DataType) : SourceFile :=
  .ofKind (t.path a) t.content .dataType

namespace ApiDescription

variable (o : GeneratorOptions) (m : ApiDescription)

theorem exists_controllerFiles_eq_ok : ∃ files, m.controllerFiles o = .ok files := by
  have hparts : ∃ parts, (m.serviceControllers.mapM fun c => c.files o) = .ok parts :=
    exists_mapM_eq_ok fun c _ => c.exists_files_eq_ok o
  obtain ⟨parts, hparts⟩ := hparts
  exact ⟨_, bind_eq_ok.2 ⟨parts, hparts, rfl⟩⟩

theorem exists_ofDescription_eq_ok : ∃ types, DataType.ofDescription m = .ok types :=
  exists_mapM_eq_ok fun e _ => DataType.exists_ofDefinition_eq_ok e.1 e.2

variable {o m} in
/-- The files of a description are those of its controllers and then, with contracts, those of
its data types. -/
theorem generate_eq_ok {classes : List SourceFile} {types : List DataType}
    (hclasses : m.controllerFiles o = .ok classes)
    (htypes : DataType.ofDescription m = .ok types) :
    m.generate o =
      .ok (classes ++ if o.withContracts then types.map (·.file o.arrangement) else []) := by
  rw [generate, hclasses, ok_bind]
  split
  · rw [dataTypeFiles, htypes]
    rfl
  · rw [List.append_nil]
    rfl

/-- The files of a description can be generated. -/
theorem exists_generate_eq_ok : ∃ files, m.generate o = .ok files := by
  obtain ⟨classes, hclasses⟩ := m.exists_controllerFiles_eq_ok o
  obtain ⟨types, htypes⟩ := m.exists_ofDescription_eq_ok
  exact ⟨_, generate_eq_ok hclasses htypes⟩

end ApiDescription

end ApiProxy
