import ApiProxy.Proofs.Generation.Rendering
import ApiProxy.Proofs.Text.Lines
import ApiProxy.Proofs.TypeRef.Names
import Mathlib.Data.List.Infix

/-!
# What generated files import

At the head of a generated file stands one directive for each namespace that the file needs, in
ascending order. A proxy class and a service interface need some namespaces always, that of the
interface, and those in the return types and the parameters of their methods. A data type needs
some always, that of its name, those in the instantiated type, and, unless it is an enumeration,
those in its base type and in the types of its properties. A blank namespace is never imported.

## Main definitions

* `ImportsExactly`: the directives at the head of a file import what it needs.
* `Parameter.IsFirstIn`: a parameter is the first one of its name.
* `Controller.ClassNeeds`, `ServiceInterface.Needs`, `DataType.Needs`: the namespaces that the
  kinds of files need.

## Main results

* `ImportsExactly.of_render`: a file whose template begins with the directives of an import set
  imports exactly this set.
* `generated_importsExactly`: the files of services and the data types import exactly what they
  need.
-/

namespace ApiProxy

open Text

/-! ### Import directives at the head of a file -/

/-- The directive that imports a namespace. -/
def importLine (n : String) : String := "using " ++ n ++ ";"

/-- At the head of a file the namespaces that it needs are imported and no others, each by one
directive, in strictly ascending order. -/
def ImportsExactly (content : String) (needed : String → Prop) : Prop :=
  ∃ (names : List String) (rest : String),
    content = CodeTemplate.heading ++ "\n".intercalate (names.map importLine) ++
      "\n\n// ReSharper disable once CheckNamespace\nnamespace " ++ rest ∧
    names.Pairwise (· < ·) ∧ ∀ n, n ∈ names ↔ needed n

namespace Template

variable {context : Json} {s : String}

/-- A template that begins with the preamble begins with its imports. -/
theorem exists_eq_of_render_preamble {t : Template} {others : List Piece} {imports ns : String}
    (hpieces : t.pieces = CodeTemplate.preamble ++ others)
    (himports : context.get? "usings" = some (.string imports))
    (hns : context.get? "namespace" = some (.string ns)) (h : t.render context = .ok s) :
    ∃ rest, s = CodeTemplate.heading ++ imports ++
      "\n\n// ReSharper disable once CheckNamespace\nnamespace " ++ rest := by
  rw [eq_filledAll_of_render h, hpieces, filledAll_append]
  refine ⟨ns ++ filledAll context others, ?_⟩
  simp only [CodeTemplate.preamble, filledAll, filled_text, filled_slot himports, filled_slot hns,
    String.append_empty, String.append_assoc]

end Template

namespace ImportsExactly

variable {content n : String} {needed : String → Prop}

/-- A file whose template begins with the directives of an import set imports exactly this
set. -/
theorem of_render {t : Template} {others : List Template.Piece} {context : Json} {s : ImportSet}
    {ns : String} (hpieces : t.pieces = CodeTemplate.preamble ++ others)
    (himports : context.get? "usings" = some (.string s.render))
    (hns : context.get? "namespace" = some (.string ns)) (h : t.render context = .ok content)
    (hneeded : ∀ n, n ∈ s ↔ needed n) : ImportsExactly content needed := by
  obtain ⟨rest, hcontent⟩ := Template.exists_eq_of_render_preamble hpieces himports hns h
  exact ⟨s.namespaces, rest, hcontent, s.ascending, hneeded⟩

theorem exists_eq_append (h : ImportsExactly content needed) (hn : needed n) :
    ∃ front back, content = front ++ importLine n ++ back := by
  obtain ⟨names, rest, rfl, -, hnames⟩ := h
  have hblock : ∃ front back,
      "\n".intercalate (names.map importLine) = front ++ importLine n ++ back :=
    exists_intercalate_eq (List.mem_map_of_mem ((hnames n).2 hn))
  obtain ⟨front, back, hblock⟩ := hblock
  exact ⟨CodeTemplate.heading ++ front,
    back ++ "\n\n// ReSharper disable once CheckNamespace\nnamespace " ++ rest,
    by simp only [hblock, String.append_assoc]⟩

end ImportsExactly

/-! ### Sets of imports -/

namespace ImportSet

variable {s : ImportSet} {n : String}

theorem not_mem_empty : n ∉ (∅ : ImportSet) := List.not_mem_nil

theorem mem_foldl_union {sets : List ImportSet} :
    n ∈ sets.foldl (· ∪ ·) s ↔ n ∈ s ∨ ∃ t ∈ sets, n ∈ t := by
  induction sets generalizing s with
  | nil => simp
  | cons t sets ih =>
    rw [List.foldl_cons, ih, mem_union, or_assoc]
    simp only [List.mem_cons, or_and_right, exists_or, exists_eq_left]

/-- The members of the set that an emitter starts with: fixed ones and, unless it is blank, one
more namespace. -/
theorem mem_ofList_insertMany {fixed : List String} (hfixed : ∀ n ∈ fixed, allBlank n = false)
    {more : Option String} : n ∈ (ofList fixed).insertMany more.toList ↔
      n ∈ fixed ∨ more = some n ∧ allBlank n = false := by
  rw [mem_insertMany, mem_ofList, Option.mem_toList, and_iff_left_of_imp (hfixed n)]

end ImportSet

theorem mem_importsOf {descriptor n : String} :
    n ∈ importsOf descriptor ↔ (TypeRef.ofDescriptor descriptor).DependsOn n :=
  TypeRef.mem_imports

/-! ### Methods -/

/-- A parameter is the first one of its name in a list. -/
def Parameter.IsFirstIn (p : Parameter) (ps : List Parameter) : Prop :=
  ∃ front back, ps = front ++ p :: back ∧ ∀ q ∈ front, q.name ≠ p.name

theorem Parameter.mem_distinct {p : Parameter} {ps : List Parameter} :
    p ∈ distinct ps ↔ p.IsFirstIn ps := by
  induction ps with
  | nil => simp [distinct, IsFirstIn]
  | cons q ps ih =>
    rw [distinct, List.mem_cons, List.mem_filter, ih, bne_iff_ne]
    constructor
    · rintro (rfl | ⟨⟨front, back, rfl, hfront⟩, hname⟩)
      · exact ⟨[], ps, rfl, fun _ h => absurd h List.not_mem_nil⟩
      · exact ⟨q :: front, back, rfl, List.forall_mem_cons.2 ⟨hname.symm, hfront⟩⟩
    · rintro ⟨front, back, hsplit, hfront⟩
      cases front with
      | nil => exact .inl (List.cons.inj hsplit).1.symm
      | cons q' front =>
        obtain ⟨rfl, rfl⟩ := List.cons.inj hsplit
        obtain ⟨hname, hfront⟩ := List.forall_mem_cons.1 hfront
        exact .inr ⟨⟨front, back, rfl, hfront⟩, hname.symm⟩

/-- The namespaces that a method needs: those in its return type, unless that is blank, and those
in the types of the parameters that it takes. -/
def MethodNeeds (returnType : String) (takes : Parameter → Prop) (n : String) : Prop :=
  (allBlank returnType = false ∧ (TypeRef.ofDescriptor returnType).DependsOn n) ∨
    ∃ p, takes p ∧ (TypeRef.ofDescriptor p.type).DependsOn n

theorem mem_methodImports {returnType n : String} {ps : List Parameter} {takes : Parameter → Prop}
    (htakes : ∀ p, p ∈ ps ↔ takes p) :
    n ∈ methodImports returnType ps ↔ MethodNeeds returnType takes n := by
  have hreturn : n ∈ returnImports returnType ↔
      allBlank returnType = false ∧ (TypeRef.ofDescriptor returnType).DependsOn n := by
    rw [returnImports]
    split
    · next hblank => simp [hblank, ImportSet.not_mem_empty]
    · next hblank => rw [mem_importsOf, eq_false_of_ne_true hblank, and_iff_right rfl]
  rw [methodImports, ImportSet.mem_foldl_union, hreturn, MethodNeeds]
  refine or_congr_right ?_
  simp only [List.mem_map, exists_exists_and_eq_and, mem_importsOf, htakes]

/-- The parameters that the method of an action takes: all that are declared if it is
asynchronous, and otherwise the first one of each name of those bound from the request. -/
def Action.Takes (a : Action) (p : Parameter) : Prop :=
  if isAsync a.name then p ∈ a.parametersOnMethod.map (·.parameter)
  else p.IsFirstIn (a.parameters.map (·.parameter))

/-- The parameters that a method of an interface takes: all that are declared if it is
asynchronous, and otherwise the first one of each name. -/
def InterfaceMethod.Takes (m : InterfaceMethod) (p : Parameter) : Prop :=
  if isAsync m.name then p ∈ m.parametersOnMethod.map (·.parameter)
  else p.IsFirstIn (m.parametersOnMethod.map (·.parameter))

theorem Action.mem_imports_member {a : Action} {n : String} :
    n ∈ a.member.imports ↔ MethodNeeds a.returnValue.type a.Takes n := by
  refine mem_methodImports fun p => ?_
  rw [Action.formals, Action.Takes]
  split
  · exact Iff.rfl
  · exact Parameter.mem_distinct

theorem InterfaceMethod.mem_imports_member {m : InterfaceMethod} {n : String} :
    n ∈ m.member.imports ↔ MethodNeeds m.returnValue.type m.Takes n := by
  refine mem_methodImports fun p => ?_
  rw [InterfaceMethod.formals, InterfaceMethod.Takes]
  split
  · exact Iff.rfl
  · exact Parameter.mem_distinct

/-! ### Proxy classes and service interfaces -/

/-- The namespaces that the proxy class of a controller needs for an interface. -/
def Controller.ClassNeeds (c : Controller) (i : ServiceInterface) (n : String) : Prop :=
  n ∈ proxyClassImports ∨ (namespaceOf? i.type = some n ∧ allBlank n = false) ∨
    ∃ a ∈ c.actions.values, a.belongsTo i.type = true ∧ MethodNeeds a.returnValue.type a.Takes n

/-- The namespaces that the file of a service interface needs. -/
def ServiceInterface.Needs (i : ServiceInterface) (n : String) : Prop :=
  n ∈ interfaceImports ∨ (namespaceOf? i.type = some n ∧ allBlank n = false) ∨
    ∃ m ∈ i.methods, MethodNeeds m.returnValue.type m.Takes n

theorem Member.mem_collectImports {base : ImportSet} {ms : List Member} {n : String} :
    n ∈ collectImports base ms ↔ n ∈ base ∨ ∃ m ∈ ms, n ∈ m.imports := by
  rw [collectImports, ← List.foldl_map, ImportSet.mem_foldl_union]
  simp only [List.mem_map, exists_exists_and_eq_and]

namespace Controller

variable {a : Arrangement} {c : Controller} {i : ServiceInterface} {f : SourceFile}

theorem classFile_importsExactly (h : c.classFile a i = .ok f) :
    ImportsExactly f.content (c.ClassNeeds i) := by
  obtain ⟨content, hrender, h⟩ := bind_eq_ok.1 h
  obtain rfl := Except.ok.inj h
  refine .of_render (List.append_assoc ..) rfl rfl hrender fun n => ?_
  rw [Member.mem_collectImports, ImportSet.mem_ofList_insertMany (by decide), ClassNeeds, or_assoc]
  simp only [List.mem_map, exists_exists_and_eq_and, Action.mem_imports_member]
  simp only [proxyActions, List.mem_filter, and_assoc]

theorem interfaceFile_importsExactly (h : c.interfaceFile a i = .ok f) :
    ImportsExactly f.content i.Needs := by
  obtain ⟨content, hrender, h⟩ := bind_eq_ok.1 h
  obtain rfl := Except.ok.inj h
  refine .of_render (List.append_assoc ..) rfl rfl hrender fun n => ?_
  rw [Member.mem_collectImports, ImportSet.mem_ofList_insertMany (by decide),
    ServiceInterface.Needs, or_assoc]
  simp only [List.mem_map, exists_exists_and_eq_and, InterfaceMethod.mem_imports_member]

end Controller

/-! ### Data types -/

namespace DataType

variable {key n : String} {d : TypeDefinition}

/-- The namespaces that the file of a data type needs. -/
def Needs (key : String) (d : TypeDefinition) (n : String) : Prop :=
  let type := (TypeRef.ofDescriptor key).instantiate d.arguments
  n ∈ baseImports ∨ (namespaceOf? key = some n ∧ allBlank n = false) ∨ type.DependsOn n ∨
    (d.isEnum = false ∧
      ((∃ base, d.base? = some base ∧ (TypeRef.ofDescriptor base).DependsOn n) ∨
        ∃ p ∈ d.propertyList, (TypeRef.ofDescriptor (propertyType d type.text p)).DependsOn n))

theorem mem_baseTypeImports : n ∈ baseTypeImports d ↔
    d.isEnum = false ∧
      ∃ base, d.base? = some base ∧ (TypeRef.ofDescriptor base).DependsOn n := by
  rw [baseTypeImports]
  split
  · next henum => simp [henum, ImportSet.not_mem_empty]
  · next henum =>
    rw [eq_false_of_ne_true henum, and_iff_right rfl]
    cases d.base? with
    | none => simp [ImportSet.not_mem_empty]
    | some base => simp [mem_importsOf]

theorem mem_memberImports {name : String} : n ∈ memberImports d name ↔
    d.isEnum = false ∧
      ∃ p ∈ d.propertyList, (TypeRef.ofDescriptor (propertyType d name p)).DependsOn n := by
  rw [memberImports]
  split
  · next henum => simp [henum, ImportSet.not_mem_empty]
  · next henum =>
    rw [eq_false_of_ne_true henum, and_iff_right rfl, ImportSet.mem_foldl_union,
      or_iff_right ImportSet.not_mem_empty]
    simp only [List.mem_map, exists_exists_and_eq_and, mem_importsOf]

theorem ofDefinition_importsExactly {t : DataType} (h : ofDefinition key d = .ok t) :
    ImportsExactly t.content (Needs key d) := by
  obtain ⟨content, hrender, h⟩ := bind_eq_ok.1 h
  obtain rfl := Except.ok.inj h
  refine .of_render (List.append_assoc ..) rfl rfl hrender fun n => ?_
  rw [imports, ImportSet.mem_union, ImportSet.mem_union, ImportSet.mem_union,
    ImportSet.mem_ofList_insertMany (by decide), TypeRef.mem_imports, mem_baseTypeImports,
    mem_memberImports, Needs, and_or_left, or_assoc, or_assoc, or_assoc]

end DataType

/-! ### All kinds of files -/

/-- The proxy class and the interface of every service, and the file of every data type, import
exactly the namespaces that they need. -/
theorem generated_importsExactly (o : GeneratorOptions) :
    (∀ c : Controller, c.isService = true → ∃ i stub proxy contract,
      c.primaryInterface? = some i ∧ c.stubFile o.arrangement = .ok stub ∧
      c.classFile o.arrangement i = .ok proxy ∧ c.interfaceFile o.arrangement i = .ok contract ∧
      c.files o = .ok (stub :: proxy :: if o.withContracts then [contract] else []) ∧
      ImportsExactly proxy.content (c.ClassNeeds i) ∧ ImportsExactly contract.content i.Needs) ∧
    ∀ key d, ∃ t, DataType.ofDefinition key d = .ok t ∧
      ImportsExactly t.content (DataType.Needs key d) := by
  refine ⟨fun c hservice => ?_, fun key d => ?_⟩
  · obtain ⟨i, stub, proxy, contract, hi, -, hstub, hproxy, hcontract, hfiles⟩ :=
      Controller.exists_files_eq o hservice
    exact ⟨i, stub, proxy, contract, hi, hstub, hproxy, hcontract, hfiles,
      Controller.classFile_importsExactly hproxy,
      Controller.interfaceFile_importsExactly hcontract⟩
  · obtain ⟨t, ht⟩ := DataType.exists_ofDefinition_eq_ok key d
    exact ⟨t, ht, DataType.ofDefinition_importsExactly ht⟩

/-- A service with a method that is not asynchronous: the second parameter of its name, of a type in
a namespace of its own, is not taken. -/
def borrowingController : Controller :=
  let get : Action :=
    { uniqueName := "Get", name := "Get", httpMethod := none, url := none,
      supportedVersions := [], parametersOnMethod := [],
      parameters := [⟨"", "id", none, "System.Guid", none, false, none, none, none, none⟩,
        ⟨"", "id", none, "Acme.Keys.Key", none, false, none, none, none, none⟩],
      returnValue := ⟨"[Acme.Loans.Loan<Acme.Books.Book>]", none⟩, allowAnonymous := none,
      implementFrom := "Acme.Books.IBookAppService" }
  ⟨"Book", none, true, false, none, "Acme.Books.BookController",
    [⟨"Acme.Books.IBookAppService", none, []⟩], .ofList [("Get", get)]⟩

theorem generated_importsExactly_borrowing :
    borrowingController.isService = true ∧ ∃ i stub proxy contract,
      borrowingController.primaryInterface? = some i ∧
      borrowingController.stubFile .flat = .ok stub ∧
      borrowingController.classFile .flat i = .ok proxy ∧
      borrowingController.interfaceFile .flat i = .ok contract ∧
      borrowingController.files ⟨.flat, true⟩ = .ok [stub, proxy, contract] ∧
      ImportsExactly proxy.content (borrowingController.ClassNeeds i) ∧
      ImportsExactly contract.content i.Needs := by
  have hservice : borrowingController.isService = true := by decide +kernel
  exact ⟨hservice, (generated_importsExactly ⟨.flat, true⟩).1 borrowingController hservice⟩

/-! ### Namespaces that are mentioned but not needed -/

namespace DataType

/-- The namespaces that a definition mentions: that of its name even if it is blank, those in the
instantiated name as it is written, and those in the types of all properties, also of those of an
enumeration. -/
def Mentions (key : String) (d : TypeDefinition) (n : String) : Prop :=
  let name := ((TypeRef.ofDescriptor key).instantiate d.arguments).text
  n ∈ baseImports ∨ namespaceOf? key = some n ∨ (TypeRef.ofDescriptor name).DependsOn n ∨
    (d.isEnum = false ∧ ∃ base, d.base? = some base ∧ (TypeRef.ofDescriptor base).DependsOn n) ∨
    ∃ p ∈ d.propertyList, (TypeRef.ofDescriptor (propertyType d name p)).DependsOn n

/-- An enumeration that lists a property. -/
def shadedColor : TypeDefinition :=
  ⟨none, true, some ["Red"], some [.number (.integer 0)], none,
    some [⟨"Shade", none, "Acme.Paint.Shade", none, false, none, none, none, none, none⟩]⟩

/-- A class with nothing in it. -/
def hollow : TypeDefinition :=
  ⟨none, false, none, none, none, none⟩

/-- A generic type whose argument is no descriptor. -/
def cupBox : TypeDefinition :=
  ⟨none, false, none, none, some ["Other.Cup<"], none⟩

end DataType

/-- A service whose interface is in a blank namespace. -/
def unqualifiedController : Controller :=
  ⟨"Book", none, true, false, none, "Acme.Books.BookController",
    [⟨".IBookAppService", none, []⟩], .empty⟩

/-- The bytes of a text, which are cheaper to look through than its characters. -/
def bytes (s : String) : List UInt8 := s.toByteArray.data.toList

theorem bytes_append (s t : String) : bytes (s ++ t) = bytes s ++ bytes t := by
  simp [bytes]

/-- A file without the directive of a needed namespace does not import exactly what it needs. -/
theorem exists_not_importsExactly {α : Type} {x : Except Failure α} {content : α → String}
    {needed : String → Prop} {n : String} (hn : needed n)
    (h : x.map (fun f => decide (bytes (importLine n) <:+: bytes (content f))) = .ok false) :
    ∃ f, x = .ok f ∧ ¬ImportsExactly (content f) needed := by
  obtain ⟨f, hf, habsent⟩ := map_eq_ok.1 h
  refine ⟨f, hf, fun himports => of_decide_eq_false habsent ?_⟩
  obtain ⟨front, back, hcontent⟩ := himports.exists_eq_append hn
  exact ⟨bytes front, bytes back, by rw [hcontent, bytes_append, bytes_append]⟩

/-- Not all that is mentioned is imported: not the properties of an enumeration, not what a name
seems to say that is no descriptor, and not a blank namespace. -/
theorem not_importsExactly_mentioned :
    (∃ t, DataType.ofDefinition "Acme.Color" DataType.shadedColor = .ok t ∧
      ¬ImportsExactly t.content (DataType.Mentions "Acme.Color" DataType.shadedColor)) ∧
    (∃ t, DataType.ofDefinition "Acme.Box<T0>" DataType.cupBox = .ok t ∧
      ¬ImportsExactly t.content (DataType.Mentions "Acme.Box<T0>" DataType.cupBox)) ∧
    (∃ t, DataType.ofDefinition ".Box" DataType.hollow = .ok t ∧
      ¬ImportsExactly t.content (DataType.Mentions ".Box" DataType.hollow)) ∧
    ∃ i, unqualifiedController.primaryInterface? = some i ∧
      (∃ proxy, unqualifiedController.classFile .flat i = .ok proxy ∧
        ¬ImportsExactly proxy.content
          fun n => namespaceOf? i.type = some n ∨ unqualifiedController.ClassNeeds i n) ∧
      ∃ contract, unqualifiedController.interfaceFile .flat i = .ok contract ∧
        ¬ImportsExactly contract.content fun n => namespaceOf? i.type = some n ∨ i.Needs n := by
  have hproperty : "Acme.Paint" ∈ importsOf "Acme.Paint.Shade" := by decide +kernel
  have hname : "Acme.Box<Other" ∈ importsOf
      ((TypeRef.ofDescriptor "Acme.Box<T0>").instantiate DataType.cupBox.arguments).text := by
    decide +kernel
  have hkey : namespaceOf? ".Box" = some "" := by decide +kernel
  have hinterface : namespaceOf? ".IBookAppService" = some "" := by decide +kernel
  refine ⟨?enumeration, ?argument, ?key, ⟨".IBookAppService", none, []⟩, rfl, ?service, ?contract⟩
  case enumeration =>
    refine exists_not_importsExactly (n := "Acme.Paint") ?_ (by decide +kernel)
    exact .inr (.inr (.inr (.inr ⟨_, List.mem_singleton.2 rfl, mem_importsOf.1 hproperty⟩)))
  case argument =>
    refine exists_not_importsExactly (n := "Acme.Box<Other") ?_ (by decide +kernel)
    exact .inr (.inr (.inl (mem_importsOf.1 hname)))
  case key =>
    refine exists_not_importsExactly (n := "") ?_ (by decide +kernel)
    exact .inr (.inl hkey)
  case service =>
    exact exists_not_importsExactly (n := "") (.inl hinterface) (by decide +kernel)
  case contract =>
    exact exists_not_importsExactly (n := "") (.inl hinterface) (by decide +kernel)

end ApiProxy
