import ApiProxy.Proofs.Generation.Rendering
import Mathlib.Data.List.Sort

/-!
# What the controllers of no service decide

No files are generated for a controller that implements no service, but its namespace selects
data types like that of any other controller. Without such controllers the same stubs, classes and
interfaces are generated, and of the data types those which the namespace of a service selects.

## Main definitions

* `ApiDescription.keepServices`: the description without the controllers of no service.
* `DataType.isSelectedBy`: whether the namespaces of some controllers select a name.

## Main results

* `DataType.mem_keys`: which names are selected.
* `ApiDescription.exists_generate_keepServices`: the files that are generated without the
  controllers of no service.
-/

namespace ApiProxy

open Text

namespace DataType

/-! ### Selected names -/

/-- Whether the namespaces of some controllers select a name: it is what stands behind the name of
a defined type that begins with one of them. -/
def isSelectedBy (controllers : List Controller) (m : ApiDescription) (key : String) : Bool :=
  m.types.names.any fun name => payload? name == some key &&
    (controllers.filterMap fun c => namespaceOf? c.type).any fun ns => startsWith ns name

theorem isSelectedBy_mono {controllers controllers' : List Controller}
    (hsub : controllers ⊆ controllers') {m : ApiDescription} {key : String}
    (h : isSelectedBy controllers m key = true) : isSelectedBy controllers' m key = true := by
  rw [isSelectedBy, List.any_eq_true] at h ⊢
  obtain ⟨name, hname, h⟩ := h
  rw [Bool.and_eq_true, List.any_eq_true] at h
  obtain ⟨hpayload, ns, hns, hstart⟩ := h
  refine ⟨name, hname, ?_⟩
  rw [Bool.and_eq_true, List.any_eq_true]
  exact ⟨hpayload, ns, List.filterMap_subset _ hsub hns, hstart⟩

/-- The members of a list of names to which others are added one after the other. -/
theorem mem_foldl_addNamespace {names start : List String} {n : String} :
    n ∈ names.foldl (fun ns name => addNamespace name ns) start ↔ n ∈ start ∨ n ∈ names := by
  induction names generalizing start with
  | nil => simp
  | cons name names ih =>
    rw [List.foldl_cons, ih, mem_addNamespace, List.mem_cons, or_comm (a := n = name), or_assoc]

theorem pairwise_foldl_addNamespace {names start : List String} (h : start.Pairwise (· < ·)) :
    (names.foldl (fun ns name => addNamespace name ns) start).Pairwise (· < ·) := by
  induction names generalizing start with
  | nil => exact h
  | cons name names ih => exact ih (pairwise_addNamespace name h)

variable {m m' : ApiDescription} {key : String}

theorem pairwise_keys (m : ApiDescription) : (keys m).Pairwise (· < ·) :=
  pairwise_foldl_addNamespace .nil

/-- The names to generate: the namespace of a controller selects them, and they are not those of
system types. -/
theorem mem_keys :
    key ∈ keys m ↔ isSelectedBy m.controllers m key = true ∧ isSystem key = false := by
  rw [keys, mem_foldl_addNamespace, or_iff_right List.not_mem_nil, List.mem_filter,
    List.mem_filterMap, Bool.not_eq_true', isSelectedBy, List.any_eq_true]
  refine and_congr_left fun _ => exists_congr fun name => ?_
  rw [selectedNames, controllerNamespaces, List.mem_filter, Bool.and_eq_true, beq_iff_eq,
    and_assoc, and_comm (a := List.any _ _ = true)]

/-- Fewer controllers over the same types select the names that their own namespaces select. -/
theorem keys_eq_filter (hsub : m'.controllers ⊆ m.controllers) (htypes : m'.types = m.types) :
    keys m' = (keys m).filter (isSelectedBy m'.controllers m) := by
  refine (pairwise_keys m').eq_of_mem_iff ((pairwise_keys m).filter _) fun key => ?_
  have hsame : isSelectedBy m'.controllers m' key = isSelectedBy m'.controllers m key := by
    rw [isSelectedBy, htypes, isSelectedBy]
  rw [List.mem_filter, mem_keys, mem_keys, hsame]
  constructor
  · rintro ⟨hselected, hsystem⟩
    exact ⟨⟨isSelectedBy_mono hsub hselected, hsystem⟩, hselected⟩
  · rintro ⟨⟨-, hsystem⟩, hselected⟩
    exact ⟨hselected, hsystem⟩

/-! ### Selected definitions -/

/-- The definitions to generate: those of the selected names that have a namespace. -/
theorem mem_definitions {e : String × TypeDefinition} :
    e ∈ definitions m ↔
      e.1 ∈ keys m ∧ m.types.get? e.1 = some e.2 ∧ (namespaceOf? e.1).isSome = true := by
  rw [definitions, List.mem_filterMap]
  constructor
  · rintro ⟨key, hkey, he⟩
    split at he
    · next d hd =>
      obtain ⟨hns, he⟩ := Option.ite_none_right_eq_some.1 he
      obtain rfl := Option.some.inj he
      exact ⟨hkey, hd, hns⟩
    · exact nomatch he
  · rintro ⟨hkey, hd, hns⟩
    refine ⟨e.1, hkey, ?_⟩
    rw [hd]
    exact if_pos hns

/-- Fewer controllers over the same types select the definitions whose names they select. -/
theorem definitions_eq_filter (hsub : m'.controllers ⊆ m.controllers)
    (htypes : m'.types = m.types) :
    definitions m' = (definitions m).filter fun e => isSelectedBy m'.controllers m e.1 := by
  rw [definitions, definitions, keys_eq_filter hsub htypes, htypes, List.filterMap_filter,
    List.filter_filterMap]
  refine List.filterMap_congr fun key _ => ?_
  cases m.types.get? key with
  | none => exact ite_self _
  | some d =>
    dsimp only
    by_cases hns : (namespaceOf? key).isSome = true
    · rw [if_pos hns, Option.filter_some]
    · rw [if_neg hns, ite_self, Option.filter_none]

theorem key_of_ofDefinition {d : TypeDefinition} {t : DataType} (h : ofDefinition key d = .ok t) :
    t.key = key := by
  obtain ⟨content, -, h⟩ := bind_eq_ok.1 h
  exact congrArg DataType.key (Except.ok.inj h).symm

/-- Fewer controllers over the same types select the data types whose names they select. -/
theorem ofDescription_eq_filter {types : List DataType} (hsub : m'.controllers ⊆ m.controllers)
    (htypes : m'.types = m.types) (h : ofDescription m = .ok types) :
    ofDescription m' = .ok (types.filter fun t => isSelectedBy m'.controllers m t.key) := by
  rw [ofDescription, definitions_eq_filter hsub htypes]
  exact mapM_filter_eq_ok h fun e t ht => by rw [key_of_ofDefinition ht]

end DataType

/-! ### Without the controllers of no service -/

namespace Catalog

variable {α β : Type}

/-- The entries whose values have a property. -/
def filter (p : α → Bool) (c : Catalog α) : Catalog α :=
  ⟨c.entries.filter fun e => p e.2, c.ascending.filter _⟩

/-- Change every value. -/
def map (f : α → β) (c : Catalog α) : Catalog β :=
  ⟨c.entries.map fun e => (e.1, f e.2), List.pairwise_map.2 c.ascending⟩

@[simp] theorem values_filter (p : α → Bool) (c : Catalog α) :
    (c.filter p).values = c.values.filter p := by
  rw [values, values, List.filter_map]
  rfl

@[simp] theorem values_map (f : α → β) (c : Catalog α) : (c.map f).values = c.values.map f := by
  rw [values, map, List.map_map, values, List.map_map]
  rfl

end Catalog

namespace ApiDescription

variable (o : GeneratorOptions) (m : ApiDescription)

/-- The description without the controllers that no files are generated for. -/
def keepServices : ApiDescription :=
  { m with modules := m.modules.map fun s =>
      { s with controllers := s.controllers.filter (·.isService) } }

theorem controllers_keepServices : m.keepServices.controllers = m.serviceControllers := by
  simp [controllers, keepServices, serviceControllers, List.flatMap_map, List.filter_flatMap]

theorem controllerFiles_keepServices :
    m.keepServices.controllerFiles o = m.controllerFiles o := by
  rw [controllerFiles, controllerFiles, serviceControllers, controllers_keepServices,
    serviceControllers, List.filter_filter]
  simp only [Bool.and_self]

/-- Without the controllers of no service the same files are generated for controllers, and of
the data types those which the namespace of a service selects. So nothing changes exactly if, with
contracts, the services select all of them. -/
theorem exists_generate_keepServices : ∃ classes types,
    m.controllerFiles o = .ok classes ∧ DataType.ofDescription m = .ok types ∧
    m.generate o =
      .ok (classes ++ if o.withContracts then types.map (·.file o.arrangement) else []) ∧
    m.keepServices.generate o =
      .ok (classes ++ if o.withContracts then
        (types.filter fun t => DataType.isSelectedBy m.serviceControllers m t.key).map
          (·.file o.arrangement) else []) ∧
    (m.keepServices.generate o = m.generate o ↔ (o.withContracts = true →
      ∀ t ∈ types, DataType.isSelectedBy m.serviceControllers m t.key = true)) := by
  obtain ⟨classes, hclasses⟩ := m.exists_controllerFiles_eq_ok o
  obtain ⟨types, htypes⟩ := m.exists_ofDescription_eq_ok
  have hsub : m.keepServices.controllers ⊆ m.controllers := by
    rw [controllers_keepServices]
    exact List.filter_subset_self _
  have hkept := DataType.ofDescription_eq_filter hsub rfl htypes
  rw [controllers_keepServices] at hkept
  have hgenerate := generate_eq_ok hclasses htypes
  have hgenerateKept :=
    generate_eq_ok ((m.controllerFiles_keepServices o).trans hclasses) hkept
  refine ⟨classes, types, hclasses, htypes, hgenerate, hgenerateKept, ?_⟩
  rw [hgenerate, hgenerateKept, Except.ok.injEq, List.append_cancel_left_eq]
  split
  · next hcontracts =>
    rw [forall_prop_of_true hcontracts, ← List.length_filter_eq_length_iff]
    refine ⟨fun h => ?_, fun h => ?_⟩
    · simpa only [List.length_map] using congrArg List.length h
    · rw [List.filter_sublist.eq_of_length h]
  · next hcontracts => exact iff_of_true rfl fun h => absurd h hcontracts

/-- A service for books, and a controller without an interface in a namespace with a data type. -/
def healthDescription : ApiDescription :=
  let book : Controller :=
    ⟨"Book", none, true, false, none, "Acme.Books.BookController",
      [⟨"Acme.Books.IBookAppService", none, []⟩], .empty⟩
  let health : Controller :=
    ⟨"Health", none, true, false, none, "Acme.Health.HealthController", [], .empty⟩
  ⟨.ofList [("app", ⟨"app", "Default", .ofList [("book", book), ("health", health)]⟩)],
    .ofList [("Acme.Health.ReportDto", ⟨none, false, none, none, none, none⟩)]⟩

/-- Without the controller that implements nothing, the data type of its namespace is missing. -/
theorem generate_keepServices_health :
    healthDescription.keepServices.generate ⟨.namespaced, true⟩ ≠
      healthDescription.generate ⟨.namespaced, true⟩ := by
  decide +kernel

end ApiDescription

end ApiProxy
