import ApiProxy.Proofs.Generation.Wrappers

/-!
# Which data types are generated

A name is selected if it begins with the letters of a controller's namespace, and no dot has to
follow them. So all types under the namespace are selected, and besides them the type that is named
like the namespace and the types of every namespace whose last segment only begins like that of
the controller.

Of what is selected nothing is lost: a type that is defined, has a namespace and is neither a
wrapper nor one of the system is generated, and so is the argument of a wrapper. It is generated
once, however many names stand for it, since the names of the generated types ascend.

## Main definitions

* `DataType.IsUnder`: a name lies under a namespace.
* `DataType.HasPlace`: a name lies under the namespace of a controller or is what a wrapper stands
  for.
* `DataType.Strays`: a name is selected for the letters of a namespace that it does not lie under.
* `DataType.GeneratedOnce`: exactly one data type has a name, and it is made from a definition.

## Main results

* `DataType.keys_placed_or_stray`: which names are selected without a place.
* `DataType.generated_once`: what is generated, each type once.
-/

namespace ApiProxy

open Text

theorem Catalog.mem_names_of_get?_eq_some {α : Type} {c : Catalog α} {name : String} {value : α}
    (h : c.get? name = some value) : name ∈ c.names := by
  obtain ⟨e, he, -⟩ := Option.map_eq_some_iff.1 h
  have hname := List.find?_some he
  exact List.mem_map.2 ⟨e, List.mem_of_find?_eq_some he, eq_of_beq hname⟩

namespace DataType

variable {m : ApiDescription} {ns key : String} {d : TypeDefinition}

/-! ### Names under a namespace -/

/-- A name lies under a namespace: a dot follows the namespace in it. -/
def IsUnder (ns key : String) : Prop :=
  startsWith (ns ++ ".") key = true

instance (ns key : String) : Decidable (IsUnder ns key) :=
  inferInstanceAs (Decidable (_ = _))

theorem isUnder_append {rest : String} :
    IsUnder ns (ns ++ rest) ↔ startsWith "." rest = true := by
  rw [IsUnder, startsWith_iff, startsWith_iff, String.toList_append, String.toList_append,
    List.prefix_append_right_inj]

theorem IsUnder.startsWith (h : IsUnder ns key) : startsWith ns key = true := by
  rw [IsUnder, startsWith_iff, String.toList_append] at h
  exact startsWith_iff.2 ((List.prefix_append _ _).trans h)

/-- A name that begins with a namespace without lying under it ends there, or goes on with
something else than a dot. -/
theorem startsWith_and_not_isUnder_iff :
    startsWith ns key = true ∧ ¬IsUnder ns key ↔
      ∃ rest, key = ns ++ rest ∧ startsWith "." rest = false := by
  constructor
  · rintro ⟨hstart, hunder⟩
    obtain ⟨rest, hrest⟩ := startsWith_iff.1 hstart
    obtain rfl : ns ++ String.ofList rest = key := String.toList_inj.1 (by simp [hrest])
    exact ⟨_, rfl, Bool.eq_false_iff.2 fun h => hunder (isUnder_append.2 h)⟩
  · rintro ⟨rest, rfl, hrest⟩
    refine ⟨startsWith_iff.2 (by simp), fun hunder => ?_⟩
    rw [isUnder_append.1 hunder] at hrest
    cases hrest

theorem IsUnder.not_beginsBlank (h : IsUnder ns key) (hns : ns ∈ controllerNamespaces m) :
    ¬BeginsBlank key := by
  obtain ⟨c, -, hc⟩ := List.mem_filterMap.1 hns
  have hblank := TypeRef.not_beginsBlank_of_namespaceOf? hc
  by_cases hempty : ns = ""
  · subst hempty
    rw [beginsBlank_iff_of_startsWith (by decide) h]
    decide
  · rwa [beginsBlank_iff_of_startsWith hempty h.startsWith]

/-! ### Selected names that lie under no namespace -/

/-- A name has a place: it is the argument of a wrapper, or it lies under the namespace of a
controller. -/
def HasPlace (m : ApiDescription) (key : String) : Prop :=
  (∃ outer ∈ m.types.names, ∃ arg,
    wrapperArgs? (.ofDescriptor outer) = some [arg] ∧ arg.text = key) ∨
    ∃ ns ∈ controllerNamespaces m, IsUnder ns key

/-- A defined type strays into the selection: it begins with the letters of a controller's
namespace, without a dot behind them, and is neither a recognized wrapper nor a system type. -/
structure Strays (m : ApiDescription) (key : String) : Prop where
  defined : key ∈ m.types.names
  goesOn : ∃ ns ∈ controllerNamespaces m, ∃ rest,
    key = ns ++ rest ∧ startsWith "." rest = false
  notUnwrapped : ∀ args, ¬Unwraps key args
  notSystem : isSystem key = false

theorem Strays.mem_keys (h : Strays m key) : key ∈ keys m := by
  obtain ⟨ns, hns, hrest⟩ := h.goesOn
  have hstart := (startsWith_and_not_isUnder_iff.2 hrest).1
  have hselected := mem_selectedNames.2 ⟨h.defined, ns, hns, hstart⟩
  exact mem_keys_iff.2 ⟨h.notSystem, .inr ⟨hselected, h.notUnwrapped⟩⟩

theorem hasPlace_or_strays (hkey : key ∈ keys m) : HasPlace m key ∨ Strays m key := by
  obtain ⟨hsystem, ⟨outer, houter, arg, harg, htext⟩ | ⟨hselected, hnone⟩⟩ := mem_keys_iff.1 hkey
  · exact .inl (.inl ⟨outer, (mem_selectedNames.1 houter).1, arg, harg.1, htext⟩)
  · obtain ⟨hdefined, ns, hns, hstart⟩ := mem_selectedNames.1 hselected
    by_cases hunder : IsUnder ns key
    · exact .inl (.inr ⟨ns, hns, hunder⟩)
    · have hrest := startsWith_and_not_isUnder_iff.1 ⟨hstart, hunder⟩
      exact .inr ⟨hdefined, ⟨ns, hns, hrest⟩, hnone, hsystem⟩

/-- **Which names stray into the selection.** A name to generate has a place, or it is that of a
defined type which begins with the letters of a controller's namespace without a dot behind them;
and all of these are selected, unless they are recognized wrappers or system types. So all names to
generate have a place exactly if all of these have one. -/
theorem keys_placed_or_stray (m : ApiDescription) :
    (∀ key ∈ keys m, HasPlace m key ∨ Strays m key) ∧
      (∀ key, Strays m key → key ∈ keys m) ∧
      ((∀ key ∈ keys m, HasPlace m key) ↔ ∀ key, Strays m key → HasPlace m key) := by
  refine ⟨fun _ => hasPlace_or_strays, fun _ => Strays.mem_keys, ?_, ?_⟩
  · exact fun h key hstrays => h key hstrays.mem_keys
  · intro h key hkey
    rcases hasPlace_or_strays hkey with hplace | hstrays
    · exact hplace
    · exact h key hstrays

/-- A controller for books selects the types of a bookshop. -/
theorem keys_placed_or_stray_bookshop :
    let m := ApiDescription.ofNames "Acme.Book.BookController"
      ["Acme.Book.BookDto", "Acme.Bookshop.ShelfDto"]
    keys m = ["Acme.Book.BookDto", "Acme.Bookshop.ShelfDto"] ∧
      HasPlace m "Acme.Book.BookDto" ∧ Strays m "Acme.Bookshop.ShelfDto" ∧
      ¬HasPlace m "Acme.Bookshop.ShelfDto" := by
  intro m
  have hkeys : keys m = ["Acme.Book.BookDto", "Acme.Bookshop.ShelfDto"] := by decide +kernel
  have hplace : ¬HasPlace m "Acme.Bookshop.ShelfDto" := by
    have hnames : ∀ outer ∈ m.types.names, wrapperArgs? (.ofDescriptor outer) = none := by
      decide +kernel
    rintro (⟨outer, houter, arg, harg, -⟩ | hunder)
    · rw [hnames outer houter] at harg
      cases harg
    · revert hunder
      decide +kernel
  have hshelf : "Acme.Bookshop.ShelfDto" ∈ keys m := by
    rw [hkeys]
    decide
  exact ⟨hkeys, .inr (by decide +kernel),
    ((keys_placed_or_stray m).1 _ hshelf).resolve_left hplace, hplace⟩

/-! ### Every type once -/

/-- Exactly one of the data types has a name, and it is made from a definition. -/
def GeneratedOnce (types : List DataType) (key : String) (d : TypeDefinition) : Prop :=
  ∃ t, ofDefinition key d = .ok t ∧ types.filter (·.key == key) = [t]

/-- In ascending order each name is there once. -/
theorem filter_key_eq_singleton {types : List DataType} {t : DataType}
    (h : (types.map (·.key)).Pairwise (· < ·)) (ht : t ∈ types) :
    types.filter (·.key == t.key) = [t] := by
  induction types with
  | nil => exact absurd ht List.not_mem_nil
  | cons u us ih =>
    obtain ⟨hu, hus⟩ := List.pairwise_cons.1 h
    rcases List.mem_cons.1 ht with rfl | ht
    · rw [List.filter_cons, if_pos (beq_self_eq_true _), List.filter_eq_nil_iff.2]
      intro v hv hkey
      exact absurd (eq_of_beq hkey ▸ hu _ (List.mem_map_of_mem hv)) (String.lt_irrefl _)
    · rw [List.filter_cons, if_neg, ih hus ht]
      intro hkey
      exact absurd (eq_of_beq hkey ▸ hu _ (List.mem_map_of_mem ht)) (String.lt_irrefl _)

section Generated

variable {types : List DataType} (h : ofDescription m = .ok types)

include h

theorem pairwise_map_key : (types.map (·.key)).Pairwise (· < ·) := by
  rw [map_eq_of_mapM_eq_ok (g := Prod.fst) h fun e _ _ => key_of_ofDefinition, List.pairwise_map,
    definitions, List.pairwise_filterMap]
  refine (pairwise_keys m).imp fun {key key'} hlt e he e' he' => ?_
  have hfst : e.1 = key ∧ e'.1 = key' := by
    constructor <;> grind
  rwa [hfst.1, hfst.2]

/-- A name to generate that is defined and has a namespace is generated once, from its own
definition. -/
theorem generatedOnce_of_mem_keys (hkey : key ∈ keys m) (hd : m.types.get? key = some d)
    (hns : (namespaceOf? key).isSome = true) : GeneratedOnce types key d := by
  have hmem := (mem_map_key_iff h).2 ⟨hkey, by rw [hd]; rfl, hns⟩
  obtain ⟨t, ht, rfl⟩ := List.mem_map.1 hmem
  refine ⟨t, ?_, filter_key_eq_singleton (pairwise_map_key h) ht⟩
  obtain ⟨e, he, hte⟩ := mem_of_mapM_eq_ok h ht
  have hkeyed := key_of_ofDefinition hte
  rw [hkeyed, (mem_definitions.1 he).2.1] at hd
  rwa [hkeyed, ← Option.some.inj hd]

variable (hns : ns ∈ controllerNamespaces m)

include hns

/-- A type under the namespace of a controller is generated unless it is a wrapper or one of the
system. -/
theorem generatedOnce_of_isUnder (hunder : IsUnder ns key) (hd : m.types.get? key = some d)
    (hspace : (namespaceOf? key).isSome = true) (hsystem : isSystem key = false)
    (hwrapper : ¬IsWrapper key) : GeneratedOnce types key d := by
  refine generatedOnce_of_mem_keys h (mem_keys_iff.2 ⟨hsystem, .inr ⟨?_, fun args hargs => ?_⟩⟩) hd
    hspace
  · exact mem_selectedNames.2 ⟨Catalog.mem_names_of_get?_eq_some hd, ns, hns, hunder.startsWith⟩
  · exact hwrapper (by rw [IsWrapper, hargs.1]; rfl)

/-- The argument of a wrapper under the namespace of a controller is generated unless it is one of
the system. -/
theorem generatedOnce_of_wrapper {outer : String} {arg : TypeRef} (hunder : IsUnder ns outer)
    (houter : outer ∈ m.types.names) (harg : wrapperArgs? (.ofDescriptor outer) = some [arg])
    (hd : m.types.get? arg.text = some d) (hspace : (namespaceOf? arg.text).isSome = true)
    (hsystem : isSystem arg.text = false) : GeneratedOnce types arg.text d := by
  refine generatedOnce_of_mem_keys h (mem_keys_iff.2 ⟨hsystem, .inl ⟨outer, ?_, arg, ?_, rfl⟩⟩) hd
    hspace
  · exact mem_selectedNames.2 ⟨houter, ns, hns, hunder.startsWith⟩
  · exact ⟨harg, hunder.not_beginsBlank hns⟩

end Generated

theorem isSystem_eq_false_iff :
    isSystem key = false ↔
      startsWith "System." key = false ∧ startsWith "[System." key = false := by
  simp [isSystem, systemStarts]

/-- **No data type is lost or generated twice.** The names of the generated types ascend. A defined
type that has a namespace and is neither a wrapper nor one of the system is generated once, from
its own definition, if it lies under the namespace of a controller or is the only argument of a
wrapper that does, however many names stand for it. -/
theorem generated_once (m : ApiDescription) : ∃ types, ofDescription m = .ok types ∧
    (types.map (·.key)).Pairwise (· < ·) ∧
    (∀ ns ∈ controllerNamespaces m, ∀ key d, m.types.get? key = some d → IsUnder ns key →
      (namespaceOf? key).isSome = true → startsWith "System." key = false →
      startsWith "[System." key = false → ¬IsWrapper key → GeneratedOnce types key d) ∧
    (∀ ns ∈ controllerNamespaces m, ∀ outer ∈ m.types.names, IsUnder ns outer →
      ∀ arg, wrapperArgs? (.ofDescriptor outer) = some [arg] →
      ∀ d, m.types.get? arg.text = some d → (namespaceOf? arg.text).isSome = true →
      ¬IsWrapper arg.text → startsWith "System." arg.text = false →
      startsWith "[System." arg.text = false → GeneratedOnce types arg.text d) := by
  obtain ⟨types, htypes⟩ := m.exists_ofDescription_eq_ok
  refine ⟨types, htypes, pairwise_map_key htypes, ?_, ?_⟩
  · intro ns hns key d hd hunder hspace hsystem harray hwrapper
    exact generatedOnce_of_isUnder htypes hns hunder hd hspace
      (isSystem_eq_false_iff.2 ⟨hsystem, harray⟩) hwrapper
  · intro ns hns outer houter hunder arg harg d hd hspace _ hsystem harray
    exact generatedOnce_of_wrapper htypes hns hunder houter harg hd hspace
      (isSystem_eq_false_iff.2 ⟨hsystem, harray⟩)

/-- Two wrappers and the type itself stand for one type, which is generated once. -/
theorem generated_once_shared :
    let book := "Volo.Abp.Application.Dtos.BookDto"
    let m := ApiDescription.ofNames "Volo.Abp.Application.Dtos.BookController"
      [book, "Volo.Abp.Application.Dtos.ListResultDto<" ++ book ++ ">",
        "Volo.Abp.Application.Dtos.PagedResultDto<" ++ book ++ ">"]
    ∃ types d, ofDescription m = .ok types ∧ m.types.get? book = some d ∧
      GeneratedOnce types book d := by
  intro book m
  obtain ⟨types, htypes, -, -, hwrapped⟩ := generated_once m
  have hdefined : (m.types.get? book).isSome = true := by decide +kernel
  obtain ⟨d, hd⟩ := Option.isSome_iff_exists.1 hdefined
  refine ⟨types, d, htypes, hd, ?_⟩
  exact hwrapped "Volo.Abp.Application.Dtos" (by decide +kernel)
    ("Volo.Abp.Application.Dtos.PagedResultDto<" ++ book ++ ">") (by decide +kernel)
    (by decide +kernel) (.simple book false) (by decide +kernel) d hd (by decide +kernel)
    (by decide +kernel) (by decide +kernel) (by decide +kernel)

/-- An array of a system type under a namespace that begins with a bracket is left out. -/
theorem not_generated_once_systemArray :
    let m := ApiDescription.ofNames "[System.ClockController" ["[System.Int32]"]
    let d : TypeDefinition := ⟨none, false, none, none, none, none⟩
    "[System" ∈ controllerNamespaces m ∧ m.types.get? "[System.Int32]" = some d ∧
      IsUnder "[System" "[System.Int32]" ∧ (namespaceOf? "[System.Int32]").isSome = true ∧
      startsWith "System." "[System.Int32]" = false ∧ ¬IsWrapper "[System.Int32]" ∧
      ofDescription m = .ok [] ∧ ¬GeneratedOnce [] "[System.Int32]" d := by
  intro m d
  refine ⟨by decide +kernel, by decide +kernel, by decide +kernel, by decide +kernel,
    by decide +kernel, by decide +kernel, ?_, ?_⟩
  · have hnone : definitions m = [] := by decide +kernel
    rw [ofDescription, hnone]
    rfl
  · rintro ⟨t, -, ht⟩
    cases ht

end DataType

end ApiProxy
