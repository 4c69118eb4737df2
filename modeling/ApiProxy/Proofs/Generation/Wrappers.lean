import ApiProxy.Proofs.Generation.Selection
import ApiProxy.Proofs.Text.Affix
import ApiProxy.Proofs.TypeRef.BuiltIn
import ApiProxy.Proofs.TypeRef.RoundTrip

/-!
# Wrappers among the data types

A wrapper is a well-formed instantiation of a generic type of the framework. A selected wrapper
with one argument stands for this argument, and one with several for nothing. What it stands for is
not looked at again, so the argument of a selected wrapper is kept if it is a wrapper itself, with
any number of arguments. Apart from that a wrapper is kept only if blanks stand in front of its
name, which only a controller in the empty namespace selects.

## Main definitions

* `DataType.IsWrapper`: a name is that of a wrapper.
* `DataType.Unwraps`: a name is recognized as a wrapper with the given arguments.
* `DataType.IsLeftWrapped`: how a wrapper can be kept.

## Main results

* `DataType.payload?_eq_some_iff`: what a selected name stands for.
* `DataType.mem_keys_iff`: the selected names, those that wrappers stand for and all others.
* `DataType.unwrapped_once`: which wrappers are kept and generated.
-/

namespace ApiProxy

open Text

namespace TypeRef

/-! ### Blanks in front of namespaces -/

variable {ns : String}

theorem not_beginsBlank_qualifier? {name : String} (rest : String)
    (hns : qualifier? name = some ns) (h : ¬BeginsBlank (name ++ rest)) : ¬BeginsBlank ns := by
  rw [eq_append_of_qualifier?_eq_some hns, String.append_assoc, String.append_assoc] at h
  exact fun hblank => h (hblank.append _)

theorem WellFormed.not_beginsBlank_of_namespace? :
    (t : TypeRef) → t.WellFormed → t.namespace? = some ns → ¬BeginsBlank ns
  | simple name nullable, ⟨hname, _⟩, hns =>
    not_beginsBlank_qualifier? (mark nullable) hns
      (not_beginsBlank_of_trimBlank (by rw [String.toList_append]; exact hname.2.1))
  | array element _, helement, hns => WellFormed.not_beginsBlank_of_namespace? element helement hns
  | generic name args _, ⟨hname, _⟩, hns =>
    not_beginsBlank_qualifier? "" hns
      (by rw [String.append_empty]; exact not_beginsBlank_of_trimBlank hname.2.1)

theorem not_beginsBlank_of_namespaceOf? {d : String} (hns : namespaceOf? d = some ns) :
    ¬BeginsBlank ns := by
  by_cases hd : IsDescriptor d
  · exact WellFormed.not_beginsBlank_of_namespace? _ hd.denotes.wellFormed hns
  · obtain ⟨name, nullable, hplain⟩ := exists_ofDescriptor_eq_simple hd
    rw [namespaceOf?, hplain] at hns
    refine not_beginsBlank_qualifier? (mark nullable) hns ?_
    rw [append_mark_eq_trim hplain]
    refine not_beginsBlank_of_trimBlank ?_
    rw [trim, String.toList_ofList, trimBlank_trimBlank]

/-- Text that is read as an instantiation is a descriptor of it. -/
theorem denotes_of_ofDescriptor_eq_generic {d name : String} {args : List TypeRef}
    {nullable : Bool} (h : ofDescriptor d = generic name args nullable) :
    Denotes d.toList (generic name args nullable) := by
  by_cases hd : IsDescriptor d
  · rw [← h]
    exact hd.denotes
  · obtain ⟨_, _, hplain⟩ := exists_ofDescriptor_eq_simple hd
    rw [h] at hplain
    cases hplain

/-- The text of an instantiation: blanks, the name of the generic type, and something that begins
with a blank or with the bracket. -/
theorem exists_eq_append_of_denotes_generic {s : List Char} {name : String} {args : List TypeRef}
    {nullable : Bool} (h : Denotes s (generic name args nullable)) :
    ∃ ws rest, (∀ c ∈ ws, isBlank c) ∧ s = ws ++ (name.toList ++ rest) ∧ '<' ∈ rest ∧
      ∀ c ∈ rest.head?, isBlank c = true ∨ c = '<' := by
  obtain ⟨r, hderives, -⟩ := h
  cases hderives with
  | generic hname hfirst hargs hmark =>
    obtain ⟨ws, vs, hws, hvs, htext⟩ := hname.exists_eq_append
    refine ⟨ws, _, hws, by rw [htext, String.toList_ofList], by simp, fun c hc => ?_⟩
    cases vs with
    | nil => exact .inr (Option.some.inj hc).symm
    | cons v vs =>
      obtain rfl := Option.some.inj hc
      exact .inl (hvs v List.mem_cons_self)

end TypeRef

/-- A description of one controller and of types without members. -/
def ApiDescription.ofNames (controllerType : String) (names : List String) : ApiDescription :=
  let c : Controller := ⟨"Any", none, true, false, none, controllerType, [], .empty⟩
  ⟨.ofList [("app", ⟨"app", "Default", .ofList [("any", c)]⟩)],
    .ofList (names.map fun name => (name, ⟨none, false, none, none, none, none⟩))⟩

namespace DataType

/-! ### Recognizing wrappers -/

/-- The arguments of an instantiation of a generic type of the framework. -/
def wrapperArgs? : TypeRef → Option (List TypeRef)
  | .generic name args _ => if startsWith wrapperStart name then some args else none
  | _ => none

/-- A name is that of a wrapper: it is read as an instantiation of a generic type of the
framework. -/
def IsWrapper (key : String) : Prop :=
  (wrapperArgs? (.ofDescriptor key)).isSome = true

instance (key : String) : Decidable (IsWrapper key) :=
  inferInstanceAs (Decidable (_ = _))

/-- A name is recognized as a wrapper with the given arguments, which fails for blanks in front. -/
def Unwraps (key : String) (args : List TypeRef) : Prop :=
  wrapperArgs? (.ofDescriptor key) = some args ∧ ¬BeginsBlank key

instance (key : String) (args : List TypeRef) : Decidable (Unwraps key args) :=
  inferInstanceAs (Decidable (_ ∧ _))

variable {key payload : String} {args : List TypeRef}

theorem wrapperArgs?_eq_some_iff {t : TypeRef} :
    wrapperArgs? t = some args ↔
      ∃ name nullable, t = .generic name args nullable ∧ startsWith wrapperStart name = true := by
  cases t with
  | generic name args' nullable => simp [wrapperArgs?, and_comm]
  | simple | array | dictionary => simp [wrapperArgs?]

theorem Unwraps.unique {args' : List TypeRef} (h : Unwraps key args) (h' : Unwraps key args') :
    args = args' :=
  Option.some.inj (h.1.symm.trans h'.1)

theorem not_beginsBlank_of_startsWith_wrapperStart (h : startsWith wrapperStart key = true) :
    ¬BeginsBlank key := by
  rw [beginsBlank_iff_of_startsWith (by decide) h]
  decide

/-- An instantiation is taken for a wrapper if and only if its generic type is one of the framework
and no blanks stand in front of it. -/
theorem looksWrapped_iff {name : String} {nullable : Bool}
    (h : TypeRef.ofDescriptor key = .generic name args nullable) :
    looksWrapped key = true ↔ Unwraps key args := by
  obtain ⟨ws, rest, hws, htext, hrest, hhead⟩ :=
    TypeRef.exists_eq_append_of_denotes_generic (TypeRef.denotes_of_ofDescriptor_eq_generic h)
  have hbracket : contains "<" key = true := by
    rw [contains, htext]
    exact hasInfix_singleton.2 (List.mem_append_right _ (List.mem_append_right _ hrest))
  have hargs : wrapperArgs? (.ofDescriptor key) = some args ↔ startsWith wrapperStart name = true :=
    by simp [h, wrapperArgs?]
  rw [looksWrapped, hbracket, Bool.and_true, Unwraps, hargs]
  cases ws with
  | nil =>
    rw [List.nil_append] at htext
    constructor
    · intro hstart
      refine ⟨?_, not_beginsBlank_of_startsWith_wrapperStart hstart⟩
      rw [startsWith_iff, htext] at hstart
      -- what stands behind the name is in no start of a wrapper
      refine startsWith_iff.2 (prefix_of_prefix_append hstart fun c hc hmem => ?_)
      have hsolid : ∀ c ∈ wrapperStart.toList, ¬(isBlank c = true ∨ c = '<') :=
        List.all_iff_forall_prop.1 (by decide)
      exact hsolid c hmem (hhead c hc)
    · rintro ⟨hstart, -⟩
      rw [startsWith_iff, htext]
      exact (startsWith_iff.1 hstart).trans (List.prefix_append _ _)
  | cons c ws =>
    have hblank : BeginsBlank key := by
      rw [BeginsBlank, htext]
      exact hws c List.mem_cons_self
    exact iff_of_false (fun hstart => not_beginsBlank_of_startsWith_wrapperStart hstart hblank)
      fun h => h.2 hblank

theorem Unwraps.isWrapper_text_iff {arg : TypeRef} (h : Unwraps key [arg]) :
    IsWrapper arg.text ↔ (wrapperArgs? arg).isSome = true := by
  obtain ⟨name, nullable, hgeneric, -⟩ := wrapperArgs?_eq_some_iff.1 h.1
  obtain ⟨-, -, harg, -⟩ := (TypeRef.denotes_of_ofDescriptor_eq_generic hgeneric).wellFormed
  rw [IsWrapper, harg.denotes_text.ofDescriptor_eq]

/-! ### What a name stands for -/

theorem looksWrapped_of_unwraps (h : Unwraps key args) : looksWrapped key = true := by
  obtain ⟨name, nullable, hgeneric, -⟩ := wrapperArgs?_eq_some_iff.1 h.1
  exact (looksWrapped_iff hgeneric).2 h

theorem payload?_of_unwraps (h : Unwraps key args) :
    payload? key = some payload ↔ ∃ arg, args = [arg] ∧ arg.text = payload := by
  obtain ⟨name, nullable, hgeneric, -⟩ := wrapperArgs?_eq_some_iff.1 h.1
  rw [payload?, if_pos (looksWrapped_of_unwraps h), hgeneric]
  match args with
  | [] => simp
  | [arg] => simp
  | _ :: _ :: _ => simp

theorem payload?_of_not_unwraps (h : ∀ args, ¬Unwraps key args) : payload? key = some key := by
  rw [payload?]
  split
  · next hlooks =>
    split
    · next hgeneric => exact absurd ((looksWrapped_iff hgeneric).1 hlooks) (h _)
    · next hgeneric => exact absurd ((looksWrapped_iff hgeneric).1 hlooks) (h _)
    · rfl
  · rfl

/-- What a selected name stands for: a wrapper for its only argument, and any other name for
itself. -/
theorem payload?_eq_some_iff :
    payload? key = some payload ↔
      (∃ arg, Unwraps key [arg] ∧ arg.text = payload) ∨
        key = payload ∧ ∀ args, ¬Unwraps key args := by
  by_cases hwraps : ∃ args, Unwraps key args
  · obtain ⟨args, hkey⟩ := hwraps
    rw [payload?_of_unwraps hkey, or_iff_left fun h => h.2 args hkey]
    refine exists_congr fun arg => and_congr_left fun _ => ⟨?_, hkey.unique⟩
    rintro rfl
    exact hkey
  · have hnone := not_exists.1 hwraps
    rw [payload?_of_not_unwraps hnone, Option.some_inj,
      or_iff_right fun ⟨_, harg, _⟩ => hnone _ harg, and_iff_left hnone]

/-! ### The selected names -/

variable {m : ApiDescription}

theorem mem_selectedNames :
    key ∈ selectedNames m ↔
      key ∈ m.types.names ∧ ∃ ns ∈ controllerNamespaces m, startsWith ns key = true := by
  rw [selectedNames, List.mem_filter, List.any_eq_true]

/-- The names to generate: those that selected wrappers stand for, and those that are selected and
not recognized as wrappers, but for the system types. -/
theorem mem_keys_iff :
    key ∈ keys m ↔ isSystem key = false ∧
      ((∃ outer ∈ selectedNames m, ∃ arg, Unwraps outer [arg] ∧ arg.text = key) ∨
        key ∈ selectedNames m ∧ ∀ args, ¬Unwraps key args) := by
  rw [keys, mem_foldl_addNamespace, or_iff_right List.not_mem_nil, List.mem_filter,
    List.mem_filterMap, Bool.not_eq_true', and_comm]
  refine and_congr_right fun _ => ?_
  constructor
  · rintro ⟨name, hname, hpayload⟩
    rcases payload?_eq_some_iff.1 hpayload with hwraps | ⟨rfl, hnone⟩
    · exact .inl ⟨name, hname, hwraps⟩
    · exact .inr ⟨hname, hnone⟩
  · rintro (⟨outer, houter, hwraps⟩ | ⟨hkey, hnone⟩)
    · exact ⟨outer, houter, payload?_eq_some_iff.2 (.inl hwraps)⟩
    · exact ⟨key, hkey, payload?_eq_some_iff.2 (.inr ⟨rfl, hnone⟩)⟩

theorem mem_selectedNames_of_beginsBlank (h : BeginsBlank key) :
    key ∈ selectedNames m ↔ key ∈ m.types.names ∧ "" ∈ controllerNamespaces m := by
  rw [mem_selectedNames]
  refine and_congr_right fun _ => ⟨?_, fun hns => ⟨"", hns, startsWith_iff.2 List.nil_prefix⟩⟩
  rintro ⟨ns, hns, hstart⟩
  by_cases hempty : ns = ""
  · rwa [← hempty]
  · obtain ⟨c, -, hc⟩ := List.mem_filterMap.1 hns
    exact absurd ((beginsBlank_iff_of_startsWith hempty hstart).1 h)
      (TypeRef.not_beginsBlank_of_namespaceOf? hc)

/-- The generated data types are those of the names to generate that are defined and have a
namespace. -/
theorem mem_map_key_iff {types : List DataType} (h : ofDescription m = .ok types) :
    key ∈ types.map (·.key) ↔
      key ∈ keys m ∧ (m.types.get? key).isSome = true ∧ (namespaceOf? key).isSome = true := by
  rw [map_eq_of_mapM_eq_ok (g := Prod.fst) h fun e _ _ => key_of_ofDefinition, List.mem_map]
  constructor
  · rintro ⟨e, he, rfl⟩
    obtain ⟨hkey, hd, hns⟩ := mem_definitions.1 he
    exact ⟨hkey, by rw [hd]; rfl, hns⟩
  · rintro ⟨hkey, hd, hns⟩
    obtain ⟨d, hd⟩ := Option.isSome_iff_exists.1 hd
    exact ⟨(key, d), mem_definitions.2 ⟨hkey, hd, hns⟩, rfl⟩

/-! ### Wrappers that are kept -/

section Wrapper

variable (h : IsWrapper key)

include h

theorem IsWrapper.exists_unwraps (hblank : ¬BeginsBlank key) : ∃ args, Unwraps key args := by
  obtain ⟨args, hargs⟩ := Option.isSome_iff_exists.1 h
  exact ⟨args, hargs, hblank⟩

theorem IsWrapper.isSome_namespaceOf? : (namespaceOf? key).isSome = true := by
  obtain ⟨args, hargs⟩ := Option.isSome_iff_exists.1 h
  obtain ⟨name, nullable, hgeneric, hstart⟩ := wrapperArgs?_eq_some_iff.1 hargs
  rw [Option.isSome_iff_ne_none, namespaceOf?, hgeneric, TypeRef.namespace?, Ne,
    qualifier?_eq_none_iff, not_not]
  exact (startsWith_iff.1 hstart).subset (by decide)

/-- No wrapper is a system type. -/
theorem IsWrapper.isSystem_eq_false : isSystem key = false := by
  refine List.any_eq_false.2 fun start hstart hkey => ?_
  have hne : start ≠ "" := by
    rintro rfl
    exact absurd hstart (by decide)
  by_cases hblank : BeginsBlank key
  · have hsolid : ∀ start ∈ systemStarts, ¬BeginsBlank start := by decide
    exact hsolid start hstart ((beginsBlank_iff_of_startsWith hne hkey).1 hblank)
  · obtain ⟨args, hargs⟩ := h.exists_unwraps hblank
    have hlooks := looksWrapped_of_unwraps hargs
    rw [looksWrapped, Bool.and_eq_true, startsWith_iff] at hlooks
    have hapart : ∀ start ∈ systemStarts,
        ¬start.toList <+: wrapperStart.toList ∧ ¬wrapperStart.toList <+: start.toList := by decide
    rcases List.prefix_or_prefix_of_prefix (startsWith_iff.1 hkey) hlooks.1 with h | h
    · exact (hapart start hstart).1 h
    · exact (hapart start hstart).2 h

end Wrapper

/-- A wrapper that is kept: it is the argument of a selected wrapper, or blanks stand in front of
it and a controller is in the empty namespace. -/
def IsLeftWrapped (m : ApiDescription) (key : String) : Prop :=
  (∃ outer ∈ selectedNames m, ∃ arg, Unwraps outer [arg] ∧ arg.text = key) ∨
    BeginsBlank key ∧ key ∈ m.types.names ∧ "" ∈ controllerNamespaces m

theorem IsWrapper.mem_keys_iff_isLeftWrapped (h : IsWrapper key) :
    key ∈ keys m ↔ IsLeftWrapped m key := by
  rw [mem_keys_iff, and_iff_right h.isSystem_eq_false, IsLeftWrapped]
  refine or_congr_right ?_
  by_cases hblank : BeginsBlank key
  · rw [and_iff_right hblank, mem_selectedNames_of_beginsBlank hblank]
    exact and_iff_left fun _ hargs => hargs.2 hblank
  · obtain ⟨args, hargs⟩ := h.exists_unwraps hblank
    exact iff_of_false (fun hkey => hkey.2 args hargs) fun hkey => hblank hkey.1

theorem IsWrapper.mem_map_key_iff_isLeftWrapped {types : List DataType} (h : IsWrapper key)
    (htypes : ofDescription m = .ok types) :
    key ∈ types.map (·.key) ↔ IsLeftWrapped m key ∧ (m.types.get? key).isSome = true := by
  rw [mem_map_key_iff htypes, h.mem_keys_iff_isLeftWrapped, and_iff_left h.isSome_namespaceOf?]

/-- No wrapper is kept if and only if no selected wrapper has one as its argument and, with a
controller in the empty namespace, blanks stand in front of none. -/
theorem forall_keys_not_isWrapper_iff :
    (∀ key ∈ keys m, ¬IsWrapper key) ↔
      (∀ outer ∈ selectedNames m, ∀ arg, Unwraps outer [arg] → wrapperArgs? arg = none) ∧
        ("" ∈ controllerNamespaces m → ∀ key ∈ m.types.names, IsWrapper key →
          ¬BeginsBlank key) := by
  have hkept : (∀ key ∈ keys m, ¬IsWrapper key) ↔ ∀ key, IsWrapper key → ¬IsLeftWrapped m key :=
    forall_congr' fun key =>
      ⟨fun h hkey hleft => h (hkey.mem_keys_iff_isLeftWrapped.2 hleft) hkey,
        fun h hmem hkey => h hkey (hkey.mem_keys_iff_isLeftWrapped.1 hmem)⟩
  rw [hkept]
  constructor
  · intro h
    refine ⟨fun outer houter arg harg => ?_, fun hns key hkey hwrapper hblank => ?_⟩
    · rw [← Option.not_isSome_iff_eq_none, ← harg.isWrapper_text_iff]
      exact fun hwrapper => h arg.text hwrapper (.inl ⟨outer, houter, arg, harg, rfl⟩)
    · exact h key hwrapper (.inr ⟨hblank, hkey, hns⟩)
  · rintro ⟨hnested, hblanks⟩ key hwrapper (⟨outer, houter, arg, harg, rfl⟩ | ⟨hblank, hkey, hns⟩)
    · have hnone := hnested outer houter arg harg
      rw [harg.isWrapper_text_iff, hnone] at hwrapper
      cases hwrapper
    · exact hblanks hns key hkey hwrapper hblank

/-- **Wrappers are replaced once.** The names to generate are the arguments of the selected wrappers
that have one, and the selected names that are not recognized as wrappers, but for system types.
So a wrapper is kept exactly if it is the argument of a selected one, or if blanks stand in front of
it and a controller is in the empty namespace; if it is defined as well, it is generated. -/
theorem unwrapped_once (m : ApiDescription) : ∃ types, ofDescription m = .ok types ∧
    (∀ key, key ∈ keys m ↔ isSystem key = false ∧
      ((∃ outer ∈ selectedNames m, ∃ arg, Unwraps outer [arg] ∧ arg.text = key) ∨
        key ∈ selectedNames m ∧ ∀ args, ¬Unwraps key args)) ∧
    (∀ key, IsWrapper key → (key ∈ keys m ↔ IsLeftWrapped m key) ∧
      (key ∈ types.map (·.key) ↔ IsLeftWrapped m key ∧ (m.types.get? key).isSome = true)) ∧
    ((∀ key ∈ keys m, ¬IsWrapper key) ↔
      (∀ outer ∈ selectedNames m, ∀ arg, Unwraps outer [arg] → wrapperArgs? arg = none) ∧
        ("" ∈ controllerNamespaces m → ∀ key ∈ m.types.names, IsWrapper key →
          ¬BeginsBlank key)) := by
  obtain ⟨types, htypes⟩ := m.exists_ofDescription_eq_ok
  exact ⟨types, htypes, fun _ => mem_keys_iff, fun _ hkey =>
    ⟨hkey.mem_keys_iff_isLeftWrapped, hkey.mem_map_key_iff_isLeftWrapped htypes⟩,
    forall_keys_not_isWrapper_iff⟩

/-- Of a wrapper around a wrapper the inner one is left, also if it has several arguments. -/
theorem unwrapped_once_nested :
    let inner := "Volo.Abp.Application.Dtos.Pair<Acme.A,Acme.B>"
    let m := ApiDescription.ofNames "Volo.Abp.Application.Dtos.PairController"
      [inner, "Volo.Abp.Application.Dtos.ListResultDto<" ++ inner ++ ">"]
    IsWrapper inner ∧ keys m = [inner] ∧
      ∃ types, ofDescription m = .ok types ∧ inner ∈ types.map (·.key) := by
  intro inner m
  have hwrapper : IsWrapper inner := by decide +kernel
  have hkeys : keys m = [inner] := by decide +kernel
  obtain ⟨types, htypes, -, hkept, -⟩ := unwrapped_once m
  obtain ⟨hmem, hgenerated⟩ := hkept inner hwrapper
  refine ⟨hwrapper, hkeys, types, htypes, hgenerated.2 ⟨hmem.1 ?_, by decide +kernel⟩⟩
  rw [hkeys]
  exact List.mem_singleton_self inner

end DataType

end ApiProxy
