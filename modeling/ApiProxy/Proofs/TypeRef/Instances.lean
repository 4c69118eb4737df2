import ApiProxy.Proofs.TypeRef.DisplayName
import ApiProxy.Proofs.TypeRef.Instantiation
import ApiProxy.Proofs.TypeRef.RoundTrip

/-!
# Instances of generic definitions

When the placeholders of a type are replaced by descriptors, the result is again a type that a
descriptor can denote: what takes the place of a placeholder is read from a descriptor, and the mark
that it may take over can stand behind every name. So an instance can be printed and read again.

A name with a namespace is no placeholder. Arguments therefore reach only the brackets of a type
that has a namespace, and neither its namespace nor the part of its display name in front of the
brackets depends on them.

## Main definitions

* `TypeRef.SameStem`: two texts agree up to an opening bracket.

## Main results

* `TypeRef.WellFormed.instantiate`: an instance with descriptors as arguments is well-formed.
* `TypeRef.namespace?_instantiate`, `TypeRef.sameStem_instantiate`: what instances of a type with a
  namespace have in common.
-/

namespace ApiProxy

open Text

namespace TypeRef

variable {arguments : List String} {argument : String}

/-! ### Instances are well-formed -/

theorem IsName.append_mark {n : List Char} (h : IsName n) : IsName (n ++ ['?']) := by
  obtain ⟨hne, htrim, hplain⟩ := h
  refine ⟨by simp, trimBlank_eq_self (fun c hc => ?_) (fun c hc => ?_), fun c hc => ?_⟩
  · rw [List.head?_append_of_ne_nil _ hne, ← htrim] at hc
    exact head_trimBlank n c hc
  · rw [List.getLast?_concat] at hc
    obtain rfl := Option.some.inj hc
    decide
  · rcases List.mem_append.1 hc with hc | hc
    · exact hplain c hc
    · obtain rfl := List.mem_singleton.1 hc
      decide

/-- A well-formed type may get a mark, and keep the one that it has. -/
theorem WellFormed.withMark {nullable : Bool} :
    {t : TypeRef} → t.WellFormed → (t.isNullable = true → nullable = true) →
      (t.withMark nullable).WellFormed
  | simple name true, h, hmark => by
    obtain rfl := hmark rfl
    exact h
  | simple name false, ⟨hname, hlast⟩, _ => by
    cases nullable with
    | false => exact ⟨hname, hlast⟩
    | true =>
      rw [mark, if_neg Bool.false_ne_true, String.toList_empty, List.append_nil] at hname
      exact ⟨hname.append_mark, nofun⟩
  | array .., h, _ | dictionary .., h, _ | generic .., h, _ => h

theorem wellFormed_ofArgument (h : IsDescriptor argument) (nullable : Bool) :
    (ofArgument argument nullable).WellFormed := by
  rw [ofArgument_eq_withMark]
  exact h.denotes.wellFormed.withMark fun hown => by rw [hown, Bool.true_or]

mutual

/-- A well-formed type stays well-formed when its placeholders are replaced by descriptors. -/
theorem WellFormed.instantiate (harguments : ∀ argument ∈ arguments, IsDescriptor argument) :
    {t : TypeRef} → t.WellFormed → (t.instantiate arguments).WellFormed
  | simple name nullable, h => by
    rw [TypeRef.instantiate]
    split
    · next argument hargument =>
      obtain ⟨i, -, hi⟩ := Option.bind_eq_some_iff.1 hargument
      exact wellFormed_ofArgument (harguments _ (List.mem_of_getElem? hi)) nullable
    · exact h
  | array element _, h => WellFormed.instantiate (t := element) harguments h
  | dictionary .., ⟨hkey, hvalue⟩ => ⟨hkey.instantiate harguments, hvalue.instantiate harguments⟩
  | generic _ [] _, ⟨_, hne, _⟩ => absurd rfl hne
  | generic _ (_ :: _) _, ⟨hname, _, hargs⟩ =>
    ⟨hname, List.cons_ne_nil _ _, hargs.instantiateArgs harguments⟩

theorem AllWellFormed.instantiateArgs
    (harguments : ∀ argument ∈ arguments, IsDescriptor argument) :
    {ts : List TypeRef} → AllWellFormed ts → AllWellFormed (instantiateArgs arguments ts)
  | [], _ => trivial
  | _ :: _, ⟨ht, hts⟩ => ⟨ht.instantiate harguments, hts.instantiateArgs harguments⟩

end

/-- The text of an instance of a descriptor is a descriptor of this instance. -/
theorem ofDescriptor_text_instantiate (harguments : ∀ argument ∈ arguments, IsDescriptor argument)
    {key : String} (hkey : IsDescriptor key) :
    ofDescriptor ((ofDescriptor key).instantiate arguments).text =
      (ofDescriptor key).instantiate arguments :=
  (hkey.denotes.wellFormed.instantiate harguments).denotes_text.ofDescriptor_eq

/-! ### Instances of types with a namespace -/

theorem not_isPlaceholder_of_qualifier? {name : String} (h : (qualifier? name).isSome = true)
    (i : Nat) : ¬IsPlaceholder name i := by
  rintro ⟨digits, -, hdigits, htext, -⟩
  have hdot : '.' ∉ name.toList := by
    rw [htext, List.mem_cons, not_or]
    exact ⟨by decide, fun hdot => absurd (hdigits _ hdot) (by decide)⟩
  rw [qualifier?_eq_none_iff.2 hdot] at h
  cases h

/-- A plain name with a namespace stays. -/
theorem instantiate_of_qualifier? {name : String} (h : (qualifier? name).isSome = true)
    (arguments : List String) (nullable : Bool) :
    (simple name nullable).instantiate arguments = simple name nullable := by
  refine instantiate_simple ?_
  rintro argument ⟨_, _, i, hsimple, hname, -⟩
  obtain rfl := (TypeRef.simple.inj hsimple).1
  exact not_isPlaceholder_of_qualifier? h i hname

/-- Instances of a type with a namespace have the same namespace. -/
theorem namespace?_instantiate (arguments : List String) :
    (t : TypeRef) → t.namespace?.isSome = true →
      (t.instantiate arguments).namespace? = t.namespace?
  | simple _ nullable, h => by rw [instantiate_of_qualifier? h arguments nullable]
  | array element _, h => namespace?_instantiate arguments element h
  | generic .., _ => rfl
  | dictionary .., h => nomatch h

/-- Two texts agree, or they agree up to an opening bracket. -/
inductive SameStem : String → String → Prop
  | refl (s : String) : SameStem s s
  | bracket (front back back' : String) : SameStem (front ++ "<" ++ back) (front ++ "<" ++ back')

theorem SameStem.append {s s' : String} (h : SameStem s s') (tail : String) :
    SameStem (s ++ tail) (s' ++ tail) := by
  cases h with
  | refl => exact .refl _
  | bracket front back back' =>
    have htails := bracket front (back ++ tail) (back' ++ tail)
    rwa [← String.append_assoc, ← String.append_assoc] at htails

theorem SameStem.takeWhile_eq {s s' : String} (h : SameStem s s') :
    s.toList.takeWhile (· != '<') = s'.toList.takeWhile (· != '<') := by
  cases h with
  | refl => rfl
  | bracket front back back' =>
    have hfront (tail : String) : (front ++ "<" ++ tail).toList.takeWhile (· != '<') =
        front.toList.takeWhile (· != '<') := by
      rw [String.append_assoc, String.toList_append, List.takeWhile_append]
      split
      · next hlength =>
        rw [(List.takeWhile_prefix _).eq_of_length hlength, String.toList_append]
        exact List.append_nil _
      · rfl
    rw [hfront, hfront]

/-- The display names of instances of a type with a namespace agree up to an opening bracket. -/
theorem sameStem_instantiate (keywords : Bool) (arguments : List String) :
    (t : TypeRef) → t.namespace?.isSome = true →
      SameStem ((t.instantiate arguments).displayWith keywords) (t.displayWith keywords)
  | simple _ nullable, h => by
    rw [instantiate_of_qualifier? h arguments nullable]
    exact .refl _
  | array element nullable, h => by
    rw [instantiate, displayWith, displayWith]
    exact ((sameStem_instantiate keywords arguments element h).append "[]").append (mark nullable)
  | generic name args nullable, _ => by
    rw [instantiate, displayWith, displayWith]
    exact ((SameStem.bracket (lastSegment name) _ _).append ">").append (mark nullable)
  | dictionary .., h => nomatch h

end TypeRef

end ApiProxy
