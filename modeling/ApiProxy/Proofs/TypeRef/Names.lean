import ApiProxy.TypeRef.DisplayName

/-!
# The names within a type

A type depends on the namespaces of all names that occur in it, however deep they stand: the names
of arrays' elements, of the keys and values of dictionaries, of generic types and of their
arguments. Blank namespaces do not count.

## Main definitions

* `TypeRef.Within`: a type occurs in a type.
* `TypeRef.DependsOn`: the namespaces of the names in a type.

## Main results

* `TypeRef.mem_qualifiers`: collecting the qualifiers of a type finds those of the types within it.
* `TypeRef.mem_imports`: a type imports what it depends on.
-/

namespace ApiProxy

open Text

namespace TypeRef

/-- A type occurs in a type: it is that type or occurs in one of its parts. -/
inductive Within : TypeRef → TypeRef → Prop
  | refl (t : TypeRef) : Within t t
  | element {u t : TypeRef} {nullable : Bool} (h : Within u t) : Within u (.array t nullable)
  | key {u k v : TypeRef} {nullable : Bool} (h : Within u k) :
      Within u (.dictionary k v nullable)
  | value {u k v : TypeRef} {nullable : Bool} (h : Within u v) :
      Within u (.dictionary k v nullable)
  | arg {u t : TypeRef} {name : String} {args : List TypeRef} {nullable : Bool} (ht : t ∈ args)
      (h : Within u t) : Within u (.generic name args nullable)

section Within

variable {u t k v : TypeRef} {name : String} {args : List TypeRef} {nullable : Bool}

theorem within_simple : u.Within (.simple name nullable) ↔ u = .simple name nullable := by
  constructor
  · rintro ⟨⟩
    rfl
  · rintro rfl
    exact .refl _

theorem within_array : u.Within (.array t nullable) ↔ u = .array t nullable ∨ u.Within t := by
  constructor
  · rintro (_ | h)
    · exact .inl rfl
    · exact .inr h
  · rintro (rfl | h)
    · exact .refl _
    · exact .element h

theorem within_dictionary : u.Within (.dictionary k v nullable) ↔
    u = .dictionary k v nullable ∨ u.Within k ∨ u.Within v := by
  constructor
  · rintro (_ | _ | h | h)
    · exact .inl rfl
    · exact .inr (.inl h)
    · exact .inr (.inr h)
  · rintro (rfl | h | h)
    · exact .refl _
    · exact .key h
    · exact .value h

theorem within_generic : u.Within (.generic name args nullable) ↔
    u = .generic name args nullable ∨ ∃ t ∈ args, u.Within t := by
  constructor
  · intro h
    cases h with
    | refl => exact .inl rfl
    | arg ht h => exact .inr ⟨_, ht, h⟩
  · rintro (rfl | ⟨t, ht, h⟩)
    · exact .refl _
    · exact .arg ht h

end Within

/-- The namespace of the name that a type itself has: arrays and dictionaries have none. -/
def ownNamespace? : TypeRef → Option String
  | simple name _ | generic name _ _ => qualifier? name
  | array .. | dictionary .. => none

/-- A type depends on the namespaces of the names within it, if they are not blank. -/
def DependsOn (t : TypeRef) (n : String) : Prop :=
  allBlank n = false ∧ ∃ u : TypeRef, u.Within t ∧ u.ownNamespace? = some n

mutual

/-- The qualifiers of a type are the namespaces of the names within it. -/
theorem mem_qualifiers {n : String} : ∀ t : TypeRef,
    n ∈ t.qualifiers ↔ ∃ u : TypeRef, u.Within t ∧ u.ownNamespace? = some n
  | .simple name nullable => by
    simp [qualifiers, within_simple, ownNamespace?]
  | .array element nullable => by
    simp [qualifiers, within_array, ownNamespace?, or_and_right, exists_or,
      mem_qualifiers element]
  | .dictionary key value nullable => by
    simp [qualifiers, within_dictionary, ownNamespace?, or_and_right, exists_or,
      mem_qualifiers key, mem_qualifiers value]
  | .generic name args nullable => by
    simp only [qualifiers, within_generic, or_and_right, exists_or, exists_eq_left,
      ownNamespace?, List.mem_append, Option.mem_toList, mem_qualifiersOfArgs args]
    exact or_congr_right ⟨fun ⟨t, ht, u, hu, hn⟩ => ⟨u, ⟨t, ht, hu⟩, hn⟩,
      fun ⟨u, ⟨t, ht, hu⟩, hn⟩ => ⟨t, ht, u, hu, hn⟩⟩

/-- The qualifiers of types are the namespaces of the names within one of them. -/
theorem mem_qualifiersOfArgs {n : String} : ∀ ts : List TypeRef,
    n ∈ qualifiersOfArgs ts ↔ ∃ t ∈ ts, ∃ u : TypeRef, u.Within t ∧ u.ownNamespace? = some n
  | [] => by simp [qualifiersOfArgs]
  | t :: ts => by
    simp only [qualifiersOfArgs, List.mem_append, List.mem_cons, or_and_right, exists_or,
      exists_eq_left, mem_qualifiers t, mem_qualifiersOfArgs ts]

end

/-- A type imports the namespaces that it depends on. -/
theorem mem_imports {t : TypeRef} {n : String} : n ∈ t.imports ↔ t.DependsOn n := by
  rw [imports, ImportSet.mem_ofList, mem_qualifiers, DependsOn, and_comm]

end TypeRef

end ApiProxy
