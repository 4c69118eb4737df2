import ApiProxy.TypeRef.Placeholder

/-!
# What the replacement of placeholders keeps

An address leads from a type down to one of the types that it is made of. At every address where
no placeholder has an argument, the kind, the name and the mark stay when placeholders are
replaced. Where a placeholder has one, the type of the argument stands afterwards, and nothing of
the argument is replaced again.

The mark of the placeholder goes over to a plain name only. An array, a dictionary or an
instantiation that takes the place of a placeholder comes with its own mark, so a nullable
placeholder becomes a type that is not nullable.

## Main definitions

* `TypeRef.at?`: the type at an address.
* `TypeRef.TakesArgument`: a type is a placeholder that has an argument.
* `TypeRef.KeepsMarks`: what takes the place of a nullable placeholder is nullable.

## Main results

* `TypeRef.at?_instantiate`: replacing placeholders commutes with going to an address.
* `TypeRef.instantiate_nodes`: what stands at the addresses of a type after its placeholders were
  replaced, and when marks are kept.
-/

namespace ApiProxy

namespace TypeRef

/-! ### Addresses -/

/-- The types that a type is directly made of, from left to right. -/
def parts : TypeRef → List TypeRef
  | simple .. => []
  | array element _ => [element]
  | dictionary key value _ => [key, value]
  | generic _ args _ => args

/-- The type at an address, which says for every level the part to go to. -/
def at? (t : TypeRef) : List Nat → Option TypeRef
  | [] => some t
  | i :: address => t.parts[i]?.bind (·.at? address)

theorem at?_cons_eq_some_iff {t u : TypeRef} {i : Nat} {address : List Nat} :
    t.at? (i :: address) = some u ↔ ∃ part, t.parts[i]? = some part ∧ part.at? address = some u :=
  Option.bind_eq_some_iff

/-- The ways in which a type is made of others. -/
inductive Kind where
  | plain
  | array
  | dictionary
  | generic
deriving DecidableEq

/-- The way in which a type is made of others. -/
def kind : TypeRef → Kind
  | simple .. => .plain
  | array .. => .array
  | dictionary .. => .dictionary
  | generic .. => .generic

/-- The name that a type itself has, if it is no array and no dictionary. -/
def name? : TypeRef → Option String
  | simple name _ | generic name _ _ => some name
  | array .. | dictionary .. => none

/-- A type with another mark. -/
def withMark (nullable : Bool) : TypeRef → TypeRef
  | simple name _ => simple name nullable
  | array element _ => array element nullable
  | dictionary key value _ => dictionary key value nullable
  | generic name args _ => generic name args nullable

@[simp] theorem isNullable_withMark (nullable : Bool) (t : TypeRef) :
    (t.withMark nullable).isNullable = nullable := by
  cases t <;> rfl

/-- Two types agree in everything but their parts. -/
structure Resembles (t u : TypeRef) : Prop where
  kind : t.kind = u.kind
  name : t.name? = u.name?
  mark : t.isNullable = u.isNullable
  parts : t.parts.length = u.parts.length

/-! ### Placeholders -/

/-- A name is the placeholder of a position: `T` and the position in decimal digits. -/
def IsPlaceholder (name : String) (i : Nat) : Prop :=
  ∃ digits : List Char, digits ≠ [] ∧ (∀ c ∈ digits, c.isDigit = true) ∧
    name.toList = 'T' :: digits ∧ decimalValue digits = i

theorem placeholder?_eq_some_iff {name : String} {i : Nat} :
    placeholder? name = some i ↔ IsPlaceholder name i := by
  rw [placeholder?]
  constructor
  · intro h
    split at h
    · next digits htext =>
      obtain ⟨hdigits, hi⟩ := Option.ite_none_right_eq_some.1 h
      rw [Bool.and_eq_true, List.all_eq_true, Bool.not_eq_true', List.isEmpty_eq_false_iff]
        at hdigits
      exact ⟨digits, hdigits.1, hdigits.2, htext, Option.some.inj hi⟩
    · exact nomatch h
  · rintro ⟨digits, hne, hdigits, htext, rfl⟩
    rw [htext]
    refine if_pos ?_
    rw [Bool.and_eq_true, List.all_eq_true, Bool.not_eq_true', List.isEmpty_eq_false_iff]
    exact ⟨hne, hdigits⟩

variable {arguments : List String} {argument : String} {address : List Nat} {t u w : TypeRef}

/-- A type is the placeholder of a position at which an argument stands. -/
def TakesArgument (arguments : List String) (t : TypeRef) (argument : String) : Prop :=
  ∃ name nullable i, t = simple name nullable ∧ IsPlaceholder name i ∧
    arguments[i]? = some argument

/-- What takes the place of a placeholder: the type of the argument, which takes over the mark of
the placeholder if it is a plain name. -/
theorem ofArgument_eq_withMark (argument : String) (nullable : Bool) :
    ofArgument argument nullable = (ofDescriptor argument).withMark
      ((ofDescriptor argument).isNullable ||
        ((ofDescriptor argument).kind == .plain && nullable)) := by
  rw [ofArgument]
  cases ofDescriptor argument with
  | simple name own => rfl
  | array element own => cases own <;> rfl
  | dictionary key value own => cases own <;> rfl
  | generic name args own => cases own <;> rfl

theorem instantiate_of_takesArgument (h : t.TakesArgument arguments argument) :
    t.instantiate arguments = ofArgument argument t.isNullable := by
  obtain ⟨name, nullable, i, rfl, hname, hargument⟩ := h
  rw [instantiate, placeholder?_eq_some_iff.2 hname, Option.bind_some, hargument]
  rfl

theorem instantiateArgs_eq_map (arguments : List String) (ts : List TypeRef) :
    instantiateArgs arguments ts = ts.map (instantiate arguments) := by
  induction ts with
  | nil => rfl
  | cons t ts ih => rw [instantiateArgs, ih, List.map_cons]

/-- A plain name that takes no argument stays. -/
theorem instantiate_simple {name : String} {nullable : Bool}
    (h : ∀ argument, ¬(simple name nullable).TakesArgument arguments argument) :
    (simple name nullable).instantiate arguments = simple name nullable := by
  have hnone : (placeholder? name).bind (arguments[·]?) = none := by
    refine Option.eq_none_iff_forall_ne_some.2 fun argument hargument => ?_
    obtain ⟨i, hname, hargument⟩ := Option.bind_eq_some_iff.1 hargument
    exact h argument ⟨name, nullable, i, rfl, placeholder?_eq_some_iff.1 hname, hargument⟩
  rw [instantiate, hnone]

/-- The parts of a type that takes no argument are replaced one by one. -/
theorem parts_instantiate (h : ∀ argument, ¬t.TakesArgument arguments argument) :
    (t.instantiate arguments).parts = t.parts.map (instantiate arguments) := by
  cases t with
  | simple name nullable =>
    rw [instantiate_simple h]
    rfl
  | array element nullable =>
    rw [instantiate]
    rfl
  | dictionary key value nullable =>
    rw [instantiate]
    rfl
  | generic name args nullable =>
    rw [instantiate]
    exact instantiateArgs_eq_map arguments args

theorem resembles_instantiate (h : ∀ argument, ¬t.TakesArgument arguments argument) :
    (t.instantiate arguments).Resembles t := by
  have hparts : (t.instantiate arguments).parts.length = t.parts.length := by
    rw [parts_instantiate h, List.length_map]
  cases t with
  | simple name nullable =>
    rw [instantiate_simple h]
    exact ⟨rfl, rfl, rfl, rfl⟩
  | array element nullable =>
    rw [instantiate] at hparts ⊢
    exact ⟨rfl, rfl, rfl, hparts⟩
  | dictionary key value nullable =>
    rw [instantiate] at hparts ⊢
    exact ⟨rfl, rfl, rfl, hparts⟩
  | generic name args nullable =>
    rw [instantiate] at hparts ⊢
    exact ⟨rfl, rfl, rfl, hparts⟩

theorem not_takesArgument_of_part {i : Nat} (h : t.parts[i]? = some u) :
    ¬t.TakesArgument arguments argument := by
  rintro ⟨name, nullable, _, rfl, -⟩
  exact nomatch h

/-! ### What stands at the addresses -/

/-- Replacing placeholders commutes with going to an address. -/
theorem at?_instantiate (h : t.at? address = some u) :
    (t.instantiate arguments).at? address = some (u.instantiate arguments) := by
  induction address generalizing t with
  | nil =>
    obtain rfl := Option.some.inj h
    rfl
  | cons i address ih =>
    obtain ⟨part, hpart, hu⟩ := at?_cons_eq_some_iff.1 h
    refine at?_cons_eq_some_iff.2 ⟨part.instantiate arguments, ?_, ih hu⟩
    rw [parts_instantiate fun _ => not_takesArgument_of_part hpart, List.getElem?_map, hpart,
      Option.map_some]

/-- An address of the result is one where no placeholder has an argument, or it leads into what
took the place of a placeholder. -/
theorem at?_of_at?_instantiate (h : (t.instantiate arguments).at? address = some w) :
    (∃ u, t.at? address = some u ∧ ∀ argument, ¬u.TakesArgument arguments argument) ∨
      ∃ upper lower u argument, address = upper ++ lower ∧ t.at? upper = some u ∧
        u.TakesArgument arguments argument := by
  induction address generalizing t with
  | nil =>
    by_cases ht : ∃ argument, t.TakesArgument arguments argument
    · obtain ⟨argument, ht⟩ := ht
      exact .inr ⟨[], [], t, argument, rfl, rfl, ht⟩
    · exact .inl ⟨t, rfl, not_exists.1 ht⟩
  | cons i address ih =>
    by_cases ht : ∃ argument, t.TakesArgument arguments argument
    · obtain ⟨argument, ht⟩ := ht
      exact .inr ⟨[], i :: address, t, argument, rfl, rfl, ht⟩
    · obtain ⟨part', hpart', hw⟩ := at?_cons_eq_some_iff.1 h
      rw [parts_instantiate (not_exists.1 ht), List.getElem?_map] at hpart'
      obtain ⟨part, hpart, rfl⟩ := Option.map_eq_some_iff.1 hpart'
      rcases ih hw with ⟨u, hu, hnone⟩ | ⟨upper, lower, u, argument, rfl, hu, htakes⟩
      · exact .inl ⟨u, at?_cons_eq_some_iff.2 ⟨part, hpart, hu⟩, hnone⟩
      · exact .inr ⟨i :: upper, lower, u, argument, rfl,
          at?_cons_eq_some_iff.2 ⟨part, hpart, hu⟩, htakes⟩

/-- Where a placeholder has an argument, the type of the argument stands, with a mark if it has one
itself or if it is a plain name and the placeholder has one. -/
theorem at?_instantiate_of_takesArgument (h : t.at? address = some u)
    (htakes : u.TakesArgument arguments argument) :
    (t.instantiate arguments).at? address = some ((ofDescriptor argument).withMark
      ((ofDescriptor argument).isNullable ||
        ((ofDescriptor argument).kind == .plain && u.isNullable))) := by
  rw [at?_instantiate h, instantiate_of_takesArgument htakes, ofArgument_eq_withMark]

/-- At every address of a nullable placeholder that has an argument, a nullable type stands after
placeholders were replaced. -/
def KeepsMarks (arguments : List String) (t : TypeRef) : Prop :=
  ∀ address u argument, t.at? address = some u → u.TakesArgument arguments argument →
    u.isNullable = true →
      ∃ w, (t.instantiate arguments).at? address = some w ∧ w.isNullable = true

/-- Marks are kept if and only if every argument in the place of a nullable placeholder is a plain
name or nullable itself. -/
theorem keepsMarks_iff :
    t.KeepsMarks arguments ↔
      ∀ address u argument, t.at? address = some u → u.TakesArgument arguments argument →
        u.isNullable = true →
          (ofDescriptor argument).kind = .plain ∨ (ofDescriptor argument).isNullable = true := by
  refine forall_congr' fun address => forall_congr' fun u => forall_congr' fun argument =>
    forall_congr' fun hu => forall_congr' fun htakes => forall_congr' fun hnullable => ?_
  rw [at?_instantiate_of_takesArgument hu htakes, hnullable]
  simp [or_comm]

/-- **What the replacement of placeholders keeps.** At an address where no placeholder has an
argument, the kind, the name and the mark stay; where one has an argument, the type of the argument
stands, which takes over the mark of the placeholder only if it is a plain name; and there are no
other addresses than these and those within the arguments. So marks are kept exactly if every
argument in the place of a nullable placeholder is a plain name or nullable itself. -/
theorem instantiate_nodes (arguments : List String) (t : TypeRef) :
    (∀ address u, t.at? address = some u → (∀ argument, ¬u.TakesArgument arguments argument) →
      ∃ w, (t.instantiate arguments).at? address = some w ∧ w.Resembles u) ∧
    (∀ address u argument, t.at? address = some u → u.TakesArgument arguments argument →
      (t.instantiate arguments).at? address = some ((ofDescriptor argument).withMark
        ((ofDescriptor argument).isNullable ||
          ((ofDescriptor argument).kind == .plain && u.isNullable)))) ∧
    (∀ address w, (t.instantiate arguments).at? address = some w →
      (∃ u, t.at? address = some u ∧ ∀ argument, ¬u.TakesArgument arguments argument) ∨
        ∃ upper lower u argument, address = upper ++ lower ∧ t.at? upper = some u ∧
          u.TakesArgument arguments argument) ∧
    (t.KeepsMarks arguments ↔
      ∀ address u argument, t.at? address = some u → u.TakesArgument arguments argument →
        u.isNullable = true →
          (ofDescriptor argument).kind = .plain ∨ (ofDescriptor argument).isNullable = true) := by
  refine ⟨fun address u hu hnone => ?_, fun _ _ _ => at?_instantiate_of_takesArgument,
    fun _ _ => at?_of_at?_instantiate, keepsMarks_iff⟩
  exact ⟨u.instantiate arguments, at?_instantiate hu, resembles_instantiate hnone⟩

/-- Below a dictionary and an array, the mark of a placeholder is lost to an array and kept by a
plain name. -/
theorem instantiate_nodes_lostMark :
    let t := dictionary (simple "System.String" false) (array (simple "T0" true) false) true
    t.at? [1, 0] = some (simple "T0" true) ∧
      (simple "T0" true).TakesArgument ["[Acme.Book]"] "[Acme.Book]" ∧
      (t.instantiate ["[Acme.Book]"]).at? [1, 0] =
        some (array (simple "Acme.Book" false) false) ∧
      ¬t.KeepsMarks ["[Acme.Book]"] ∧ t.KeepsMarks ["Acme.Book"] := by
  intro t
  have hat : t.at? [1, 0] = some (simple "T0" true) := rfl
  have htakes : (simple "T0" true).TakesArgument ["[Acme.Book]"] "[Acme.Book]" :=
    ⟨"T0", true, 0, rfl, ⟨['0'], by decide, List.forall_mem_singleton.2 rfl, rfl, rfl⟩, rfl⟩
  refine ⟨hat, htakes, by decide +kernel, fun hkeeps => ?_, ?_⟩
  · have hmark := (instantiate_nodes _ t).2.2.2.1 hkeeps _ _ _ hat htakes rfl
    exact absurd hmark (by decide +kernel)
  · refine (instantiate_nodes _ t).2.2.2.2 fun _ _ argument _ htakes _ => .inl ?_
    obtain ⟨_, _, i, -, -, hargument⟩ := htakes
    obtain rfl := List.mem_singleton.1 (List.mem_of_getElem? hargument)
    decide +kernel

end TypeRef

end ApiProxy
