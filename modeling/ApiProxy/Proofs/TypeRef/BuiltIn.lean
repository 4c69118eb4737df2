import ApiProxy.Proofs.TypeRef.DisplayName

/-!
# Two readings of the table of built-in types

The keyword of a built-in type is looked up in two ways. Normalizing a name takes away `System.`
in front of it and looks up what is left, so only a short name or one in the namespace `System` has
a keyword. Resolving a descriptor cuts off any namespace first and looks up the last segment, so a
type of any namespace has one if it is named like a built-in type. The two agree on all other
plain names.

## Main definitions

* `IsBuiltIn`: a name is that of a built-in type.
* `ShowsKeyword`: a text is the keyword that belongs to the last segment of a name, with its mark.
* `KeywordsAgree`: resolving a plain descriptor uses a keyword only where normalizing does.

## Main results

* `TypeRef.keywords_agree_iff`: when the two readings agree.
-/

namespace ApiProxy

open Text

/-- A name has no namespace, or exactly the namespace `System`. -/
def IsUnderSystem (name : String) : Prop :=
  qualifier? name = none ∨ qualifier? name = some "System"

instance (name : String) : Decidable (IsUnderSystem name) :=
  inferInstanceAs (Decidable (_ ∨ _))

/-- A name is that of a built-in type, in short or in the namespace `System`. -/
def IsBuiltIn (name : String) : Prop :=
  IsUnderSystem name ∧ (keyword? (lastSegment name)).isSome = true

/-! ### Qualified names -/

theorem eq_append_of_qualifier?_eq_some {name q : String} (h : qualifier? name = some q) :
    name = q ++ "." ++ lastSegment name := by
  obtain ⟨front, hfront, rfl⟩ := Option.map_eq_some_iff.1 h
  have := append_lastSegmentChars_of_qualifierChars?_eq_some hfront
  exact String.toList_inj.1 (by simp [lastSegment, this])

theorem lastSegment_append_dot {q last : String} (h : '.' ∉ last.toList) :
    lastSegment (q ++ "." ++ last) = last := by
  have hdot : lastSegmentChars (q.toList ++ ['.']) = [] := by simp [lastSegmentChars]
  have := lastSegmentChars_append (q.toList ++ ['.']) h
  rw [hdot] at this
  exact String.toList_inj.1 (by simpa [lastSegment] using this)

theorem qualifier?_append_dot {q last : String} (h : '.' ∉ last.toList) :
    qualifier? (q ++ "." ++ last) = some q := by
  cases hq : qualifier? (q ++ "." ++ last) with
  | none =>
    rw [qualifier?_eq_none_iff] at hq
    simp at hq
  | some q' =>
    have := eq_append_of_qualifier?_eq_some hq
    rw [lastSegment_append_dot h] at this
    simpa using this.symm

theorem afterStart?_append (start rest : String) :
    afterStart? start (start ++ rest) = some rest := by
  have hstart : startsWith start (start ++ rest) = true := by
    rw [startsWith, String.toList_append, List.isPrefixOf_iff_prefix]
    exact List.prefix_append _ _
  rw [afterStart?, if_pos hstart, String.toList_append, List.drop_left, String.ofList_toList]

/-! ### The two readings -/

/-- What is left of a name without `System.` in front has a keyword if and only if the name is that
of a built-in type, and then it is that of the last segment. -/
theorem keyword?_afterSystem (name : String) :
    keyword? ((afterStart? "System." name).getD name) =
      if IsUnderSystem name then keyword? (lastSegment name) else none := by
  cases hq : qualifier? name with
  | none =>
    have hdot := qualifier?_eq_none_iff.1 hq
    have hstart : afterStart? "System." name = none := by
      cases hstart : afterStart? "System." name with
      | none => rfl
      | some rest =>
        rw [← append_of_afterStart?_eq_some hstart] at hdot
        simp at hdot
    rw [if_pos (.inl hq), hstart, Option.getD_none, lastSegment_of_not_mem hdot]
  | some q =>
    have hname := eq_append_of_qualifier?_eq_some hq
    by_cases hsystem : q = "System"
    · subst hsystem
      have hstart : afterStart? "System." name = some (lastSegment name) := by
        conv_lhs => rw [hname]
        exact afterStart?_append "System." (lastSegment name)
      rw [if_pos (.inr hq), hstart, Option.getD_some]
    · have hother : ¬IsUnderSystem name := by simp [IsUnderSystem, hq, hsystem]
      rw [if_neg hother]
      refine Option.eq_none_iff_forall_ne_some.2 fun keyword hkeyword => ?_
      have hordinary := (isKeywordOf_of_keyword? hkeyword).ordinaryName
      have hdot : '.' ∉ ((afterStart? "System." name).getD name).toList :=
        fun h => (hordinary _ h).1 rfl
      cases hstart : afterStart? "System." name with
      | none =>
        rw [hstart, Option.getD_none, ← qualifier?_eq_none_iff, hq] at hdot
        cases hdot
      | some rest =>
        rw [hstart, Option.getD_some] at hdot
        have hrest := append_of_afterStart?_eq_some hstart
        have hqualifier := qualifier?_append_dot (q := "System") hdot
        rw [← hrest] at hq
        exact hsystem (Option.some.inj (hq.symm.trans hqualifier))

namespace TypeRef

/-- A text is the keyword that belongs to the last segment of a name, with the mark. -/
def ShowsKeyword (shown name : String) (nullable : Bool) : Prop :=
  ∃ keyword, keyword? (lastSegment name) = some keyword ∧ shown = keyword ++ mark nullable

/-- The two readings of the table agree on a plain descriptor: resolving it uses a keyword only
where normalizing does, and cuts any other qualified name to its last segment. -/
structure KeywordsAgree (d name : String) (nullable : Bool) : Prop where
  resolved : ShowsKeyword (displayNameOf d) name nullable →
    ShowsKeyword (builtInName (trim d)) name nullable
  otherwise : ¬IsUnderSystem name → displayNameOf d = lastSegment name ++ mark nullable

section Plain

variable {d name : String} {nullable : Bool} (h : ofDescriptor d = simple name nullable)

include h

theorem displayNameOf_of_keyword? {keyword : String}
    (hkeyword : keyword? (lastSegment name) = some keyword) :
    displayNameOf d = keyword ++ mark nullable := by
  rw [displayNameOf, h, displayName, displayWith, shortName, if_pos rfl, hkeyword,
    Option.getD_some]

theorem displayNameOf_of_keyword?_eq_none (hkeyword : keyword? (lastSegment name) = none) :
    displayNameOf d = lastSegment name ++ mark nullable := by
  rw [displayNameOf, h, displayName, displayWith, shortName, if_pos rfl, hkeyword,
    Option.getD_none]

theorem builtInName_trim : builtInName (trim d) =
    ((if IsUnderSystem name then keyword? (lastSegment name) else none).map
      (· ++ mark nullable)).getD (trim d) := by
  delta builtInName
  rw [splitMark_trim h]
  dsimp only
  rw [keyword?_afterSystem]
  cases if IsUnderSystem name then keyword? (lastSegment name) else none <;> rfl

theorem builtInName_trim_of_keyword? {keyword : String} (hsystem : IsUnderSystem name)
    (hkeyword : keyword? (lastSegment name) = some keyword) :
    builtInName (trim d) = keyword ++ mark nullable := by
  rw [builtInName_trim h, if_pos hsystem, hkeyword, Option.map_some, Option.getD_some]

theorem builtInName_trim_of_not_isBuiltIn (hname : ¬IsBuiltIn name) :
    builtInName (trim d) = trim d := by
  have hnone : (if IsUnderSystem name then keyword? (lastSegment name) else none) = none := by
    split
    · next hsystem =>
      cases hkeyword : keyword? (lastSegment name) with
      | none => rfl
      | some keyword => exact absurd ⟨hsystem, by rw [hkeyword]; rfl⟩ hname
    · rfl
  rw [builtInName_trim h, hnone, Option.map_none, Option.getD_none]

theorem showsKeyword_displayNameOf_iff :
    ShowsKeyword (displayNameOf d) name nullable ↔
      (keyword? (lastSegment name)).isSome = true := by
  rw [Option.isSome_iff_exists]
  exact exists_congr fun keyword =>
    and_iff_left_of_imp fun hkeyword => displayNameOf_of_keyword? h hkeyword

theorem showsKeyword_builtInName_iff :
    ShowsKeyword (builtInName (trim d)) name nullable ↔ IsBuiltIn name := by
  constructor
  · rintro ⟨keyword, hkeyword, hshown⟩
    by_contra hname
    -- the name would be the keyword, and no keyword has one
    rw [builtInName_trim_of_not_isBuiltIn h hname, ← append_mark_eq_trim h,
      String.append_left_inj] at hshown
    subst hshown
    rw [lastSegment_of_not_mem (not_mem_keyword hkeyword),
      (isKeywordOf_of_keyword? hkeyword).final] at hkeyword
    cases hkeyword
  · rintro ⟨hsystem, hsome⟩
    obtain ⟨keyword, hkeyword⟩ := Option.isSome_iff_exists.1 hsome
    exact ⟨keyword, hkeyword, builtInName_trim_of_keyword? h hsystem hkeyword⟩

/-- **Where the two readings of the table agree.** Normalizing a plain name uses the keyword of its
last segment exactly for the built-in types, and resolving it does so in every namespace. So the
two agree, and every other qualified name is cut to its last segment, exactly if no namespace but
`System` stands in front of the name of a built-in type. -/
theorem keywords_agree_iff :
    (ShowsKeyword (builtInName (trim d)) name nullable ↔ IsBuiltIn name) ∧
      (ShowsKeyword (displayNameOf d) name nullable ↔
        (keyword? (lastSegment name)).isSome = true) ∧
      (KeywordsAgree d name nullable ↔
        ((keyword? (lastSegment name)).isSome = true → IsUnderSystem name)) := by
  refine ⟨showsKeyword_builtInName_iff h, showsKeyword_displayNameOf_iff h, ?_, ?_⟩
  · rintro ⟨hresolved, -⟩ hsome
    have hshown := hresolved ((showsKeyword_displayNameOf_iff h).2 hsome)
    exact ((showsKeyword_builtInName_iff h).1 hshown).1
  · intro hsystem
    refine ⟨fun hshown => ?_, fun hother => ?_⟩
    · have hsome := (showsKeyword_displayNameOf_iff h).1 hshown
      exact (showsKeyword_builtInName_iff h).2 ⟨hsystem hsome, hsome⟩
    · cases hkeyword : keyword? (lastSegment name) with
      | none => exact displayNameOf_of_keyword?_eq_none h hkeyword
      | some keyword => exact absurd (hsystem (by rw [hkeyword]; rfl)) hother

omit h in
/-- A user's own type is resolved to a keyword, where normalizing keeps its name. -/
theorem keywords_agree_object :
    ofDescriptor "Acme.Books.Object?" = simple "Acme.Books.Object" true ∧
      displayNameOf "Acme.Books.Object?" = "object?" ∧
      builtInName "Acme.Books.Object?" = "Acme.Books.Object?" ∧
      ¬KeywordsAgree "Acme.Books.Object?" "Acme.Books.Object" true := by
  have h : ofDescriptor "Acme.Books.Object?" = simple "Acme.Books.Object" true := by
    decide +kernel
  refine ⟨h, by decide +kernel, by decide +kernel, fun hagree => ?_⟩
  exact absurd ((keywords_agree_iff h).2.2.1 hagree (by decide +kernel)) (by decide +kernel)

end Plain

end TypeRef

end ApiProxy
