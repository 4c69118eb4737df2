import ApiProxy.Proofs.TypeRef.Neatness

/-!
# Resolving a display name again

A display name is text without dots. Resolved again it changes in two ways at most: blanks at its
ends and around its delimiters are lost, and a name that was no descriptor before may be read as
one now. A neat display name changes in neither way, which is why resolution is idempotent on every
descriptor in which no dot has a blank behind it. On any other text the first display name need not
be neat, but the second one is: it is the display name of a descriptor without dots, or trimmed text
that is no descriptor.

## Main results

* `TypeRef.displayNameOf_of_neat`: a neat text without dots is its own display name, unless it
  names a built-in type.
* `TypeRef.displayNameOf_idempotent`: on descriptors with tight dots resolution is idempotent.
* `TypeRef.displayNameOf_settles`: on every text it settles after two steps.
-/

namespace ApiProxy

open Text

namespace TypeRef

/-! ### Display names do not name built-in types -/

/-- The display name of a plain type with its mark is split into the short name and the mark. -/
theorem splitMark_displayNameOf {d name : String} {nullable : Bool}
    (h : ofDescriptor d = simple name nullable) :
    splitMark (displayNameOf d) = (shortName true name, nullable) := by
  rw [displayNameOf, h, displayName, displayWith]
  refine splitMark_append_mark ?_
  rintro rfl hlast
  rcases shortName_cases true name with hkeyword | ⟨hshort, -⟩
  · have := (isKeywordOf_of_keyword? hkeyword).ordinaryKeyword _ (List.mem_of_getLast? hlast)
    exact this.2.1 rfl
  · rw [hshort, lastSegment, String.toList_ofList] at hlast
    exact getLast?_ne_of_splitMark (splitMark_trim h) (getLast_lastSegmentChars hlast)

theorem keyword?_displayNameOf (d : String) : keyword? (splitMark (displayNameOf d)).1 = none := by
  by_cases hplain : ∃ name nullable, ofDescriptor d = simple name nullable
  · obtain ⟨name, nullable, h⟩ := hplain
    rw [splitMark_displayNameOf h]
    exact keyword?_shortName name
  · simp only [not_exists] at hplain
    obtain ⟨c, hc, hdelimiter⟩ := exists_isDelimiter_displayWith true hplain
    cases hkeyword : keyword? (splitMark (displayNameOf d)).1 with
    | none => rfl
    | some keyword =>
      have hname : c ∈ (splitMark (displayNameOf d)).1.toList := by
        rw [← displayName, ← displayNameOf, ← splitMark_append (displayNameOf d),
          String.toList_append, List.mem_append] at hc
        refine hc.resolve_right fun hmark => ?_
        obtain rfl := eq_of_mem_mark hmark
        exact absurd hdelimiter (by decide)
      have := (isKeywordOf_of_keyword? hkeyword).ordinaryName c hname
      exact absurd (hdelimiter.symm.trans this.2.2.1) (by decide)

/-! ### Neat texts stay as they are -/

theorem shortName_of_not_mem {name : String} (hdot : '.' ∉ name.toList)
    (hkeyword : keyword? name = none) : shortName true name = name := by
  rw [shortName, if_pos rfl, lastSegment_of_not_mem hdot, hkeyword, Option.getD_none]

/-- A neat text without dots is its own display name, if it does not name a built-in type. -/
theorem displayNameOf_of_neat {d : String} (hneat : Neat d.toList) (hdot : '.' ∉ d.toList)
    (hkeyword : keyword? (splitMark d).1 = none) : displayNameOf d = d := by
  by_cases hplain : ∃ name nullable, ofDescriptor d = simple name nullable
  · obtain ⟨name, nullable, h⟩ := hplain
    have htrim : trim d = d := by rw [trim, hneat.trimBlank_eq, String.ofList_toList]
    have hsplit := splitMark_trim h
    have htext := append_mark_eq_trim h
    rw [htrim] at hsplit htext
    rw [hsplit] at hkeyword
    rw [displayNameOf, h, displayName, displayWith,
      shortName_of_not_mem (not_mem_of_ofDescriptor_eq h hdot) hkeyword, htext]
  · have hd : IsDescriptor d := by
      by_contra hd
      exact hplain (exists_ofDescriptor_eq_simple hd)
    obtain ⟨r, hderives, ws, hws, hr⟩ := hd.denotes
    have hshown := hderives.eq_displayWith rfl hneat hdot
    have hend : r = [] := by
      rw [List.append_nil] at hr
      rw [hr] at hshown ⊢
      exact eq_nil_of_blanks hws rfl (isChain_of_eq_append hshown hneat.tail)
    rw [hend, List.append_nil] at hshown
    cases h : ofDescriptor d with
    | simple name nullable => exact absurd ⟨name, nullable, h⟩ hplain
    | array element nullable =>
      rw [h] at hderives
      cases hderives with
      | array opening derives => exact absurd derives (not_derives_of_opening opening hneat.tail)
    | dictionary key value nullable =>
      rw [h] at hderives
      cases hderives with
      | dictionary opening => exact absurd opening (not_token_of_neat hneat.tail)
    | generic name args nullable =>
      -- no keywords are used below an instantiation, nor for its own name
      rw [displayNameOf, displayName, h]
      rw [h] at hshown
      exact (String.toList_inj.1 hshown).symm

theorem IsDescriptor.displayNameOf_displayNameOf {d : String} (h : IsDescriptor d)
    (hdots : TightDots d.toList) : displayNameOf (displayNameOf d) = displayNameOf d := by
  obtain ⟨r, hderives, -⟩ := h.denotes
  exact displayNameOf_of_neat (hderives.neat_displayWith true hdots) (not_mem_displayNameOf d)
    (keyword?_displayNameOf d)

/-! ### Text that is no descriptor -/

theorem wellFormed_of_keyword? {name keyword : String} (h : keyword? name = some keyword)
    (nullable : Bool) : (simple name nullable).WellFormed := by
  obtain ⟨hne, hordinary, -, -⟩ := isKeywordOf_of_keyword? h
  have hall : ∀ c ∈ name.toList ++ (mark nullable).toList,
      isDelimiter c = false ∧ isBlank c = false := by
    intro c hc
    rcases List.mem_append.1 hc with hc | hc
    · exact (hordinary c hc).2.2
    · rw [eq_of_mem_mark hc]
      decide
  refine ⟨⟨by simp [hne], trimBlank_eq_self (fun c hc => (hall c (List.mem_of_head? hc)).2)
    fun c hc => (hall c (List.mem_of_getLast? hc)).2, fun c hc => (hall c hc).1⟩,
    fun _ hlast => (hordinary _ (List.mem_of_getLast? hlast)).2.1 rfl⟩

theorem not_isDescriptor_trim {d : String} (hd : ¬IsDescriptor d) : ¬IsDescriptor (trim d) := by
  rintro ⟨t, ht⟩
  rw [trim, String.toList_ofList] at ht
  exact hd ⟨t, ht.of_trimBlank⟩

theorem displayNameOf_of_not_isDescriptor {d : String} (hd : ¬IsDescriptor d)
    (hdot : '.' ∉ d.toList) : displayNameOf d = trim d := by
  obtain ⟨name, nullable, h⟩ := exists_ofDescriptor_eq_simple hd
  have htext := append_mark_eq_trim h
  have hkeyword : keyword? name = none := by
    cases hkeyword : keyword? name with
    | none => rfl
    | some keyword =>
      have hdenotes := (wellFormed_of_keyword? hkeyword nullable).denotes_text
      rw [text, htext] at hdenotes
      exact absurd ⟨_, hdenotes⟩ (not_isDescriptor_trim hd)
  rw [displayNameOf, h, displayName, displayWith,
    shortName_of_not_mem (not_mem_of_ofDescriptor_eq h hdot) hkeyword, htext]

theorem displayNameOf_displayNameOf_of_not_mem {d : String} (hdot : '.' ∉ d.toList) :
    displayNameOf (displayNameOf d) = displayNameOf d := by
  by_cases hd : IsDescriptor d
  · exact hd.displayNameOf_displayNameOf (tightDots_of_not_mem hdot)
  · have hdotTrim : '.' ∉ (trim d).toList := by
      rw [trim, String.toList_ofList]
      exact fun h => hdot ((trimBlank_sublist _).subset h)
    rw [displayNameOf_of_not_isDescriptor hd hdot,
      displayNameOf_of_not_isDescriptor (not_isDescriptor_trim hd) hdotTrim, trim, trim,
      String.toList_ofList, trimBlank_trimBlank]

/-- **Resolution is idempotent.** A descriptor in which no dot has a blank directly behind it is
resolved to a name that is resolved to itself and needs no imports. -/
theorem displayNameOf_idempotent (d : String) (h : IsDescriptor d) (hdots : TightDots d.toList) :
    displayNameOf (displayNameOf d) = displayNameOf d ∧ importsOf (displayNameOf d) = ∅ :=
  ⟨h.displayNameOf_displayNameOf hdots, importsOf_eq_empty (not_mem_displayNameOf d)⟩

/-- The display name of an array is no descriptor, and that of a dictionary is read as an
instantiation; both stay. -/
theorem displayNameOf_idempotent_nested :
    IsDescriptor "\x7bSystem.String:[ Acme.Odd Name?]\x7d?" ∧
      TightDots "\x7bSystem.String:[ Acme.Odd Name?]\x7d?".toList ∧
      displayNameOf "\x7bSystem.String:[ Acme.Odd Name?]\x7d?" =
        "Dictionary<string,Odd Name?[]>?" ∧
      displayNameOf "Dictionary<string,Odd Name?[]>?" = "Dictionary<string,Odd Name?[]>?" ∧
      importsOf "Dictionary<string,Odd Name?[]>?" = ∅ := by
  have hd : IsDescriptor "\x7bSystem.String:[ Acme.Odd Name?]\x7d?" := by decide +kernel
  have hdots : TightDots "\x7bSystem.String:[ Acme.Odd Name?]\x7d?".toList := by decide +kernel
  have hname : displayNameOf "\x7bSystem.String:[ Acme.Odd Name?]\x7d?" =
      "Dictionary<string,Odd Name?[]>?" := by decide +kernel
  have h := displayNameOf_idempotent _ hd hdots
  rw [hname] at h
  exact ⟨hd, hdots, hname, h.1, h.2⟩

/-- **Resolution settles.** Whatever the text is, the second display name is resolved to itself. -/
theorem displayNameOf_settles (d : String) :
    displayNameOf (displayNameOf (displayNameOf d)) = displayNameOf (displayNameOf d) :=
  displayNameOf_displayNameOf_of_not_mem (not_mem_displayNameOf d)

/-- The second step is needed where a dot has a blank behind it. -/
example : displayNameOf "Acme. String" = " String" ∧ displayNameOf " String" = "string" := by
  decide +kernel

end TypeRef

end ApiProxy
