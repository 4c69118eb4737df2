import ApiProxy.Proofs.TypeRef.DisplayName

/-!
# How descriptors end

The descriptor of an array, of a dictionary or of an instantiation ends with its closing bracket or
with the mark behind that, apart from blanks. So a text that ends otherwise is a plain name,
whatever else is in it, and the name is the text without the blanks at its ends.

The display name of a plain name is empty if nothing stands behind its last dot. Every other display
name has a bracket in it. So a display name is empty if and only if its descriptor is blank or ends
with a dot.

## Main definitions

* `TypeRef.isClosing`: the characters that the descriptors of arrays, dictionaries and
  instantiations end with.

## Main results

* `TypeRef.ofDescriptor_eq_simple_trim`: a text that ends with another character is a plain name.
* `TypeRef.displayNameOf_eq_empty_iff`: where display names are empty.
-/

namespace ApiProxy

open Text

namespace TypeRef

/-- The characters that the descriptors of arrays, dictionaries and instantiations end with. -/
def isClosing (c : Char) : Bool :=
  c == '?' || c == ']' || c == '\x7d' || c == '>'

/-- A closing bracket, or the mark behind it, is the last character of a descriptor. -/
theorem exists_isClosing_of_mark {c : Char} {s t u r : List Char} {nullable : Bool} (hs : t <:+ s)
    (hc : isClosing c = true) (hb : isBlank c = false) (htoken : Token c t u)
    (hmark : Mark u nullable r) (hr : Blanks r []) :
    ∃ d ∈ (trimBlank s).getLast?, isClosing d = true := by
  cases hmark with
  | absent => exact ⟨c, getLast?_trimBlank_of_token hb hs htoken hr, hc⟩
  | present hmark =>
    exact ⟨'?',
      getLast?_trimBlank_of_token (by decide) ((suffix_of_token htoken).trans hs) hmark hr, rfl⟩

theorem DerivesArgs.exists_token {s r : List Char} {ts : List TypeRef} (h : DerivesArgs s ts r) :
    ∃ t, t <:+ s ∧ Token '>' t r := by
  induction ts generalizing s with
  | nil =>
    cases h with
    | close closing => exact ⟨s, List.suffix_rfl, closing⟩
  | cons arg others ih =>
    cases h with
    | more comma derives args =>
      obtain ⟨t, ht, htoken⟩ := ih args
      exact ⟨t, ht.trans (derives.suffix.trans (suffix_of_token comma)), htoken⟩

/-- A descriptor of any type but a plain name ends like an array, a dictionary or an
instantiation. -/
theorem Denotes.exists_isClosing {s : List Char} {t : TypeRef} (h : Denotes s t)
    (hplain : ∀ name nullable, t ≠ simple name nullable) :
    ∃ c ∈ (trimBlank s).getLast?, isClosing c = true := by
  obtain ⟨r, hderives, hr⟩ := h
  cases hderives with
  | array opening derives closing mark =>
    exact exists_isClosing_of_mark (derives.suffix.trans (suffix_of_token opening)) rfl (by decide)
      closing mark hr
  | dictionary opening derivesKey colon derivesValue closing mark =>
    have hkey := derivesKey.suffix.trans (suffix_of_token opening)
    exact exists_isClosing_of_mark (derivesValue.suffix.trans ((suffix_of_token colon).trans hkey))
      rfl (by decide) closing mark hr
  | generic name derives args mark =>
    obtain ⟨t, ht, htoken⟩ := args.exists_token
    have hargs := derives.suffix.trans ((List.suffix_cons _ _).trans name.suffix)
    exact exists_isClosing_of_mark (ht.trans hargs) rfl (by decide) htoken mark hr
  | plain name unmarked => exact absurd rfl (hplain _ _)
  | marked name => exact absurd rfl (hplain _ _)

/-- A text that ends otherwise is a plain name, without the blanks at its ends. -/
theorem ofDescriptor_eq_simple_trim {d : String}
    (h : ∀ c ∈ (trimBlank d.toList).getLast?, isClosing c = false) :
    ofDescriptor d = simple (trim d) false := by
  have hplain : ∃ name nullable, ofDescriptor d = simple name nullable := by
    by_contra hnone
    simp only [not_exists] at hnone
    have hd : IsDescriptor d := by
      by_contra hd
      obtain ⟨name, nullable, hsimple⟩ := exists_ofDescriptor_eq_simple hd
      exact hnone name nullable hsimple
    obtain ⟨c, hc, hclosing⟩ := hd.denotes.exists_isClosing hnone
    exact absurd ((h c hc).symm.trans hclosing) Bool.false_ne_true
  obtain ⟨name, nullable, hsimple⟩ := hplain
  have hmark : splitMark (trim d) = (trim d, false) := by
    rw [splitMark, if_neg]
    rw [trim, String.toList_ofList]
    exact fun hlast => absurd (h '?' hlast) (by decide)
  obtain ⟨rfl, rfl⟩ := Prod.mk.inj ((splitMark_trim hsimple).symm.trans hmark)
  exact hsimple

/-! ### Empty display names -/

theorem ne_empty_of_keyword? {name keyword : String} (h : keyword? name = some keyword) :
    keyword ≠ "" := by
  unfold keyword? at h
  split at h
  case h_10 => exact nomatch h
  all_goals
    obtain rfl := Option.some.inj h
    decide

theorem lastSegment_eq_empty_iff {name : String} :
    lastSegment name = "" ↔ ∀ c ∈ name.toList.getLast?, c = '.' := by
  rw [lastSegment, String.ofList_eq_empty_iff, lastSegmentChars, List.reverse_eq_nil_iff,
    List.takeWhile_eq_nil_iff, ← List.head?_reverse]
  cases name.toList.reverse with
  | nil => simp
  | cons c cs => simp

/-- A display name is empty if and only if its descriptor is blank or ends with a dot. -/
theorem displayNameOf_eq_empty_iff {d : String} :
    displayNameOf d = "" ↔ ∀ c ∈ (trimBlank d.toList).getLast?, c = '.' := by
  have htrim : (trim d).toList = trimBlank d.toList := String.toList_ofList
  constructor
  · intro hempty
    by_cases hplain : ∃ name nullable, ofDescriptor d = simple name nullable
    · obtain ⟨name, nullable, h⟩ := hplain
      rw [displayNameOf, h, displayName, displayWith, String.append_eq_empty_iff] at hempty
      obtain ⟨hshort, hmark⟩ := hempty
      have hname : name = trim d := by rw [← append_mark_eq_trim h, hmark, String.append_empty]
      have hlast : lastSegment name = "" := by
        rcases shortName_cases true name with hkeyword | ⟨heq, -⟩
        · exact absurd hshort (ne_empty_of_keyword? hkeyword)
        · rw [← heq, hshort]
      rwa [lastSegment_eq_empty_iff, hname, htrim] at hlast
    · simp only [not_exists] at hplain
      obtain ⟨c, hc, -⟩ := exists_isDelimiter_displayWith true hplain
      rw [← displayName, ← displayNameOf, hempty] at hc
      exact absurd hc List.not_mem_nil
  · intro hlast
    have h : ofDescriptor d = simple (trim d) false :=
      ofDescriptor_eq_simple_trim fun c hc => by rw [hlast c hc]; rfl
    rw [← htrim, ← lastSegment_eq_empty_iff] at hlast
    rw [displayNameOf, h, displayName, displayWith, shortName, if_pos rfl, hlast]
    rfl

end TypeRef

end ApiProxy
