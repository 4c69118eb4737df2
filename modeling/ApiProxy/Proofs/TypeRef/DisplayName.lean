import ApiProxy.Proofs.Text.Dotted
import ApiProxy.Proofs.TypeRef.Reading
import ApiProxy.TypeRef.DisplayName
import Mathlib.Data.Bool.AllAny

/-!
# Display names have no dots

Every qualifier is cut off in a display name, so no dot is left in it, and a display name that is
resolved again needs no imports. The keywords of built-in types and the names that they stand for
are made of ordinary characters, and no keyword stands for another one.

A descriptor of a plain name, or text that is no descriptor, stands for itself without the blanks
at its ends: a last question mark is the mark, and everything in front of it the name.

## Main definitions

* `IsOrdinary`: a character that means nothing in descriptors.

## Main results

* `TypeRef.not_mem_displayNameOf`: no display name has a dot.
* `TypeRef.importsOf_eq_empty`: without a dot nothing is imported.
* `TypeRef.splitMark_trim`: the name and the mark that a plain descriptor stands for.
-/

namespace ApiProxy

open Text

/-- A character that means nothing in a descriptor: no dot, no mark, no delimiter, no blank. -/
def IsOrdinary (c : Char) : Prop :=
  c ≠ '.' ∧ c ≠ '?' ∧ TypeRef.isDelimiter c = false ∧ isBlank c = false

instance (c : Char) : Decidable (IsOrdinary c) :=
  inferInstanceAs (Decidable (_ ∧ _))

/-! ### Keywords -/

/-- The built-in types have names and keywords of ordinary characters, and no keyword is the name
of a built-in type. -/
structure IsKeywordOf (name keyword : String) : Prop where
  name_ne : name.toList ≠ []
  ordinaryName : ∀ c ∈ name.toList, IsOrdinary c
  ordinaryKeyword : ∀ c ∈ keyword.toList, IsOrdinary c
  final : keyword? keyword = none

theorem isKeywordOf_of_keyword? {name keyword : String} (h : keyword? name = some keyword) :
    IsKeywordOf name keyword := by
  unfold keyword? at h
  split at h
  case h_10 => exact nomatch h
  all_goals
    obtain rfl := Option.some.inj h
    exact ⟨by decide, List.all_iff_forall_prop.1 (by decide),
      List.all_iff_forall_prop.1 (by decide), rfl⟩

/-! ### Dots -/

theorem not_mem_lastSegment (name : String) : '.' ∉ (lastSegment name).toList := by
  rw [lastSegment, String.toList_ofList]
  exact not_mem_lastSegmentChars _

theorem lastSegment_of_not_mem {name : String} (h : '.' ∉ name.toList) :
    lastSegment name = name := by
  rw [lastSegment, lastSegmentChars_of_not_mem h, String.ofList_toList]

theorem qualifier?_eq_none_iff {name : String} : qualifier? name = none ↔ '.' ∉ name.toList := by
  rw [qualifier?, Option.map_eq_none_iff, qualifierChars?_eq_none_iff]

theorem not_mem_keyword {name keyword : String} (h : keyword? name = some keyword) :
    '.' ∉ keyword.toList :=
  fun hdot => ((isKeywordOf_of_keyword? h).ordinaryKeyword _ hdot).1 rfl

namespace TypeRef

/-- The short name of a type is a keyword or the last segment of its name. -/
theorem shortName_cases (keywords : Bool) (name : String) :
    keyword? (lastSegment name) = some (shortName keywords name) ∨
      shortName keywords name = lastSegment name ∧
        (keywords = true → keyword? (lastSegment name) = none) := by
  cases keywords with
  | false => exact .inr ⟨rfl, nofun⟩
  | true =>
    cases h : keyword? (lastSegment name) with
    | none => exact .inr ⟨by rw [shortName, if_pos rfl, h, Option.getD_none], fun _ => rfl⟩
    | some keyword => exact .inl (by rw [shortName, if_pos rfl, h, Option.getD_some])

theorem keyword?_shortName (name : String) : keyword? (shortName true name) = none := by
  rcases shortName_cases true name with h | ⟨h, hnone⟩
  · exact (isKeywordOf_of_keyword? h).final
  · rw [h]
    exact hnone rfl

theorem not_mem_shortName (keywords : Bool) (name : String) :
    '.' ∉ (shortName keywords name).toList := by
  rcases shortName_cases keywords name with h | ⟨h, -⟩
  · exact not_mem_keyword h
  · rw [h]
    exact not_mem_lastSegment name

theorem eq_of_mem_mark {nullable : Bool} {c : Char} (h : c ∈ (mark nullable).toList) : c = '?' := by
  cases nullable with
  | false => exact absurd h List.not_mem_nil
  | true => exact List.mem_singleton.1 h

theorem not_mem_mark (nullable : Bool) : '.' ∉ (mark nullable).toList :=
  fun h => absurd (eq_of_mem_mark h) (by decide)

theorem displayArgs_eq_map (ts : List TypeRef) : displayArgs ts = ts.map (displayWith false) := by
  induction ts with
  | nil => rfl
  | cons t ts ih => rw [displayArgs, ih, List.map_cons]

theorem qualifiersOfArgs_eq_flatMap (ts : List TypeRef) :
    qualifiersOfArgs ts = ts.flatMap qualifiers := by
  induction ts with
  | nil => rfl
  | cons t ts ih => rw [qualifiersOfArgs, ih, List.flatMap_cons]

theorem not_mem_intercalate {sep : String} {parts : List String} (hsep : '.' ∉ sep.toList)
    (hparts : ∀ part ∈ parts, '.' ∉ part.toList) : '.' ∉ (sep.intercalate parts).toList := by
  induction parts with
  | nil => simp
  | cons part parts ih =>
    obtain ⟨hpart, hparts⟩ := List.forall_mem_cons.1 hparts
    cases parts with
    | nil => simpa using hpart
    | cons next parts =>
      rw [String.intercalate_cons_cons]
      simpa [hsep, hpart] using ih hparts

mutual

theorem not_mem_displayWith (keywords : Bool) :
    (t : TypeRef) → '.' ∉ (t.displayWith keywords).toList
  | simple name nullable => by
    simp [displayWith, not_mem_shortName, not_mem_mark]
  | array element nullable => by
    simp [displayWith, not_mem_displayWith keywords element, not_mem_mark]
  | dictionary key value nullable => by
    simp [displayWith, not_mem_displayWith keywords key, not_mem_displayWith keywords value,
      not_mem_mark]
  | generic name args nullable => by
    have hargs : '.' ∉ (",".intercalate (displayArgs args)).toList :=
      not_mem_intercalate (by decide) (not_mem_displayArgs args)
    simpa [displayWith, -String.toList_intercalate, not_mem_lastSegment, not_mem_mark] using hargs

theorem not_mem_displayArgs : (ts : List TypeRef) → ∀ d ∈ displayArgs ts, '.' ∉ d.toList
  | [] => by simp [displayArgs]
  | t :: ts => by
    rw [displayArgs]
    exact List.forall_mem_cons.2 ⟨not_mem_displayWith false t, not_mem_displayArgs ts⟩

end

theorem not_mem_displayNameOf (d : String) : '.' ∉ (displayNameOf d).toList :=
  not_mem_displayWith true _

/-- The display name of every type but a plain name has a delimiter in it. -/
theorem exists_isDelimiter_displayWith (keywords : Bool) {t : TypeRef}
    (h : ∀ name nullable, t ≠ simple name nullable) :
    ∃ c ∈ (t.displayWith keywords).toList, isDelimiter c = true := by
  cases t with
  | simple name nullable => exact absurd rfl (h name nullable)
  | array element nullable => exact ⟨'[', by simp [displayWith], rfl⟩
  | dictionary key value nullable => exact ⟨'<', by simp [displayWith], rfl⟩
  | generic name args nullable => exact ⟨'<', by simp [displayWith], rfl⟩

/-! ### What a text without dots imports -/

theorem suffix_of_blanks {s r : List Char} (h : Blanks s r) : r <:+ s := by
  obtain ⟨ws, -, rfl⟩ := h
  exact List.suffix_append ws r

theorem suffix_of_token {c : Char} {s r : List Char} (h : Token c s r) : r <:+ s :=
  (List.suffix_cons c r).trans (suffix_of_blanks h)

theorem Mark.suffix {s r : List Char} {nullable : Bool} (h : Mark s nullable r) : r <:+ s := by
  cases h with
  | absent => exact List.suffix_rfl
  | present ht => exact suffix_of_token ht

theorem Name.exists_eq_append {s n r : List Char} (h : Name s n r) :
    ∃ ws vs, (∀ c ∈ ws, isBlank c) ∧ (∀ c ∈ vs, isBlank c) ∧ s = ws ++ (n ++ (vs ++ r)) := by
  obtain ⟨⟨ws, hws, rfl⟩, -, -, -⟩ := h
  rename_i run
  obtain ⟨vs, hvs, us, hus, hrun⟩ := exists_trimBlank_append run
  refine ⟨ws ++ us, vs, fun c hc => (List.mem_append.1 hc).elim (hws c) (hus c), hvs, ?_⟩
  conv_lhs => rw [hrun]
  simp

theorem Name.isInfix {s n r : List Char} (h : Name s n r) : n <:+: s := by
  obtain ⟨ws, vs, -, -, rfl⟩ := h.exists_eq_append
  exact ⟨ws, vs ++ r, by simp⟩

theorem Name.suffix {s n r : List Char} (h : Name s n r) : r <:+ s := by
  obtain ⟨ws, vs, -, -, rfl⟩ := h.exists_eq_append
  exact ⟨ws ++ (n ++ vs), by simp⟩

mutual

theorem Derives.suffix {s r : List Char} {t : TypeRef} : Derives s t r → r <:+ s
  | .array opening derives closing mark =>
    (mark.suffix.trans (suffix_of_token closing)).trans
      (derives.suffix.trans (suffix_of_token opening))
  | .dictionary opening derivesKey colon derivesValue closing mark =>
    ((mark.suffix.trans (suffix_of_token closing)).trans
      (derivesValue.suffix.trans (suffix_of_token colon))).trans
      (derivesKey.suffix.trans (suffix_of_token opening))
  | .generic name derives args mark =>
    (mark.suffix.trans args.suffix).trans
      (derives.suffix.trans ((List.suffix_cons _ _).trans name.suffix))
  | .plain name _ | .marked name => name.suffix

theorem DerivesArgs.suffix {s r : List Char} {ts : List TypeRef} : DerivesArgs s ts r → r <:+ s
  | .close closing => suffix_of_token closing
  | .more comma derives args =>
    args.suffix.trans (derives.suffix.trans (suffix_of_token comma))

end

theorem qualifier?_eq_none_of_isInfix {s n : List Char} (h : n <:+: s) (hdot : '.' ∉ s) :
    qualifier? (String.ofList n) = none := by
  rw [qualifier?_eq_none_iff, String.toList_ofList]
  exact fun hn => hdot (h.subset hn)

mutual

theorem Derives.qualifiers_eq_nil {s r : List Char} {t : TypeRef} :
    Derives s t r → '.' ∉ s → t.qualifiers = []
  | .array opening derives _ _, hdot =>
    derives.qualifiers_eq_nil fun h => hdot ((suffix_of_token opening).subset h)
  | .dictionary opening derivesKey colon derivesValue _ _, hdot => by
    have hkey : '.' ∉ _ := fun h => hdot ((suffix_of_token opening).subset h)
    have hvalue : '.' ∉ _ := fun h =>
      hkey (derivesKey.suffix.subset ((suffix_of_token colon).subset h))
    rw [qualifiers, derivesKey.qualifiers_eq_nil hkey, derivesValue.qualifiers_eq_nil hvalue]
    rfl
  | .generic name derives args _, hdot => by
    have hfirst : '.' ∉ _ := fun h => hdot (name.suffix.subset (List.mem_cons_of_mem _ h))
    rw [qualifiers, qualifier?_eq_none_of_isInfix name.isInfix hdot, qualifiersOfArgs,
      derives.qualifiers_eq_nil hfirst,
      args.qualifiers_eq_nil fun h => hfirst (derives.suffix.subset h)]
    rfl
  | .plain name _, hdot => by
    rw [qualifiers, qualifier?_eq_none_of_isInfix name.isInfix hdot]
    rfl
  | .marked name, hdot => by
    rw [qualifiers,
      qualifier?_eq_none_of_isInfix ((List.prefix_append _ _).isInfix.trans name.isInfix) hdot]
    rfl

theorem DerivesArgs.qualifiers_eq_nil {s r : List Char} {ts : List TypeRef} :
    DerivesArgs s ts r → '.' ∉ s → qualifiersOfArgs ts = []
  | .close _, _ => rfl
  | .more comma derives args, hdot => by
    have hfirst : '.' ∉ _ := fun h => hdot ((suffix_of_token comma).subset h)
    rw [qualifiersOfArgs, derives.qualifiers_eq_nil hfirst,
      args.qualifiers_eq_nil fun h => hfirst (derives.suffix.subset h)]
    rfl

end

/-! ### Plain descriptors -/

theorem ofPlain_toList (s : String) :
    ofPlain s.toList = simple (splitMark s).1 (splitMark s).2 := by
  rw [ofPlain, splitMark]
  split
  · rfl
  · rw [String.ofList_toList]

theorem splitMark_append (s : String) : (splitMark s).1 ++ mark (splitMark s).2 = s := by
  have := text_ofPlain s.toList
  rwa [ofPlain_toList, text, String.ofList_toList] at this

/-- A mark behind a name is split off, and none if the name does not end like a mark. -/
theorem splitMark_append_mark {name : String} {nullable : Bool}
    (h : nullable = false → name.toList.getLast? ≠ some '?') :
    splitMark (name ++ mark nullable) = (name, nullable) := by
  cases nullable with
  | false =>
    rw [mark, if_neg (by decide), String.append_empty, splitMark, if_neg (h rfl)]
  | true =>
    have htext : (name ++ mark true).toList = name.toList ++ ['?'] := String.toList_append ..
    rw [splitMark, htext, List.getLast?_concat, if_pos rfl, List.dropLast_concat,
      String.ofList_toList]

theorem getLast?_ne_of_splitMark {s name : String} (h : splitMark s = (name, false)) :
    name.toList.getLast? ≠ some '?' := by
  rw [splitMark] at h
  split at h
  · cases h
  · next hlast =>
    obtain rfl := (Prod.mk.inj h).1
    exact hlast

/-- A plain name is what stands between the blanks at the ends of its descriptor. -/
theorem ofPlain_trim_eq {d name : String} {nullable : Bool}
    (h : ofDescriptor d = simple name nullable) :
    ofPlain (trim d).toList = simple name nullable := by
  rw [trim, String.toList_ofList]
  by_cases hd : IsDescriptor d
  · obtain ⟨r, hderives, hr⟩ := hd.denotes
    have hplain {n : List Char} (hn : Name d.toList n r) : n = trimBlank d.toList := by
      obtain ⟨-, rfl, hrest⟩ := name_iff.1 hn
      have hnil : r = [] := by
        rw [← hn.skipBlank_rest]
        exact blanks_nil_iff.1 hr
      rw [hnil, afterName] at hrest
      have hsplit := List.takeWhile_append_dropWhile (p := (!isDelimiter ·))
        (l := skipBlank d.toList)
      rw [← hrest, List.append_nil] at hsplit
      rw [nameRun, hsplit, trimBlank_skipBlank]
    rw [h] at hderives
    cases hderives with
    | plain hname unmarked => rw [← hplain hname, ofPlain_of_unmarked unmarked]
    | marked hname => rw [← hplain hname, ofPlain_concat]
  · rwa [ofDescriptor_of_not_denotes hd] at h

/-- A plain descriptor stands for its text without the blanks at its ends, where a last question
mark is the mark. -/
theorem splitMark_trim {d name : String} {nullable : Bool}
    (h : ofDescriptor d = simple name nullable) : splitMark (trim d) = (name, nullable) := by
  have := ofPlain_trim_eq h
  rw [ofPlain_toList] at this
  exact Prod.ext (TypeRef.simple.inj this).1 (TypeRef.simple.inj this).2

theorem append_mark_eq_trim {d name : String} {nullable : Bool}
    (h : ofDescriptor d = simple name nullable) : name ++ mark nullable = trim d := by
  rw [← splitMark_append (trim d), splitMark_trim h]

theorem not_mem_of_ofDescriptor_eq {d name : String} {nullable : Bool}
    (h : ofDescriptor d = simple name nullable) (hdot : '.' ∉ d.toList) : '.' ∉ name.toList := by
  intro hname
  have : '.' ∈ (trim d).toList := by
    rw [← append_mark_eq_trim h, String.toList_append]
    exact List.mem_append_left _ hname
  rw [trim, String.toList_ofList] at this
  exact hdot ((trimBlank_sublist _).subset this)

theorem exists_ofDescriptor_eq_simple {d : String} (hd : ¬IsDescriptor d) :
    ∃ name nullable, ofDescriptor d = simple name nullable := by
  rw [ofDescriptor_of_not_denotes hd]
  exact exists_ofPlain_eq_simple _

/-- A text without dots imports nothing. -/
theorem importsOf_eq_empty {d : String} (hdot : '.' ∉ d.toList) : importsOf d = ∅ := by
  suffices h : (ofDescriptor d).qualifiers = [] by
    rw [importsOf, imports, h]
    rfl
  by_cases hd : IsDescriptor d
  · obtain ⟨r, hderives, -⟩ := hd.denotes
    exact hderives.qualifiers_eq_nil hdot
  · obtain ⟨name, nullable, h⟩ := exists_ofDescriptor_eq_simple hd
    rw [h, qualifiers, qualifier?_eq_none_iff.2 (not_mem_of_ofDescriptor_eq h hdot)]
    rfl

end TypeRef

end ApiProxy
