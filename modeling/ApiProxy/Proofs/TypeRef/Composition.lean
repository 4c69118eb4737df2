import ApiProxy.Proofs.TypeRef.DisplayName
import ApiProxy.Proofs.TypeRef.RoundTrip
import Mathlib.Data.List.Sort

/-!
# Resolution is compositional

A descriptor stands for the same type wherever it is embedded: whatever follows it within a
larger descriptor begins with a delimiter, and no delimiter lets a type go on. So the display name
and the imports of an array, of a dictionary or of an instantiation are put together from those of
the parts, and a closing question mark is all that a nullable type adds. The keywords of built-in
types are given up below an instantiation, and only there.

## Main definitions

* `TypeRef.ResolvesTo`: the display name and the imports of a descriptor, with and without a mark.

## Main results

* `TypeRef.Denotes.derives_cons`: a descriptor stands for its type in front of every delimiter.
* `TypeRef.resolution_compositional`: the laws for arrays, dictionaries and instantiations.
-/

namespace ApiProxy

open Text

theorem ImportSet.eq_of_mem_iff {s t : ImportSet} (h : ∀ n, n ∈ s ↔ n ∈ t) : s = t := by
  obtain ⟨ns, hns, _⟩ := s
  obtain ⟨ms, hms, _⟩ := t
  obtain rfl : ns = ms := hns.eq_of_mem_iff hms h
  rfl

namespace TypeRef

/-! ### Descriptors within descriptors -/

theorem Name.append_cons {s n x : List Char} {c : Char} (h : Name s n [])
    (hc : isDelimiter c = true) : Name (s ++ c :: x) n (c :: x) := by
  obtain ⟨⟨ws, hws, rfl⟩, plain, -, visible⟩ := h
  exact .mk ⟨ws, hws, by simp⟩ plain (by simpa using hc) visible

/-- In front of a delimiter stands what a descriptor denotes alone, with the blanks that may
follow it. -/
theorem Denotes.derives_cons {s x : List Char} {c : Char} {t : TypeRef} (h : Denotes s t)
    (hc : isDelimiter c = true) : ∃ r, Derives (s ++ c :: x) t r ∧ Token c r x := by
  obtain ⟨r, hderives, ws, hws, rfl⟩ := h
  rw [List.append_nil] at hderives
  by_cases hplain : ∀ name nullable, t = simple name nullable → ws ≠ []
  · exact ⟨_, hderives.append (c :: x) hplain, ws, hws, rfl⟩
  · -- a plain name at the end of its text would go on, but for the delimiter
    simp only [not_forall, not_not] at hplain
    obtain ⟨name, nullable, rfl, rfl⟩ := hplain
    refine ⟨c :: x, ?_, Blanks.refl _⟩
    cases hderives with
    | plain hname unmarked => exact .plain (hname.append_cons hc) unmarked
    | marked hname => exact .marked (hname.append_cons hc)

theorem exists_commaTexts_append (ds : List String) (x : List Char) :
    ∃ c y, commaTexts ds ++ '>' :: x = c :: y ∧ isDelimiter c = true := by
  cases ds with
  | nil => exact ⟨'>', x, rfl, rfl⟩
  | cons d ds => exact ⟨',', _, rfl, rfl⟩

/-- Descriptors behind commas, up to the closing bracket, are the arguments that they denote. -/
theorem derivesArgs_commaTexts {x : List Char} (ds : List String) (hds : ∀ d ∈ ds, IsDescriptor d)
    {s : List Char} (hs : Blanks s (commaTexts ds ++ '>' :: x)) :
    DerivesArgs s (ds.map ofDescriptor) x := by
  induction ds generalizing s with
  | nil => exact .close hs
  | cons d ds ih =>
    obtain ⟨hd, hds⟩ := List.forall_mem_cons.1 hds
    obtain ⟨c, y, hnext, hc⟩ := exists_commaTexts_append ds x
    obtain ⟨r, hderives, hr⟩ := hd.denotes.derives_cons (x := y) hc
    have hcomma : Token ',' s (d.toList ++ c :: y) := by
      simpa [commaTexts, Token, ← hnext] using hs
    exact .more hcomma hderives (ih hds (hnext ▸ hr))

section Embedding

variable {m : List Char} {nullable : Bool}

theorem IsDescriptor.denotes_array {d : String} (h : IsDescriptor d) (hm : Mark m nullable []) :
    Denotes ('[' :: (d.toList ++ ']' :: m)) (.array (ofDescriptor d) nullable) := by
  obtain ⟨r, hderives, hclose⟩ := h.denotes.derives_cons (x := m) (c := ']') rfl
  exact ⟨[], .array (Blanks.refl _) hderives hclose hm, Blanks.refl _⟩

theorem IsDescriptor.denotes_dictionary {k v : String} (hk : IsDescriptor k) (hv : IsDescriptor v)
    (hm : Mark m nullable []) :
    Denotes ('\x7b' :: (k.toList ++ ':' :: (v.toList ++ '\x7d' :: m)))
      (.dictionary (ofDescriptor k) (ofDescriptor v) nullable) := by
  obtain ⟨r, hvalue, hclose⟩ := hv.denotes.derives_cons (x := m) (c := '\x7d') rfl
  obtain ⟨r', hkey, hcolon⟩ :=
    hk.denotes.derives_cons (x := v.toList ++ '\x7d' :: m) (c := ':') rfl
  exact ⟨[], .dictionary (Blanks.refl _) hkey hcolon hvalue hclose hm, Blanks.refl _⟩

theorem denotes_generic {name : String} (hblank : allBlank name = false)
    (hplain : ∀ c ∈ name.toList, isDelimiter c = false) {d : String} {ds : List String}
    (hds : ∀ e ∈ d :: ds, IsDescriptor e) (hm : Mark m nullable []) :
    Denotes (name.toList ++ '<' :: (d.toList ++ commaTexts ds ++ '>' :: m))
      (.generic (trim name) ((d :: ds).map ofDescriptor) nullable) := by
  have hname (x : List Char) :
      Name (name.toList ++ '<' :: x) (trimBlank name.toList) ('<' :: x) := by
    refine .mk (Blanks.refl _) hplain (by simp [isDelimiter]) ?_
    simpa [allBlank, List.all_eq_false] using hblank
  obtain ⟨hd, hds⟩ := List.forall_mem_cons.1 hds
  obtain ⟨c, y, hnext, hc⟩ := exists_commaTexts_append ds m
  obtain ⟨r, hderives, hr⟩ := hd.denotes.derives_cons (x := y) hc
  rw [List.append_assoc, hnext]
  exact ⟨[], .generic (hname _) hderives (derivesArgs_commaTexts ds hds (hnext ▸ hr)) hm,
    Blanks.refl _⟩

end Embedding

/-! ### Names and imports of composite types -/

/-- The display name of a descriptor within the arguments of a generic type: no keywords are
used. -/
def argumentNameOf (d : String) : String :=
  (ofDescriptor d).displayWith false

theorem mem_namespaces_importsOf {d n : String} :
    n ∈ (importsOf d).namespaces ↔ n ∈ (ofDescriptor d).qualifiers ∧ allBlank n = false :=
  ImportSet.mem_ofList

/-- A descriptor has a display name and imports, and the descriptor with a closing question mark
has the same name with this mark and the same imports. -/
structure ResolvesTo (d name : String) (imports : ImportSet) : Prop where
  name_eq : displayNameOf d = name
  imports_eq : importsOf d = imports
  name_marked : displayNameOf (d ++ "?") = name ++ "?"
  imports_marked : importsOf (d ++ "?") = imports

/-- What a string denotes without a mark and with it determines how it is resolved. -/
theorem resolvesTo_of_denotes {d name : String} {t : Bool → TypeRef}
    (h : ∀ b m, Mark m b [] → Denotes (d.toList ++ m) (t b))
    (hname : ∀ b, (t b).displayName = name ++ mark b)
    (himports : (t true).qualifiers = (t false).qualifiers) :
    ResolvesTo d name (t false).imports := by
  have hplain : ofDescriptor d = t false := by
    refine Denotes.ofDescriptor_eq ?_
    simpa using h false [] (.absent _)
  have hmarked : ofDescriptor (d ++ "?") = t true := by
    refine Denotes.ofDescriptor_eq ?_
    rw [String.toList_append]
    exact h true _ (.present (Blanks.refl _))
  refine ⟨?_, ?_, ?_, ?_⟩
  · rw [displayNameOf, hplain, hname, mark, if_neg (by decide), String.append_empty]
  · rw [importsOf, hplain]
  · rw [displayNameOf, hmarked, hname, mark, if_pos rfl]
  · rw [importsOf, hmarked, imports, imports, himports]

/-- **Resolution is compositional.** An array is resolved as its elements are, with the suffix of
an array; a dictionary as its keys and values are, with the imports of both; and an instantiation
has the last segment of its name, its arguments without keywords, and the imports of all of them
with the namespace of the name. A closing question mark is added to the name and nothing else. -/
theorem resolution_compositional :
    (∀ d, IsDescriptor d →
      ResolvesTo ("[" ++ d ++ "]") (displayNameOf d ++ "[]") (importsOf d)) ∧
    (∀ k v, IsDescriptor k → IsDescriptor v →
      ResolvesTo ("\x7b" ++ k ++ ":" ++ v ++ "\x7d")
        ("Dictionary<" ++ displayNameOf k ++ "," ++ displayNameOf v ++ ">")
        (importsOf k ∪ importsOf v)) ∧
    ∀ name ds, allBlank name = false → (∀ c ∈ name.toList, isDelimiter c = false) →
      ds ≠ [] → (∀ d ∈ ds, IsDescriptor d) →
      ResolvesTo (name ++ "<" ++ ",".intercalate ds ++ ">")
        (lastSegment (trim name) ++ "<" ++ ",".intercalate (ds.map argumentNameOf) ++ ">")
        (.ofList ((qualifier? (trim name)).toList ++
          ds.flatMap fun d => (importsOf d).namespaces)) := by
  refine ⟨fun d hd => ?_, fun k v hk hv => ?_, fun name ds hblank hplain hne hds => ?_⟩
  · refine resolvesTo_of_denotes (t := .array (ofDescriptor d))
      (fun b m hm => ?_) (fun b => rfl) rfl
    simpa using hd.denotes_array hm
  · have himports : importsOf k ∪ importsOf v =
        (dictionary (ofDescriptor k) (ofDescriptor v) false).imports := by
      refine ImportSet.eq_of_mem_iff fun n => ?_
      simp only [ImportSet.mem_union, importsOf, imports, ImportSet.mem_ofList, qualifiers,
        List.mem_append, or_and_right]
    rw [himports]
    refine resolvesTo_of_denotes (t := .dictionary (ofDescriptor k) (ofDescriptor v))
      (fun b m hm => ?_) (fun b => rfl) rfl
    simpa using hk.denotes_dictionary hv hm
  · obtain ⟨d, ds, rfl⟩ := List.exists_cons_of_ne_nil hne
    have himports : ImportSet.ofList ((qualifier? (trim name)).toList ++
          (d :: ds).flatMap fun d => (importsOf d).namespaces) =
        (generic (trim name) ((d :: ds).map ofDescriptor) false).imports := by
      refine ImportSet.eq_of_mem_iff fun n => ?_
      rw [imports, ImportSet.mem_ofList, ImportSet.mem_ofList, qualifiers,
        qualifiersOfArgs_eq_flatMap, List.flatMap_map]
      refine and_congr_left fun hn => ?_
      simp only [List.mem_append, List.mem_flatMap, mem_namespaces_importsOf, hn, and_true]
    rw [himports]
    refine resolvesTo_of_denotes (t := .generic (trim name) ((d :: ds).map ofDescriptor))
      (fun b m hm => ?_) (fun b => ?_) rfl
    · have := denotes_generic hblank hplain hds hm
      simpa [-String.toList_intercalate, toList_intercalate_comma] using this
    · rw [displayName, displayWith, displayArgs_eq_map, List.map_map]
      rfl

/-- Below an instantiation the keyword of `System.String` is given up, below an array and a
dictionary it is not; blanks around the parts do not matter. -/
theorem resolution_compositional_pair :
    IsDescriptor " Acme.Book? " ∧ IsDescriptor "System.String" ∧ IsDescriptor "[System.String]" ∧
      IsDescriptor "\x7bSystem.String: Acme.Book? \x7d" ∧
      (allBlank " Acme.Pair " = false ∧ ∀ c ∈ " Acme.Pair ".toList, isDelimiter c = false) ∧
      ResolvesTo "[System.String]" "string[]" (.ofList ["System"]) ∧
      ResolvesTo "\x7bSystem.String: Acme.Book? \x7d" "Dictionary<string,Book?>"
        (.ofList ["Acme", "System"]) ∧
      ResolvesTo " Acme.Pair <[System.String],\x7bSystem.String: Acme.Book? \x7d>"
        "Pair<String[],Dictionary<String,Book?>>" (.ofList ["Acme", "System"]) := by
  have hbook : IsDescriptor " Acme.Book? " := by decide +kernel
  have htext : IsDescriptor "System.String" := by decide +kernel
  have harray : IsDescriptor "[System.String]" := by decide +kernel
  have hdictionary : IsDescriptor "\x7bSystem.String: Acme.Book? \x7d" := by decide +kernel
  have hname : allBlank " Acme.Pair " = false ∧
    ∀ c ∈ " Acme.Pair ".toList, isDelimiter c = false :=
    ⟨by decide, List.all_iff_forall_prop.1 (by decide)⟩
  refine ⟨hbook, htext, harray, hdictionary, hname, ?_, ?_, ?_⟩
  · convert resolution_compositional.1 _ htext using 1 <;> decide +kernel
  · convert resolution_compositional.2.1 _ _ htext hbook using 1 <;> decide +kernel
  · convert resolution_compositional.2.2 " Acme.Pair "
      ["[System.String]", "\x7bSystem.String: Acme.Book? \x7d"] hname.1 hname.2
      (List.cons_ne_nil _ _) (by simp [harray, hdictionary]) using 1 <;> decide +kernel

end TypeRef

end ApiProxy
