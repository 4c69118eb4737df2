import ApiProxy.Proofs.TypeRef.Reading

/-!
# Descriptors as a canonical form

The text of a type is derived by the grammar and denotes that type again, provided that the names
in the type could have been read: then printing and reading are inverse to each other. What is
read is always of this kind, or a plain name that stands for a text without a descriptor in it.
So reading and printing once brings every text into a form that stays.

## Main definitions

* `TypeRef.IsName`: a text that can stand as a name in a descriptor.
* `TypeRef.WellFormed`: a type all of whose names can be read.

## Main results

* `TypeRef.WellFormed.denotes_text`: the text of a well-formed type is a descriptor of it.
* `TypeRef.Denotes.wellFormed`: only well-formed types are read from descriptors.
* `TypeRef.ofDescriptor_text_roundTrip`: printing and reading again.
-/

namespace ApiProxy

open Text

namespace TypeRef

/-- A text that can stand as a name: not empty, without blanks at its ends and without
delimiters. -/
def IsName (n : List Char) : Prop :=
  n ≠ [] ∧ trimBlank n = n ∧ ∀ c ∈ n, isDelimiter c = false

instance (n : List Char) : Decidable (IsName n) :=
  decidable_of_iff (n ≠ [] ∧ trimBlank n = n ∧ n.all (!isDelimiter ·) = true)
    (by simp only [IsName, List.all_eq_true, Bool.not_eq_true'])

mutual

/-- A type that a descriptor can denote: its names can stand as names, those of plain types
together with the mark, a plain name without a mark does not end like one with a mark, and an
instantiation has arguments. -/
def WellFormed : TypeRef → Prop
  | simple name nullable =>
    IsName (name.toList ++ (mark nullable).toList) ∧
      (nullable = false → name.toList.getLast? ≠ some '?')
  | array element _ => element.WellFormed
  | dictionary key value _ => key.WellFormed ∧ value.WellFormed
  | generic name args _ => IsName name.toList ∧ args ≠ [] ∧ AllWellFormed args

/-- Types that descriptors can denote. -/
def AllWellFormed : List TypeRef → Prop
  | [] => True
  | t :: ts => t.WellFormed ∧ AllWellFormed ts

end

/-! ### The text of a type is derived -/

theorem IsName.name {n r : List Char} (h : IsName n) (hr : ∀ c ∈ r.head?, isDelimiter c = true) :
    Name (n ++ r) n r := by
  obtain ⟨hne, htrim, hplain⟩ := h
  have hname : Name (n ++ r) (trimBlank n) r := by
    refine .mk (Blanks.refl _) hplain hr ?_
    by_contra hnone
    refine hne (htrim.symm.trans (trimBlank_eq_nil_iff.2 fun c hc => ?_))
    by_contra hb
    exact hnone ⟨c, hc, by simpa using hb⟩
  rwa [htrim] at hname

theorem mark_append (nullable : Bool) (r : List Char) :
    Mark ((mark nullable).toList ++ r) nullable r := by
  cases nullable with
  | false => exact .absent r
  | true => exact .present (Blanks.refl _)

/-- Texts with a comma in front of each. -/
def commaTexts (ds : List String) : List Char :=
  ds.flatMap fun d => ',' :: d.toList

theorem toList_intercalate_comma (d : String) (ds : List String) :
    (",".intercalate (d :: ds)).toList = d.toList ++ commaTexts ds := by
  induction ds generalizing d with
  | nil => simp [commaTexts]
  | cons e es ih =>
    rw [String.intercalate_cons_cons, String.toList_append, String.toList_append, ih]
    simp [commaTexts]

/-- The descriptors of the arguments behind the first one, each behind its comma. -/
def argsText : List TypeRef → List Char
  | [] => []
  | t :: ts => ',' :: (t.text.toList ++ argsText ts)

theorem commaTexts_texts (ts : List TypeRef) : commaTexts (texts ts) = argsText ts := by
  induction ts with
  | nil => rfl
  | cons t ts ih =>
    rw [argsText, ← ih]
    rfl

theorem intercalate_texts (t : TypeRef) (ts : List TypeRef) :
    (",".intercalate (texts (t :: ts))).toList = t.text.toList ++ argsText ts := by
  rw [texts, toList_intercalate_comma, commaTexts_texts]

theorem argsText_head (ts : List TypeRef) (r : List Char) :
    ∀ c ∈ (argsText ts ++ '>' :: r).head?, isDelimiter c = true := by
  cases ts with
  | nil => simp [argsText, isDelimiter]
  | cons t ts => simp [argsText, isDelimiter]

mutual

/-- The text of a well-formed type is a derivation of it in front of whatever begins with a
delimiter. -/
theorem derives_text : (t : TypeRef) → t.WellFormed → {r : List Char} →
    (∀ c ∈ r.head?, isDelimiter c = true) → Derives (t.text.toList ++ r) t r
  | simple name false, ⟨hname, hmark⟩, r, hr => by
    simp only [mark, Bool.false_eq_true, if_false, String.toList_empty, List.append_nil] at hname
    have h := Derives.plain (hname.name hr) (hmark rfl)
    rw [String.ofList_toList] at h
    simpa [text, mark] using h
  | simple name true, ⟨hname, _⟩, r, hr => by
    have h := Derives.marked (hname.name hr)
    rw [String.ofList_toList] at h
    simpa [text] using h
  | array element nullable, h, r, _ => by
    have hclose : Token ']' (']' :: ((mark nullable).toList ++ r)) ((mark nullable).toList ++ r) :=
      Blanks.refl _
    have := Derives.array (Blanks.refl _) (derives_text element h (by simp [isDelimiter])) hclose
      (mark_append nullable r)
    simpa [text] using this
  | dictionary key value nullable, ⟨hkey, hvalue⟩, r, _ => by
    have hclose : Token '\x7d' ('\x7d' :: ((mark nullable).toList ++ r))
        ((mark nullable).toList ++ r) := Blanks.refl _
    have := Derives.dictionary (Blanks.refl _) (derives_text key hkey (by simp [isDelimiter]))
      (Blanks.refl _) (derives_text value hvalue (by simp [isDelimiter])) hclose
      (mark_append nullable r)
    simpa [text] using this
  | generic name [] nullable, ⟨_, hargs, _⟩, r, _ => absurd rfl hargs
  | generic name (t :: ts) nullable, ⟨hname, _, ht, hts⟩, r, _ => by
    have := Derives.generic (hname.name (by simp [isDelimiter]))
      (derives_text t ht (argsText_head ts ((mark nullable).toList ++ r)))
      (derivesArgs_argsText ts hts) (mark_append nullable r)
    rw [String.ofList_toList] at this
    simpa [text, -String.toList_intercalate, intercalate_texts] using this

theorem derivesArgs_argsText : (ts : List TypeRef) → AllWellFormed ts → {r : List Char} →
    DerivesArgs (argsText ts ++ '>' :: r) ts r
  | [], _, r => .close (Blanks.refl _)
  | t :: ts, ⟨ht, hts⟩, r => by
    have := DerivesArgs.more (Blanks.refl _) (derives_text t ht (argsText_head ts r))
      (derivesArgs_argsText ts hts)
    simpa [argsText] using this

end

/-- The text of a well-formed type is a descriptor of it. -/
theorem WellFormed.denotes_text {t : TypeRef} (h : t.WellFormed) : Denotes t.text.toList t := by
  have := derives_text t h (r := []) (by simp)
  rw [List.append_nil] at this
  exact ⟨[], this, Blanks.refl _⟩

/-! ### Only well-formed types are derived -/

theorem Name.isName {s n r : List Char} (h : Name s n r) : IsName n := by
  refine ⟨(name_iff.1 h).1, ?_, ?_⟩
  · obtain ⟨-, rfl, -⟩ := name_iff.1 h
    exact trimBlank_trimBlank _
  · obtain ⟨_, plain, _, _⟩ := h
    exact fun c hc => plain c ((trimBlank_sublist _).subset hc)

mutual

/-- A type that stands in front of a text by the grammar is well-formed. -/
theorem Derives.wellFormed {s r : List Char} {t : TypeRef} : Derives s t r → t.WellFormed
  | .array _ derives _ _ => derives.wellFormed
  | .dictionary _ derivesKey _ derivesValue _ _ => ⟨derivesKey.wellFormed, derivesValue.wellFormed⟩
  | .generic name derives args _ => by
    refine ⟨?_, List.cons_ne_nil _ _, derives.wellFormed, args.wellFormed⟩
    rw [String.toList_ofList]
    exact name.isName
  | .plain name unmarked => by
    simpa [WellFormed, mark] using ⟨name.isName, unmarked⟩
  | .marked name => by
    simpa [WellFormed, mark] using name.isName

theorem DerivesArgs.wellFormed {s r : List Char} {ts : List TypeRef} :
    DerivesArgs s ts r → AllWellFormed ts
  | .close _ => trivial
  | .more _ derives args => ⟨derives.wellFormed, args.wellFormed⟩

end

theorem Denotes.wellFormed {s : List Char} {t : TypeRef} (h : Denotes s t) : t.WellFormed := by
  obtain ⟨r, hderives, -⟩ := h
  exact hderives.wellFormed

/-! ### Blanks around a descriptor -/

theorem Name.append {s n r : List Char} (h : Name s n r) (hr : r ≠ []) (x : List Char) :
    Name (s ++ x) n (r ++ x) := by
  obtain ⟨⟨ws, hws, rfl⟩, plain, maximal, visible⟩ := h
  refine .mk ⟨ws, hws, by simp⟩ plain (fun c hc => maximal c ?_) visible
  cases r with
  | nil => exact absurd rfl hr
  | cons d r => simpa using hc

theorem Name.append_blank {s n x : List Char} (h : Name s n []) (hx : ∀ c ∈ x, isBlank c) :
    Name (s ++ x) n [] := by
  obtain ⟨⟨ws, hws, rfl⟩, plain, maximal, visible⟩ := h
  rename_i run
  rw [← trimBlank_append hx]
  refine .mk ⟨ws, hws, by simp⟩ (fun c hc => ?_) maximal ?_
  · rcases List.mem_append.1 hc with hc | hc
    · exact plain c hc
    · by_contra hd
      have := isBlank_of_isDelimiter (c := c) (by simpa using hd)
      simp [hx c hc] at this
  · obtain ⟨c, hc, hb⟩ := visible
    exact ⟨c, List.mem_append_left x hc, hb⟩

theorem token_append {c : Char} {s r : List Char} (h : Token c s r) (x : List Char) :
    Token c (s ++ x) (r ++ x) := by
  obtain ⟨ws, hws, rfl⟩ := h
  exact ⟨ws, hws, by simp⟩

theorem Mark.append {s r : List Char} {nullable : Bool} (h : Mark s nullable r) (x : List Char) :
    Mark (s ++ x) nullable (r ++ x) := by
  cases h with
  | absent => exact .absent _
  | present ht => exact .present (token_append ht x)

theorem ne_nil_of_token {c : Char} {s r : List Char} (h : Token c s r) : s ≠ [] := by
  obtain ⟨ws, -, rfl⟩ := h
  simp

theorem DerivesArgs.ne_nil {s r : List Char} {ts : List TypeRef} (h : DerivesArgs s ts r) :
    s ≠ [] := by
  cases h with
  | close closing => exact ne_nil_of_token closing
  | more comma => exact ne_nil_of_token comma

mutual

/-- A derivation stands in front of every longer text, unless it is that of a plain name which
would go on. -/
theorem Derives.append {s r : List Char} {t : TypeRef} (x : List Char) :
    Derives s t r → (∀ name nullable, t = simple name nullable → r ≠ []) →
      Derives (s ++ x) t (r ++ x)
  | .array opening derives closing mark, _ =>
    .array (token_append opening x) (derives.append x fun _ _ _ => ne_nil_of_token closing)
      (token_append closing x) (mark.append x)
  | .dictionary opening derivesKey colon derivesValue closing mark, _ =>
    .dictionary (token_append opening x) (derivesKey.append x fun _ _ _ => ne_nil_of_token colon)
      (token_append colon x) (derivesValue.append x fun _ _ _ => ne_nil_of_token closing)
      (token_append closing x) (mark.append x)
  | .generic name derives args mark, _ =>
    .generic (name.append (List.cons_ne_nil _ _) x) (derives.append x fun _ _ _ => args.ne_nil)
      (args.append x) (mark.append x)
  | .plain name unmarked, hr => .plain (name.append (hr _ _ rfl) x) unmarked
  | .marked name, hr => .marked (name.append (hr _ _ rfl) x)

theorem DerivesArgs.append {s r : List Char} {ts : List TypeRef} (x : List Char) :
    DerivesArgs s ts r → DerivesArgs (s ++ x) ts (r ++ x)
  | .close closing => .close (token_append closing x)
  | .more comma derives args =>
    .more (token_append comma x) (derives.append x fun _ _ _ => args.ne_nil) (args.append x)

end

theorem Denotes.append {s x : List Char} {t : TypeRef} (h : Denotes s t)
    (hx : ∀ c ∈ x, isBlank c) : Denotes (s ++ x) t := by
  obtain ⟨r, hderives, ws, hws, rfl⟩ := h
  rw [List.append_nil] at hderives
  by_cases hplain : ∀ name nullable, t = simple name nullable → ws ≠ []
  · refine ⟨ws ++ x, hderives.append x hplain, ws ++ x, fun c hc => ?_, by simp⟩
    rcases List.mem_append.1 hc with hc | hc
    · exact hws c hc
    · exact hx c hc
  · simp only [not_forall, not_not] at hplain
    obtain ⟨name, nullable, rfl, rfl⟩ := hplain
    cases hderives with
    | plain hname unmarked => exact ⟨[], .plain (hname.append_blank hx) unmarked, Blanks.refl _⟩
    | marked hname => exact ⟨[], .marked (hname.append_blank hx), Blanks.refl _⟩

theorem Denotes.of_blanks {s u : List Char} {t : TypeRef} (h : Denotes u t) (hs : Blanks s u) :
    Denotes s t := by
  have token_of {c : Char} {r : List Char} (h : Token c u r) : Token c s r := hs.trans h
  have name_of {n r : List Char} (h : Name u n r) : Name s n r := by
    rw [name_iff, hs.skipBlank_eq]
    exact name_iff.1 h
  obtain ⟨r, hderives, hr⟩ := h
  refine ⟨r, ?_, hr⟩
  cases hderives with
  | array opening derives closing mark => exact .array (token_of opening) derives closing mark
  | dictionary opening derivesKey colon derivesValue closing mark =>
    exact .dictionary (token_of opening) derivesKey colon derivesValue closing mark
  | generic name derives args mark => exact .generic (name_of name) derives args mark
  | plain name unmarked => exact .plain (name_of name) unmarked
  | marked name => exact .marked (name_of name)

theorem Denotes.of_trimBlank {s : List Char} {t : TypeRef} (h : Denotes (trimBlank s) t) :
    Denotes s t := by
  obtain ⟨ws, hws, hblanks⟩ := exists_trimBlank_append s
  exact (h.append hws).of_blanks hblanks

/-! ### Printing and reading again -/

theorem ofDescriptor_text_of_not_denotes {d : String} (h : ¬∃ t, Denotes d.toList t) :
    ofDescriptor (ofDescriptor d).text = ofDescriptor d := by
  have htext : (ofDescriptor d).text.toList = trimBlank d.toList := by
    rw [ofDescriptor_of_not_denotes h, text_ofPlain, String.toList_ofList]
  have htrim : ¬∃ t, Denotes (ofDescriptor d).text.toList t := by
    rw [htext]
    exact fun ⟨t, ht⟩ => h ⟨t, ht.of_trimBlank⟩
  rw [ofDescriptor_of_not_denotes htrim, htext, trimBlank_trimBlank, ofDescriptor_of_not_denotes h]

/-- **Printing and reading again.** The text of what is read from any descriptor is read as the
same type, and so is the text of every well-formed type. -/
theorem ofDescriptor_text_roundTrip :
    (∀ d : String, ofDescriptor (ofDescriptor d).text = ofDescriptor d) ∧
      ∀ t : TypeRef, t.WellFormed → ofDescriptor t.text = t := by
  refine ⟨fun d => ?_, fun t ht => ht.denotes_text.ofDescriptor_eq⟩
  by_cases h : ∃ t, Denotes d.toList t
  · obtain ⟨t, ht⟩ := h
    rw [ht.ofDescriptor_eq]
    exact ht.wellFormed.denotes_text.ofDescriptor_eq
  · exact ofDescriptor_text_of_not_denotes h

/-- A name with a blank and a question mark in it, below all three kinds of brackets. -/
theorem ofDescriptor_text_nested :
    let t := generic "Acme.Pair" [array (simple "Odd? Name" true) false,
      dictionary (simple "System.Guid" false) (simple "T0" true) true] true
    t.WellFormed ∧ ofDescriptor t.text = t := by
  intro t
  have ht : t.WellFormed := by
    simp only [t, WellFormed, AllWellFormed]
    decide
  exact ⟨ht, ofDescriptor_text_roundTrip.2 t ht⟩

end TypeRef

end ApiProxy
