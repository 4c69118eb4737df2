import ApiProxy.Proofs.TypeRef.DisplayName
import ApiProxy.Proofs.TypeRef.RoundTrip

/-!
# Neat texts

A display name is C# text and no descriptor: an array ends in `[]`, and where a dictionary was
stands an instantiation. What survives is a condition on neighbouring characters. In a neat text no
brace is opened, every opened bracket is closed at once, and no blank stands next to a delimiter or
at an end. The display name of a descriptor is neat if no dot of the descriptor has a blank behind
it, since then the last segments begin like words.

Whatever can be read in front of a neat text without dots is made of names and instantiations, and
it is displayed as the text that was read. That the text as a whole is a descriptor is not claimed:
the name of an array is not.

## Main definitions

* `TypeRef.Adjoins`: two characters may stand next to each other.
* `TypeRef.Neat`: all neighbours in a text between two commas may stand next to each other.

## Main results

* `TypeRef.Derives.neat_displayWith`: the display name of a descriptor with tight dots is neat.
* `TypeRef.Derives.eq_displayWith`: what is read from a neat text without dots is displayed as it
  was written.
-/

namespace ApiProxy

open Text

namespace TypeRef

/-- The second character may stand directly behind the first one in a neat text. -/
structure Adjoins (c d : Char) : Prop where
  noBrace : c ≠ '\x7b'
  bracket : c = '[' → d = ']'
  tightBehind : isDelimiter c = true → isBlank d = false
  tightBefore : isBlank c = true → isDelimiter d = false

instance (c d : Char) : Decidable (Adjoins c d) :=
  decidable_of_iff (c ≠ '\x7b' ∧ (c = '[' → d = ']') ∧
      (isDelimiter c = true → isBlank d = false) ∧ (isBlank c = true → isDelimiter d = false))
    ⟨fun ⟨h₁, h₂, h₃, h₄⟩ => ⟨h₁, h₂, h₃, h₄⟩, fun ⟨h₁, h₂, h₃, h₄⟩ => ⟨h₁, h₂, h₃, h₄⟩⟩

/-- A text is neat: between two commas, all its neighbours may stand next to each other. -/
def Neat (s : List Char) : Prop := (',' :: (s ++ [','])).IsChain Adjoins

instance (s : List Char) : Decidable (Neat s) :=
  inferInstanceAs (Decidable (List.IsChain _ _))

section Neat

variable {c d : Char} {s t : List Char}

theorem Adjoins.of_comma (h : Adjoins c ',') (hd : isBlank d = false) : Adjoins c d where
  noBrace := h.noBrace
  bracket hc := absurd (h.bracket hc) (by decide)
  tightBehind _ := hd
  tightBefore hc := absurd (h.tightBefore hc) (by decide)

theorem Adjoins.behind (h : Adjoins ',' d) (hbrace : c ≠ '\x7b') (hbracket : c ≠ '[')
    (hc : isBlank c = false) : Adjoins c d where
  noBrace := hbrace
  bracket hc := absurd hc hbracket
  tightBehind _ := h.tightBehind rfl
  tightBefore hb := absurd (hc.symm.trans hb) (by decide)

/-- A neat text goes on with a character that is not blank and with what may follow this one. -/
theorem Neat.append_cons (hs : Neat s) (hc : isBlank c = false)
    (ht : (c :: (t ++ [','])).IsChain Adjoins) : Neat (s ++ c :: t) := by
  have hsplit : ',' :: (s ++ c :: t ++ [',']) = (',' :: s) ++ c :: (t ++ [',']) := by simp
  obtain ⟨hchain, -, hlast⟩ := List.isChain_append.1 (List.cons_append ▸ hs :
    ((',' :: s) ++ [',']).IsChain Adjoins)
  rw [Neat, hsplit, List.isChain_split]
  refine ⟨List.isChain_append.2 ⟨hchain, .singleton c, fun d hd e he => ?_⟩, ht⟩
  obtain rfl : c = e := by simpa using he
  exact (hlast d hd ',' rfl).of_comma hc

theorem Neat.behind (ht : Neat t) (hbrace : c ≠ '\x7b') (hbracket : c ≠ '[')
    (hc : isBlank c = false) : (c :: (t ++ [','])).IsChain Adjoins := by
  obtain ⟨hhead, hchain⟩ := List.isChain_cons.1 ht
  exact List.isChain_cons.2 ⟨fun d hd => (hhead d hd).behind hbrace hbracket hc, hchain⟩

theorem Neat.append_delimiter (hs : Neat s) (ht : Neat t) (hc : isDelimiter c = true)
    (hbrace : c ≠ '\x7b') (hbracket : c ≠ '[') : Neat (s ++ c :: t) :=
  hs.append_cons (isBlank_of_isDelimiter hc) (ht.behind hbrace hbracket (isBlank_of_isDelimiter hc))

theorem Neat.trimBlank_eq (hs : Neat s) : trimBlank s = s := by
  refine trimBlank_eq_self (fun c hc => ?_) fun c hc => ?_
  · have hadjoins : Adjoins ',' c :=
      (List.isChain_cons.1 hs).1 c (by rw [List.head?_append, Option.mem_def.1 hc]; rfl)
    exact hadjoins.tightBehind rfl
  · have hadjoins : Adjoins c ',' := (List.isChain_append.1 hs.tail).2.2 c hc ',' rfl
    by_contra hblank
    exact absurd (hadjoins.tightBefore (by simpa using hblank)) (by decide)

theorem neat_mark (nullable : Bool) : Neat (mark nullable).toList := by
  cases nullable <;> decide

/-- A text without delimiters is neat if it has no blank at its ends. -/
theorem neat_of_plain (hplain : ∀ c ∈ s, isDelimiter c = false)
    (hhead : ∀ c ∈ s.head?, isBlank c = false) (hlast : ∀ c ∈ s.getLast?, isBlank c = false) :
    Neat s := by
  have hne {c e : Char} (hc : c ∈ s) (he : isDelimiter e = true) : c ≠ e := by
    rintro rfl
    simp [hplain c hc] at he
  have hinner : s.IsChain Adjoins :=
    (List.pairwise_of_forall_mem_list fun c hc d hd =>
      { noBrace := hne hc rfl
        bracket := fun h => absurd h (hne hc rfl)
        tightBehind := fun h => absurd ((hplain c hc).symm.trans h) (by decide)
        tightBefore := fun _ => hplain d hd }).isChain
  refine List.isChain_cons.2 ⟨fun d hd => ?_, List.isChain_append.2
    ⟨hinner, .singleton _, fun c hc d hd => ?_⟩⟩
  · have hblank : isBlank d = false := by
      cases s with
      | nil =>
        obtain rfl : ',' = d := by simpa using hd
        rfl
      | cons c s => exact hhead d (by simpa using hd)
    exact ⟨by decide, nofun, fun _ => hblank, nofun⟩
  · obtain rfl : ',' = d := by simpa using hd
    have hmem := List.mem_of_getLast? hc
    exact ⟨hne hmem rfl, fun h => absurd h (hne hmem rfl), fun _ => rfl,
      fun h => absurd ((hlast c hc).symm.trans h) (by decide)⟩

theorem neat_of_ordinary (h : ∀ c ∈ s, IsOrdinary c) : Neat s :=
  neat_of_plain (fun c hc => (h c hc).2.2.1) (fun c hc => (h c (List.mem_of_head? hc)).2.2.2)
    fun c hc => (h c (List.mem_of_getLast? hc)).2.2.2

theorem Neat.append_commaTexts {ds : List String} (hs : Neat s) (hds : ∀ d ∈ ds, Neat d.toList) :
    Neat (s ++ commaTexts ds) := by
  induction ds generalizing s with
  | nil => simpa [commaTexts] using hs
  | cons d ds ih =>
    obtain ⟨hd, hds⟩ := List.forall_mem_cons.1 hds
    have := ih (hs.append_delimiter hd (c := ',') rfl (by decide) (by decide)) hds
    simpa [commaTexts] using this

end Neat

/-! ### Display names of descriptors are neat -/

theorem IsName.neat_lastSegmentChars {n : List Char} (h : IsName n) (hdots : TightDots n) :
    Neat (lastSegmentChars n) := by
  obtain ⟨-, htrim, hplain⟩ := h
  have hhead := head_trimBlank n
  have hlast := getLast_trimBlank n
  rw [htrim] at hhead hlast
  exact neat_of_plain (fun c hc => hplain c ((lastSegmentChars_suffix n).subset hc))
    (hdots.head_lastSegmentChars hhead) fun c hc => hlast c (getLast_lastSegmentChars hc)

theorem neat_keyword {name keyword : String} (h : keyword? name = some keyword) :
    Neat keyword.toList :=
  neat_of_ordinary (isKeywordOf_of_keyword? h).ordinaryKeyword

theorem neat_shortName {n : List Char} (h : IsName n) (hdots : TightDots n) (keywords : Bool) :
    Neat (shortName keywords (String.ofList n)).toList := by
  rcases shortName_cases keywords (String.ofList n) with hkeyword | ⟨hshort, -⟩
  · exact neat_keyword hkeyword
  · rw [hshort, lastSegment, String.toList_ofList, String.toList_ofList]
    exact h.neat_lastSegmentChars hdots

/-- The mark belongs to the name in a descriptor, and the name in front of it may end in a
blank. -/
theorem neat_shortName_marked {n : List Char} (h : IsName (n ++ ['?']))
    (hdots : TightDots (n ++ ['?'])) (keywords : Bool) :
    Neat ((shortName keywords (String.ofList n)).toList ++ ['?']) := by
  rcases shortName_cases keywords (String.ofList n) with hkeyword | ⟨hshort, -⟩
  · exact (neat_keyword hkeyword).append_cons rfl (by decide)
  · rw [hshort, lastSegment, String.toList_ofList, String.toList_ofList,
      ← lastSegmentChars_append n (by decide)]
    exact h.neat_lastSegmentChars hdots

theorem neat_dictionary {k v : String} (nullable : Bool) (hk : Neat k.toList)
    (hv : Neat v.toList) :
    Neat ("Dictionary<" ++ k ++ "," ++ v ++ ">" ++ mark nullable).toList := by
  have hname : Neat "Dictionary".toList := by decide
  have := ((hname.append_delimiter hk (c := '<') rfl (by decide) (by decide)).append_delimiter
    hv (c := ',') rfl (by decide) (by decide)).append_delimiter (neat_mark nullable)
    (c := '>') rfl (by decide) (by decide)
  simpa using this

theorem neat_array {e : String} (nullable : Bool) (he : Neat e.toList) :
    Neat (e ++ "[]" ++ mark nullable).toList := by
  have hclose : ('[' :: ([']'] ++ (mark nullable).toList ++ [','])).IsChain Adjoins := by
    cases nullable <;> decide
  simpa using he.append_cons rfl hclose

theorem neat_generic {name d : String} {ds : List String} (nullable : Bool)
    (hname : Neat name.toList) (hds : ∀ e ∈ d :: ds, Neat e.toList) :
    Neat (name ++ "<" ++ ",".intercalate (d :: ds) ++ ">" ++ mark nullable).toList := by
  obtain ⟨hd, hds⟩ := List.forall_mem_cons.1 hds
  have := ((hname.append_delimiter hd (c := '<') rfl (by decide) (by decide)).append_commaTexts
    hds).append_delimiter (neat_mark nullable) (c := '>') rfl (by decide) (by decide)
  simpa [-String.toList_intercalate, toList_intercalate_comma] using this

mutual

/-- The display name of a descriptor with tight dots is neat. -/
theorem Derives.neat_displayWith {s r : List Char} {t : TypeRef} (keywords : Bool) :
    Derives s t r → TightDots s → Neat (t.displayWith keywords).toList
  | .array opening derives _ _, h =>
    neat_array _
      (derives.neat_displayWith keywords (h.of_isInfix (suffix_of_token opening).isInfix))
  | .dictionary opening derivesKey colon derivesValue _ _, h => by
    have hkey := h.of_isInfix (suffix_of_token opening).isInfix
    have hvalue := hkey.of_isInfix ((suffix_of_token colon).trans derivesKey.suffix).isInfix
    exact neat_dictionary _ (derivesKey.neat_displayWith keywords hkey)
      (derivesValue.neat_displayWith keywords hvalue)
  | .generic name derives args _, h => by
    have hfirst := h.of_isInfix ((List.suffix_cons _ _).trans name.suffix).isInfix
    refine neat_generic _ ?_ (List.forall_mem_cons.2
      ⟨derives.neat_displayWith false hfirst, args.neat_displayArgs
        (hfirst.of_isInfix derives.suffix.isInfix)⟩)
    exact neat_shortName name.isName (h.of_isInfix name.isInfix) false
  | .plain name _, h => by
    simpa [displayWith, mark] using neat_shortName name.isName (h.of_isInfix name.isInfix) keywords
  | .marked name, h => by
    simpa [displayWith, mark] using
      neat_shortName_marked name.isName (h.of_isInfix name.isInfix) keywords

theorem DerivesArgs.neat_displayArgs {s r : List Char} {ts : List TypeRef} :
    DerivesArgs s ts r → TightDots s → ∀ d ∈ displayArgs ts, Neat d.toList
  | .close _, _ => by simp [displayArgs]
  | .more comma derives args, h => by
    have hfirst := h.of_isInfix (suffix_of_token comma).isInfix
    exact List.forall_mem_cons.2 ⟨derives.neat_displayWith false hfirst,
      args.neat_displayArgs (hfirst.of_isInfix derives.suffix.isInfix)⟩

end

/-! ### What is read from neat texts -/

section Reading

variable {c : Char} {s r : List Char}

theorem eq_of_blanks (h : Blanks s r) (hc : isDelimiter c = true)
    (hs : (c :: (s ++ [','])).IsChain Adjoins) : s = r := by
  obtain ⟨ws, hws, rfl⟩ := h
  cases ws with
  | nil => rfl
  | cons w ws =>
    have hadjoins : Adjoins c w := (List.isChain_cons_cons.1 hs).1
    exact absurd ((hadjoins.tightBehind hc).symm.trans (hws w List.mem_cons_self)) (by decide)

theorem eq_nil_of_blanks {ws : List Char} (hws : ∀ d ∈ ws, isBlank d) (hc : isDelimiter c = true)
    (hs : (ws ++ c :: s).IsChain Adjoins) : ws = [] := by
  rcases List.eq_nil_or_concat ws with rfl | ⟨front, w, rfl⟩
  · rfl
  · have hadjoins : Adjoins w c := by
      have hpair : [w, c].IsChain Adjoins := List.IsChain.infix hs ⟨front, s, by simp⟩
      exact (List.isChain_cons_cons.1 hpair).1
    have hw : isBlank w = true := hws w (by simp)
    exact absurd ((hadjoins.tightBefore hw).symm.trans hc) (by decide)

theorem eq_cons_of_token (h : Token c s r) (hc : isDelimiter c = true)
    (hs : (s ++ [',']).IsChain Adjoins) : s = c :: r := by
  obtain ⟨ws, hws, rfl⟩ := h
  rw [eq_nil_of_blanks hws hc (s := r ++ [',']) (by simpa using hs), List.nil_append]

theorem Mark.eq_append {nullable : Bool} (h : Mark s nullable r) (hc : isDelimiter c = true)
    (hs : (c :: (s ++ [','])).IsChain Adjoins) : s = (mark nullable).toList ++ r := by
  cases h with
  | absent => rfl
  | present ht => exact eq_of_blanks ht hc hs

theorem Name.eq_append {n : List Char} (h : Name s n r) (hc : isDelimiter c = true)
    (hs : (c :: (s ++ [','])).IsChain Adjoins) : s = n ++ r := by
  obtain ⟨d, u, hnext, hd⟩ : ∃ d u, r ++ [','] = d :: u ∧ isDelimiter d = true := by
    cases r with
    | nil => exact ⟨',', [], rfl, rfl⟩
    | cons d r => exact ⟨d, r ++ [','], rfl, h.head d rfl⟩
  obtain ⟨ws, vs, hws, hvs, hsplit⟩ := h.exists_eq_append
  have hfront : s = n ++ (vs ++ r) := eq_of_blanks ⟨ws, hws, hsplit⟩ hc hs
  have hback : (vs ++ d :: u).IsChain Adjoins := by
    refine List.IsChain.infix hs ⟨c :: n, [], ?_⟩
    rw [hfront, ← hnext]
    simp
  rw [hfront, eq_nil_of_blanks hvs hd hback, List.nil_append]

theorem not_derives_of_closing {u : List Char} {t : TypeRef} : ¬Derives (']' :: u) t r := by
  have htoken {d : Char} {x : List Char} (h : Token d (']' :: u) x) (hd : isBlank d = false)
      (hne : d ≠ ']') : False := by
    have := (token_iff hd).1 h
    rw [skipBlank_cons (by decide)] at this
    exact hne (List.cons.inj this).1.symm
  have hname {n x : List Char} (h : Name (']' :: u) n x) : False := by
    obtain ⟨hne, rfl, -⟩ := name_iff.1 h
    rw [skipBlank_cons (by decide), nameRun, List.takeWhile_cons_of_neg (by decide)] at hne
    exact hne rfl
  intro h
  cases h with
  | array opening => exact htoken opening (by decide) (by decide)
  | dictionary opening => exact htoken opening (by decide) (by decide)
  | generic name => exact hname name
  | plain name => exact hname name
  | marked name => exact hname name

/-- No array is read from a neat text: where one is opened it is closed at once. -/
theorem not_derives_of_opening {u : List Char} {t : TypeRef} (h : Token '[' s u)
    (hs : (s ++ [',']).IsChain Adjoins) : ¬Derives u t r := by
  rw [eq_cons_of_token h rfl hs] at hs
  cases u with
  | nil => exact absurd ((List.isChain_cons_cons.1 hs).1.bracket rfl) (by decide)
  | cons d u =>
    obtain rfl := (List.isChain_cons_cons.1 hs).1.bracket rfl
    exact not_derives_of_closing

theorem not_token_of_neat (hs : (s ++ [',']).IsChain Adjoins) : ¬Token '\x7b' s r := by
  intro h
  rw [eq_cons_of_token h rfl hs] at hs
  obtain ⟨d, u, hnext⟩ := List.exists_cons_of_ne_nil (List.concat_ne_nil ',' r)
  rw [List.cons_append, hnext] at hs
  exact (List.isChain_cons_cons.1 hs).1.noBrace rfl

theorem isChain_of_eq_append {x y : List Char} (h : s = x ++ y)
    (hs : (s ++ [',']).IsChain Adjoins) : (y ++ [',']).IsChain Adjoins :=
  hs.suffix ⟨x, by rw [h, List.append_assoc]⟩

theorem lastSegment_of_isInfix {n : List Char} (h : n <:+: s) (hdot : '.' ∉ s) :
    lastSegment (String.ofList n) = String.ofList n :=
  lastSegment_of_not_mem (by rw [String.toList_ofList]; exact fun hn => hdot (h.subset hn))

end Reading

mutual

/-- What is read from a neat text without dots is displayed as it was written. -/
theorem Derives.eq_displayWith {c : Char} {s r : List Char} {t : TypeRef} :
    Derives s t r → isDelimiter c = true → (c :: (s ++ [','])).IsChain Adjoins → '.' ∉ s →
      s = (t.displayWith false).toList ++ r
  | .array opening derives _ _, _, hs, _ =>
    absurd derives (not_derives_of_opening opening hs.tail)
  | .dictionary opening _ _ _ _ _, _, hs, _ => absurd opening (not_token_of_neat hs.tail)
  | .generic name derives args mark, hc, hs, hdot => by
    have hname := name.eq_append hc hs
    have hdotFirst := fun h => hdot (name.suffix.subset (List.mem_cons_of_mem _ h))
    have hchain := isChain_of_eq_append hname hs.tail
    have hfirst := derives.eq_displayWith rfl hchain hdotFirst
    have hchainArgs := isChain_of_eq_append hfirst hchain.tail
    have hargs := args.eq_displayArgs hchainArgs fun h => hdotFirst (derives.suffix.subset h)
    have hmark := mark.eq_append rfl (isChain_of_eq_append hargs hchainArgs)
    conv_lhs => rw [hname, hfirst, hargs, hmark]
    simp [displayWith, displayArgs, lastSegment_of_isInfix name.isInfix hdot,
      -String.toList_intercalate, toList_intercalate_comma]
  | .plain name _, hc, hs, hdot => by
    conv_lhs => rw [name.eq_append hc hs]
    simp [displayWith, shortName, TypeRef.mark, lastSegment_of_isInfix name.isInfix hdot]
  | .marked name, hc, hs, hdot => by
    have hfront := (List.prefix_append _ ['?']).isInfix.trans name.isInfix
    conv_lhs => rw [name.eq_append hc hs]
    simp [displayWith, shortName, TypeRef.mark, lastSegment_of_isInfix hfront hdot]

theorem DerivesArgs.eq_displayArgs {s r : List Char} {ts : List TypeRef} :
    DerivesArgs s ts r → (s ++ [',']).IsChain Adjoins → '.' ∉ s →
      s = commaTexts (displayArgs ts) ++ '>' :: r
  | .close closing, hs, _ => eq_cons_of_token closing rfl hs
  | .more comma derives args, hs, hdot => by
    have hcomma := eq_cons_of_token comma rfl hs
    have hdotFirst := fun h => hdot ((suffix_of_token comma).subset h)
    have hchain := isChain_of_eq_append (x := []) hcomma hs
    have hfirst := derives.eq_displayWith rfl hchain hdotFirst
    have hargs := args.eq_displayArgs (isChain_of_eq_append hfirst hchain.tail)
      fun h => hdotFirst (derives.suffix.subset h)
    conv_lhs => rw [hcomma, hfirst, hargs]
    simp [commaTexts, displayArgs]

end

end TypeRef

end ApiProxy
