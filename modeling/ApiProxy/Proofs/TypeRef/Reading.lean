import ApiProxy.Proofs.TypeRef.Grammar

/-!
# Descriptors are read by their grammar

The reader commits itself to a production with one character of look-ahead and never goes back.
Each of its steps is one production of the grammar, and of two derivations in front of a text it
finds the one that whatever follows a type within a descriptor allows. So there is only one such
derivation, and a text is read as a whole if and only if it is a descriptor.

## Main definitions

* `TypeRef.Reads`, `TypeRef.ReadsArgs`: what the readers find in front of a text.
* `TypeRef.IsDescriptor`: a string is accepted by the grammar.

## Main results

* `TypeRef.derives_of_reads`: what is read is derived.
* `TypeRef.Derives.reads`: what is derived is read.
* `TypeRef.ofDescriptor?_reads_grammar`: both, and uniqueness, for whole texts.
-/

namespace ApiProxy

open Text

namespace TypeRef

/-- A type is read in front of a text. -/
def Reads (s : List Char) (t : TypeRef) (r : List Char) : Prop :=
  ∃ h : r.length < s.length, read? s = some (t, ⟨r, h⟩)

/-- The arguments behind the first one are read in front of a text. -/
def ReadsArgs (s : List Char) (ts : List TypeRef) (r : List Char) : Prop :=
  ∃ h : r.length < s.length, readArgs? s = some (ts, ⟨r, h⟩)

theorem eat?_eq_some {c : Char} {s : List Char} {r : Rest s} (hc : isBlank c = false) :
    eat? c s = some r ↔ Token c s r.1 := by
  rw [token_iff hc]
  unfold eat?
  split
  · next h => simp [h]
  · next d u h =>
    split
    · next hd => simp [h, hd, Subtype.ext_iff]
    · next hd => simp [h, hd]

theorem eat?_eq_none {c : Char} {s : List Char} (hc : isBlank c = false) :
    eat? c s = none ↔ ∀ r, ¬Token c s r := by
  constructor
  · intro h r ht
    have hlt : r.length < s.length := length_lt_of_skipBlank_eq_cons ((token_iff hc).1 ht)
    have := (eat?_eq_some (r := ⟨r, hlt⟩) hc).2 ht
    simp [h] at this
  · intro h
    cases he : eat? c s with
    | none => rfl
    | some r => exact absurd ((eat?_eq_some hc).1 he) (h r.1)

theorem mark_of_eatMark (s : List Char) : Mark s (eatMark s).1 (eatMark s).2.1 := by
  rw [eatMark]
  split
  · next r h => exact .present ((eat?_eq_some (by decide)).1 h)
  · next h => exact .absent s

/-- A mark is taken where the grammar has one, and only there. -/
theorem Mark.eatMark_eq {s r : List Char} {nullable : Bool} (h : Mark s nullable r)
    (hr : Follow r) : (eatMark s).1 = nullable ∧ (eatMark s).2.1 = r := by
  cases h with
  | absent =>
    have hnone : eat? '?' s = none := by
      refine (eat?_eq_none (by decide)).2 fun r ht => ?_
      have := (hr '?' (by simp [(token_iff (by decide)).1 ht])).1
      simp [isDelimiter] at this
    simp [eatMark, hnone, Tail.all]
  | present ht =>
    have hlt := length_lt_of_skipBlank_eq_cons ((token_iff (by decide)).1 ht)
    have hsome : eat? '?' s = some ⟨r, hlt⟩ := (eat?_eq_some (by decide)).2 ht
    simp [eatMark, hsome, Rest.toTail]

/-- A bracket opens an array. -/
theorem reads_iff_of_bracket {s s₁ r : List Char} {t : TypeRef} (h : skipBlank s = '[' :: s₁) :
    Reads s t r ↔ ∃ element s₂ s₃, Reads s₁ element s₂ ∧ Token ']' s₂ s₃ ∧
      t = .array element (eatMark s₃).1 ∧ r = (eatMark s₃).2.1 := by
  unfold Reads
  rw [read?]
  split
  · next h' => simp [h] at h'
  · next c u h' =>
    obtain ⟨rfl, rfl⟩ : '[' = c ∧ s₁ = u := by simpa [h] using h'
    simp only [if_true, Option.bind_eq_bind, Option.bind_eq_some_iff]
    constructor
    · rintro ⟨_, ⟨element, r₁⟩, h₁, r₂, h₂, h₃⟩
      simp only [Option.some.injEq, Prod.mk.injEq, Subtype.mk.injEq] at h₃
      exact ⟨element, r₁.1, r₂.1, ⟨r₁.2, h₁⟩, (eat?_eq_some (by decide)).1 h₂, h₃.1.symm,
        h₃.2.symm⟩
    · rintro ⟨element, s₂, s₃, ⟨h₂, hread⟩, hclose, rfl, rfl⟩
      have h₃ := length_lt_of_skipBlank_eq_cons ((token_iff (by decide)).1 hclose)
      have h₁ := length_lt_of_skipBlank_eq_cons h
      have h₄ := (eatMark s₃).2.2
      have hlt : (eatMark s₃).2.1.length < s.length := by omega
      exact ⟨hlt, (element, ⟨s₂, h₂⟩), hread, ⟨s₃, h₃⟩, (eat?_eq_some (by decide)).2 hclose, rfl⟩

/-- A brace opens a dictionary. -/
theorem reads_iff_of_brace {s s₁ r : List Char} {t : TypeRef} (h : skipBlank s = '\x7b' :: s₁) :
    Reads s t r ↔ ∃ key s₂ s₃ value s₄ s₅, Reads s₁ key s₂ ∧ Token ':' s₂ s₃ ∧
      Reads s₃ value s₄ ∧ Token '\x7d' s₄ s₅ ∧
      t = .dictionary key value (eatMark s₅).1 ∧ r = (eatMark s₅).2.1 := by
  unfold Reads
  rw [read?]
  split
  · next h' => simp [h] at h'
  · next c u h' =>
    obtain ⟨rfl, rfl⟩ : '\x7b' = c ∧ s₁ = u := by simpa [h] using h'
    simp only [Char.reduceEq, if_false, if_true, Option.bind_eq_bind, Option.bind_eq_some_iff]
    constructor
    · rintro ⟨_, ⟨key, r₁⟩, h₁, r₂, h₂, ⟨value, r₃⟩, h₃, r₄, h₄, h₅⟩
      simp only [Option.some.injEq, Prod.mk.injEq, Subtype.mk.injEq] at h₅
      exact ⟨key, r₁.1, r₂.1, value, r₃.1, r₄.1, ⟨r₁.2, h₁⟩, (eat?_eq_some (by decide)).1 h₂,
        ⟨r₃.2, h₃⟩, (eat?_eq_some (by decide)).1 h₄, h₅.1.symm, h₅.2.symm⟩
    · rintro ⟨key, s₂, s₃, value, s₄, s₅, ⟨h₂, hkey⟩, hcolon, ⟨h₄, hvalue⟩, hclose, rfl, rfl⟩
      have h₁ := length_lt_of_skipBlank_eq_cons h
      have h₃ := length_lt_of_skipBlank_eq_cons ((token_iff (by decide)).1 hcolon)
      have h₅ := length_lt_of_skipBlank_eq_cons ((token_iff (by decide)).1 hclose)
      have h₆ := (eatMark s₅).2.2
      have hlt : (eatMark s₅).2.1.length < s.length := by omega
      exact ⟨hlt, (key, ⟨s₂, h₂⟩), hkey, ⟨s₃, h₃⟩, (eat?_eq_some (by decide)).2 hcolon,
        (value, ⟨s₄, h₄⟩), hvalue, ⟨s₅, h₅⟩, (eat?_eq_some (by decide)).2 hclose, rfl⟩

/-- A name that no bracket follows is read as a plain name. -/
theorem reads_iff_of_plain {s n s₀ r : List Char} {t : TypeRef} (h : Name s n s₀)
    (hnone : ∀ s₁, ¬Token '<' s₀ s₁) : Reads s t r ↔ t = ofPlain n ∧ r = s₀ := by
  obtain ⟨c, u, hs, hbracket, hbrace⟩ := h.skipBlank_eq_cons
  obtain ⟨hne, hn, hs₀⟩ := name_iff.1 h
  rw [hs] at hn hs₀
  unfold Reads
  rw [read?]
  split
  · next h' => simp [hs] at h'
  · next c' u' h' =>
    obtain ⟨rfl, rfl⟩ : c = c' ∧ u = u' := by simpa [hs] using h'
    simp only [hbracket, hbrace, if_false, ← hn, hne, dite_false, ← hs₀]
    split
    · next hnot =>
      constructor
      · rintro ⟨_, h₁⟩
        simp only [Option.some.injEq, Prod.mk.injEq, Subtype.mk.injEq] at h₁
        exact ⟨h₁.1.symm, h₁.2.symm⟩
      · rintro ⟨rfl, rfl⟩
        have h₁ := length_afterName_lt (hn ▸ hne)
        have h₂ := length_skipBlank_le s
        rw [← hs₀] at h₁
        rw [hs] at h₂
        exact ⟨by omega, rfl⟩
    · next r₁ hsome =>
      have htoken : Token '<' s₀ r₁.1 := by
        rw [hs₀]
        exact (eat?_eq_some (by decide)).1 hsome
      exact absurd htoken (hnone r₁.1)

/-- A name that a bracket follows is read with its arguments. -/
theorem reads_iff_of_generic {s n s₁ r : List Char} {t : TypeRef} (h : Name s n ('<' :: s₁)) :
    Reads s t r ↔ ∃ first s₂ others s₃, Reads s₁ first s₂ ∧ ReadsArgs s₂ others s₃ ∧
      t = .generic (String.ofList n) (first :: others) (eatMark s₃).1 ∧
      r = (eatMark s₃).2.1 := by
  obtain ⟨c, u, hs, hbracket, hbrace⟩ := h.skipBlank_eq_cons
  obtain ⟨hne, hn, hs₀⟩ := name_iff.1 h
  rw [hs] at hn hs₀
  unfold Reads
  rw [read?]
  split
  · next h' => simp [hs] at h'
  · next c' u' h' =>
    obtain ⟨rfl, rfl⟩ : c = c' ∧ u = u' := by simpa [hs] using h'
    simp only [hbracket, hbrace, if_false, ← hn, hne, dite_false]
    split
    · next hnot =>
      rw [eat?_eq_none (by decide), ← hs₀] at hnot
      exact absurd (Blanks.refl _) (hnot s₁)
    · next r₁ hsome =>
      have htoken : skipBlank ('<' :: s₁) = '<' :: r₁.1 := by
        rw [hs₀]
        exact (token_iff (by decide)).1 ((eat?_eq_some (by decide)).1 hsome)
      obtain ⟨r₁, h₁⟩ := r₁
      rw [skipBlank_cons (by decide)] at htoken
      obtain rfl := (List.cons.inj htoken).2
      simp only [Option.bind_eq_bind, Option.bind_eq_some_iff]
      constructor
      · rintro ⟨_, ⟨first, r₂⟩, h₂, ⟨others, r₃⟩, h₃, h₄⟩
        simp only [Option.some.injEq, Prod.mk.injEq, Subtype.mk.injEq] at h₄
        exact ⟨first, r₂.1, others, r₃.1, ⟨r₂.2, h₂⟩, ⟨r₃.2, h₃⟩, h₄.1.symm, h₄.2.symm⟩
      · rintro ⟨first, s₂, others, s₃, ⟨h₂, hfirst⟩, ⟨h₃, hothers⟩, rfl, rfl⟩
        have h₄ := (eatMark s₃).2.2
        have h₅ := length_lt_of_skipBlank_eq_cons hs
        have h₆ := length_afterName_lt (hn ▸ hne)
        rw [List.length_cons] at h₆
        have hlt : (eatMark s₃).2.1.length < s.length := by omega
        exact ⟨hlt, (first, ⟨s₂, h₂⟩), hfirst, (others, ⟨s₃, h₃⟩), hothers, rfl⟩

/-- Any other character that is not blank begins a name, with arguments or without. -/
theorem name_of_reads {s u r : List Char} {c : Char} {t : TypeRef} (hread : Reads s t r)
    (h : skipBlank s = c :: u) (hbracket : c ≠ '[') (hbrace : c ≠ '\x7b') :
    ∃ n s₀, Name s n s₀ := by
  obtain ⟨_, hread⟩ := hread
  rw [read?] at hread
  split at hread
  · next h' => simp [h] at h'
  · next c' u' h' =>
    obtain ⟨rfl, rfl⟩ : c = c' ∧ u = u' := by simpa [h] using h'
    simp only [hbracket, hbrace, if_false] at hread
    split at hread
    · simp at hread
    · next hne => exact ⟨_, _, name_iff.2 ⟨by rwa [h], rfl, rfl⟩⟩

/-- A comma goes on with another argument. -/
theorem readsArgs_iff_of_comma {s s₁ r : List Char} {ts : List TypeRef} (h : Token ',' s s₁) :
    ReadsArgs s ts r ↔ ∃ arg s₂ others, Reads s₁ arg s₂ ∧ ReadsArgs s₂ others r ∧
      ts = arg :: others := by
  unfold ReadsArgs
  rw [readArgs?]
  split
  · next r₁ hsome =>
    obtain ⟨r₁, h₁⟩ := r₁
    have htoken := (token_iff (by decide)).1 ((eat?_eq_some (by decide)).1 hsome)
    rw [(token_iff (by decide)).1 h] at htoken
    obtain rfl := (List.cons.inj htoken).2
    simp only [Option.bind_eq_bind, Option.bind_eq_some_iff]
    constructor
    · rintro ⟨_, ⟨arg, r₂⟩, h₂, ⟨others, r₃⟩, h₃, h₄⟩
      simp only [Option.some.injEq, Prod.mk.injEq, Subtype.mk.injEq] at h₄
      obtain ⟨rfl, rfl⟩ := h₄
      exact ⟨arg, r₂.1, others, ⟨r₂.2, h₂⟩, ⟨r₃.2, h₃⟩, rfl⟩
    · rintro ⟨arg, s₂, others, ⟨h₂, harg⟩, ⟨h₃, hothers⟩, rfl⟩
      have hlt : r.length < s.length := by omega
      exact ⟨hlt, (arg, ⟨s₂, h₂⟩), harg, (others, ⟨r, h₃⟩), hothers, rfl⟩
  · next hnone => exact absurd h ((eat?_eq_none (by decide)).1 hnone s₁)

theorem readsArgs_iff_of_not_comma {s r : List Char} {ts : List TypeRef}
    (h : ∀ s₁, ¬Token ',' s s₁) : ReadsArgs s ts r ↔ Token '>' s r ∧ ts = [] := by
  unfold ReadsArgs
  rw [readArgs?]
  split
  · next r₁ hsome => exact absurd ((eat?_eq_some (by decide)).1 hsome) (h r₁.1)
  · simp only [Option.bind_eq_bind, Option.bind_eq_some_iff]
    constructor
    · rintro ⟨_, r₁, h₁, h₂⟩
      simp only [Option.some.injEq, Prod.mk.injEq] at h₂
      obtain ⟨rfl, rfl⟩ := h₂
      exact ⟨(eat?_eq_some (by decide)).1 h₁, rfl⟩
    · rintro ⟨hclose, rfl⟩
      have hlt := length_lt_of_skipBlank_eq_cons ((token_iff (by decide)).1 hclose)
      exact ⟨hlt, ⟨r, hlt⟩, (eat?_eq_some (by decide)).2 hclose, rfl⟩

theorem not_reads_of_blank {s r : List Char} {t : TypeRef} (h : skipBlank s = []) :
    ¬Reads s t r := by
  rintro ⟨_, hread⟩
  rw [read?] at hread
  split at hread
  · simp at hread
  · next h' => simp [h] at h'

/-! ### What is read is derived -/

theorem ofPlain_concat (n : List Char) : ofPlain (n ++ ['?']) = simple (String.ofList n) true := by
  rw [ofPlain, List.getLast?_concat, if_pos rfl, List.dropLast_concat]

theorem ofPlain_of_unmarked {n : List Char} (h : n.getLast? ≠ some '?') :
    ofPlain n = simple (String.ofList n) false :=
  if_neg h

theorem Name.derives {s n r : List Char} (h : Name s n r) : Derives s (ofPlain n) r := by
  by_cases hmark : n.getLast? = some '?'
  · obtain ⟨front, rfl⟩ := List.getLast?_eq_some_iff.1 hmark
    rw [ofPlain_concat]
    exact .marked h
  · rw [ofPlain_of_unmarked hmark]
    exact .plain h hmark

/-- What is read in front of a text stands there by the grammar. -/
theorem derives_of_reads :
    (∀ s t r, Reads s t r → Derives s t r) ∧
      ∀ s ts r, ReadsArgs s ts r → DerivesArgs s ts r := by
  refine read?.mutual_induct (fun s => ∀ t r, Reads s t r → Derives s t r)
    (fun s => ∀ ts r, ReadsArgs s ts r → DerivesArgs s ts r) ?_ ?_ ?_ ?_ ?_ ?_ ?_ ?_
  · intro s hs t r h
    exact absurd h (not_reads_of_blank hs)
  · intro s s₁ hs _ ih t r h
    obtain ⟨element, s₂, s₃, hread, hclose, rfl, rfl⟩ := (reads_iff_of_bracket hs).1 h
    exact .array ((token_iff (by decide)).2 hs) (ih _ _ hread) hclose (mark_of_eatMark s₃)
  · intro s s₁ hs _ _ ihkey ihvalue t r h
    obtain ⟨key, s₂, s₃, value, s₄, s₅, hkey, hcolon, hvalue, hclose, rfl, rfl⟩ :=
      (reads_iff_of_brace hs).1 h
    have h₃ := length_lt_of_skipBlank_eq_cons ((token_iff (by decide)).1 hcolon)
    exact .dictionary ((token_iff (by decide)).2 hs) (ihkey _ _ hkey) hcolon
      (ihvalue ⟨s₂, hkey.1⟩ ⟨s₃, h₃⟩ _ _ hvalue) hclose (mark_of_eatMark s₅)
  · intro s c u hs _ hbracket hbrace hblank t r h
    obtain ⟨n, s₀, hname⟩ := name_of_reads h hs hbracket hbrace
    obtain ⟨hne, hn, -⟩ := name_iff.1 hname
    rw [hs, hblank] at hn
    exact absurd hn hne
  · intro s c u hs _ hbracket hbrace _ _ hnone t r h
    obtain ⟨n, s₀, hname⟩ := name_of_reads h hs hbracket hbrace
    have hs₀ := (name_iff.1 hname).2.2
    rw [hs] at hs₀
    subst hs₀
    obtain ⟨rfl, rfl⟩ := (reads_iff_of_plain hname ((eat?_eq_none (by decide)).1 hnone)).1 h
    exact hname.derives
  · intro s c u hs _ hbracket hbrace _ _ r₁ hsome ihfirst ihothers t r h
    obtain ⟨n, s₀, hname⟩ := name_of_reads h hs hbracket hbrace
    have hs₀ : s₀ = '<' :: r₁.1 := by
      rw [← hname.skipBlank_rest, (name_iff.1 hname).2.2, hs]
      exact (token_iff (by decide)).1 ((eat?_eq_some (by decide)).1 hsome)
    subst hs₀
    obtain ⟨first, s₂, others, s₃, hfirst, hothers, rfl, rfl⟩ :=
      (reads_iff_of_generic hname).1 h
    exact .generic hname (ihfirst _ _ hfirst) (ihothers ⟨s₂, hfirst.1⟩ _ _ hothers)
      (mark_of_eatMark s₃)
  · intro s r₁ hsome iharg ihothers ts r h
    obtain ⟨arg, s₂, others, harg, hothers, rfl⟩ :=
      (readsArgs_iff_of_comma ((eat?_eq_some (by decide)).1 hsome)).1 h
    exact .more ((eat?_eq_some (by decide)).1 hsome) (iharg _ _ harg)
      (ihothers ⟨s₂, harg.1⟩ _ _ hothers)
  · intro s hnone ts r h
    obtain ⟨hclose, rfl⟩ :=
      (readsArgs_iff_of_not_comma ((eat?_eq_none (by decide)).1 hnone)).1 h
    exact .close hclose

/-! ### What is derived is read -/

theorem not_token_of_follow {r : List Char} (hr : Follow r) (s : List Char) : ¬Token '<' r s := by
  intro ht
  exact (hr '<' (by simp [(token_iff (by decide)).1 ht])).2 rfl

mutual

/-- A derivation in front of a text is read if the text goes on like a descriptor. -/
theorem Derives.reads {s r : List Char} {t : TypeRef} : Derives s t r → Follow r → Reads s t r
  | .array opening derives closing mark, hr => by
    obtain ⟨rfl, rfl⟩ := mark.eatMark_eq hr
    exact (reads_iff_of_bracket ((token_iff (by decide)).1 opening)).2
      ⟨_, _, _, derives.reads (follow_of_token closing rfl (by decide)), closing, rfl, rfl⟩
  | .dictionary opening derivesKey colon derivesValue closing mark, hr => by
    obtain ⟨rfl, rfl⟩ := mark.eatMark_eq hr
    exact (reads_iff_of_brace ((token_iff (by decide)).1 opening)).2
      ⟨_, _, _, _, _, _, derivesKey.reads (follow_of_token colon rfl (by decide)), colon,
        derivesValue.reads (follow_of_token closing rfl (by decide)), closing, rfl, rfl⟩
  | .generic name derives args mark, hr => by
    obtain ⟨rfl, rfl⟩ := mark.eatMark_eq hr
    exact (reads_iff_of_generic name).2
      ⟨_, _, _, _, derives.reads args.follow, args.reads, rfl, rfl⟩
  | .plain name unmarked, hr =>
    (reads_iff_of_plain name (not_token_of_follow hr)).2 ⟨(ofPlain_of_unmarked unmarked).symm, rfl⟩
  | .marked name, hr =>
    (reads_iff_of_plain name (not_token_of_follow hr)).2 ⟨(ofPlain_concat _).symm, rfl⟩

/-- Arguments with their closing bracket are read whatever follows them. -/
theorem DerivesArgs.reads {s r : List Char} {ts : List TypeRef} :
    DerivesArgs s ts r → ReadsArgs s ts r
  | .close closing => by
    refine (readsArgs_iff_of_not_comma fun s₁ ht => ?_).2 ⟨closing, rfl⟩
    have := ((token_iff (by decide)).1 ht).symm.trans ((token_iff (by decide)).1 closing)
    simp at this
  | .more comma derives args =>
    (readsArgs_iff_of_comma comma).2 ⟨_, _, _, derives.reads args.follow, args.reads, rfl⟩

end

/-! ### Whole texts -/

/-- A text is read as a whole if and only if it is a descriptor by the grammar. -/
theorem ofDescriptor?_eq_some_iff {s : List Char} {t : TypeRef} :
    ofDescriptor? s = some t ↔ Denotes s t := by
  simp only [ofDescriptor?, Option.bind_eq_bind, Option.bind_eq_some_iff]
  constructor
  · rintro ⟨⟨u, r⟩, hread, hend⟩
    split at hend
    · next hblank =>
      obtain rfl := Option.some.inj hend
      exact ⟨r.1, derives_of_reads.1 _ _ _ ⟨r.2, hread⟩, blanks_nil_iff.2 hblank⟩
    · simp at hend
  · rintro ⟨r, hderives, hblank⟩
    obtain ⟨hlt, hread⟩ := hderives.reads (follow_of_blanks hblank)
    exact ⟨(t, ⟨r, hlt⟩), hread, by simp [blanks_nil_iff.1 hblank]⟩

/-- A text is a descriptor of one type at most. -/
theorem Denotes.unique {s : List Char} {t u : TypeRef} (ht : Denotes s t) (hu : Denotes s u) :
    t = u :=
  Option.some.inj <| (ofDescriptor?_eq_some_iff.2 ht).symm.trans (ofDescriptor?_eq_some_iff.2 hu)

/-- A text is not read if it is no descriptor. -/
theorem ofDescriptor?_eq_none_iff {s : List Char} :
    ofDescriptor? s = none ↔ ¬∃ t, Denotes s t := by
  simp only [Option.eq_none_iff_forall_ne_some, Ne, ofDescriptor?_eq_some_iff, not_exists]

/-- A string is a descriptor of some type. -/
def IsDescriptor (d : String) : Prop := ∃ t, Denotes d.toList t

instance (d : String) : Decidable (IsDescriptor d) :=
  decidable_of_iff ((ofDescriptor? d.toList).isSome = true)
    (Option.isSome_iff_exists.trans (exists_congr fun _ => ofDescriptor?_eq_some_iff))

theorem Denotes.ofDescriptor_eq {d : String} {t : TypeRef} (h : Denotes d.toList t) :
    ofDescriptor d = t := by
  rw [ofDescriptor, ofDescriptor?_eq_some_iff.2 h, Option.getD_some]

theorem IsDescriptor.denotes {d : String} (h : IsDescriptor d) :
    Denotes d.toList (ofDescriptor d) := by
  obtain ⟨t, ht⟩ := h
  rwa [ht.ofDescriptor_eq]

theorem ofDescriptor_of_not_denotes {d : String} (h : ¬∃ t, Denotes d.toList t) :
    ofDescriptor d = ofPlain (trimBlank d.toList) := by
  rw [ofDescriptor, ofDescriptor?_eq_none_iff.2 h, Option.getD_none]

theorem text_ofPlain (n : List Char) : (ofPlain n).text = String.ofList n := by
  by_cases hmark : n.getLast? = some '?'
  · obtain ⟨front, rfl⟩ := List.getLast?_eq_some_iff.1 hmark
    rw [ofPlain_concat, text, mark, if_pos rfl, String.ofList_append]
  · rw [ofPlain_of_unmarked hmark, text, mark, if_neg (by decide), String.append_empty]

theorem exists_ofPlain_eq_simple (n : List Char) :
    ∃ name nullable, ofPlain n = simple name nullable := by
  unfold ofPlain
  split
  · exact ⟨_, _, rfl⟩
  · exact ⟨_, _, rfl⟩

/-- **Descriptors are read by their grammar.** A text is read as a whole exactly if it is derived
by the grammar, all its derivations denote the type that is read, and any other text stands for a
plain name whose text it is without the blanks at its ends. -/
theorem ofDescriptor?_reads_grammar (d : String) :
    (∀ t, ofDescriptor? d.toList = some t ↔ Denotes d.toList t) ∧
      (∀ t u, Denotes d.toList t → Denotes d.toList u → t = u) ∧
      (∀ t, Denotes d.toList t → ofDescriptor d = t) ∧
      ((¬∃ t, Denotes d.toList t) →
        (∃ name nullable, ofDescriptor d = simple name nullable) ∧
          (ofDescriptor d).text = trim d) := by
  refine ⟨fun t => ofDescriptor?_eq_some_iff, fun t u ht hu => ht.unique hu,
    fun t ht => ht.ofDescriptor_eq, fun hnone => ?_⟩
  rw [ofDescriptor_of_not_denotes hnone]
  exact ⟨exists_ofPlain_eq_simple _, text_ofPlain _⟩

end TypeRef

end ApiProxy
