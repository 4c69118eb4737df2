import ApiProxy.Proofs.Path.Components

/-!
# Paths below a base

The text of a path is read back as a path with the same components, whatever idle parts were written
between them. So what is left of a path behind a base can be put behind the base again, and leads
where the path leads.

## Main definitions

* `Path.Legible`: the text of a path tells where it starts and what its parts are.
* `Path.Spans`: a path starts at the root or continues a base.

## Main results

* `Path.Legible.ofText_text`: a path is read back from its text.
* `Path.afterNames?_eq_some`, `Path.isSome_afterNames?`: what follows the names of a base.
* `Path.Spans.join_relativeTo?`: a path that is taken from a base and put behind it again.
-/

namespace ApiProxy.Path

variable {p q base : Path} {text : String}

/-! ### Reading a path back -/

/-- No part of a path has a slash, and a path without a written start does not begin with a part
that would be taken for one or be lost. -/
structure Legible (p : Path) : Prop where
  single : ∀ part ∈ p.parts, slashParts part = [part]
  bare : p.anchor = .bare → ∀ part ∈ p.parts.head?, isIdle part = false

/-- The parts of a path that is read from a text are the parts of the text, or all but the first
one, which says where the path starts; or the text has no other parts. -/
theorem parts_ofText_cases (text : String) :
    (ofText text).parts = [] ∨ (ofText text).parts = slashParts text ∨
      (ofText text).anchor ≠ .bare ∧ ∃ first, slashParts text = first :: (ofText text).parts := by
  rw [slashParts, ofText]
  split
  · exact .inl rfl
  · exact .inl rfl
  · next cs _ h =>
    rw [h, splitSlash, if_pos rfl]
    exact .inr (.inr ⟨by simp, _, rfl⟩)
  · exact .inl rfl
  · next cs h =>
    rw [h, splitSlash, if_neg (by decide), splitSlash, if_pos rfl]
    exact .inr (.inr ⟨by simp, _, rfl⟩)
  · exact .inr (.inl rfl)

theorem legible_ofText (text : String) : (ofText text).Legible := by
  have hsub : (ofText text).parts ⊆ slashParts text := by
    rcases parts_ofText_cases text with hnil | hall | ⟨-, first, htail⟩
    · exact hnil ▸ List.nil_subset _
    · exact hall ▸ List.Subset.refl _
    · exact htail ▸ List.subset_cons_self _ _
  refine ⟨fun part hpart => slashParts_part (hsub hpart), fun hbare part hpart => ?_⟩
  have hanchor := anchor_ofText text
  rw [hbare] at hanchor
  split at hanchor
  · cases hanchor
  next hrelative =>
  split at hanchor
  · cases hanchor
  next hdot =>
  rcases parts_ofText_cases text with hnil | hall | ⟨hstart, -⟩
  · rw [hnil] at hpart
    cases hpart
  · rw [isIdle, Bool.or_eq_false_iff, beq_eq_false_iff_ne, beq_eq_false_iff_ne]
    have hhead : (slashParts text).head? = some part := hall ▸ hpart
    refine ⟨?_, ?_⟩
    · rintro rfl
      rcases eq_or_of_head?_slashParts hhead with rfl | ⟨cs, hcs⟩
      · cases hpart
      · exact hrelative (by rw [hcs]; rfl)
    · rintro rfl
      exact hdot hhead
  · exact absurd hbare hstart

theorem Legible.of_prefix (h : p.Legible) {parts : List String} (hparts : parts <+: p.parts) :
    (⟨p.anchor, parts⟩ : Path).Legible := by
  refine ⟨fun part hpart => h.single part (hparts.subset hpart), fun hbare part hpart => ?_⟩
  obtain ⟨more, hmore⟩ := hparts
  refine h.bare hbare part ?_
  rw [← hmore]
  exact List.mem_head?_append_of_mem_head? hpart

theorem Legible.join (h : p.Legible) (text : String) : (p.join text).Legible := by
  rw [Path.join]
  split
  · exact legible_ofText text
  next hjoin =>
  rw [Bool.or_eq_true, decide_eq_true_eq, beq_iff_eq, not_or] at hjoin
  have hfront : (if p.parts.getLast? = some "" then p.parts.dropLast else p.parts) <+: p.parts := by
    split
    · exact List.dropLast_prefix _
    · exact List.prefix_rfl
  have hlegible := h.of_prefix hfront
  refine ⟨fun part hpart => ?_, fun hbare part hpart => ?_⟩
  · exact (List.mem_append.1 hpart).elim (hlegible.single part) slashParts_part
  · -- the first part of the path counts, so it stays in front
    refine hlegible.bare hbare part ?_
    have hne : (if p.parts.getLast? = some "" then p.parts.dropLast else p.parts) ≠ [] := by
      obtain ⟨anchor, parts⟩ := p
      rcases parts with - | ⟨first, - | ⟨second, parts⟩⟩
      · exact absurd (congrArg (Path.mk · []) hbare) hjoin.2
      · have hfirst := h.bare hbare first rfl
        dsimp only
        rw [if_neg]
        · exact List.cons_ne_nil _ _
        · rintro ⟨rfl⟩
          cases hfirst
      · split <;> exact List.cons_ne_nil _ _
    rwa [List.head?_append_of_ne_nil _ hne] at hpart

/-- A path that can be read, with nothing in it that counts, is empty unless it says where it
starts. -/
theorem Legible.eq_empty (h : p.Legible) (hbare : p.anchor = .bare) (hnames : p.names = []) :
    p = empty := by
  obtain ⟨anchor, parts⟩ := p
  obtain rfl : anchor = .bare := hbare
  cases parts with
  | nil => rfl
  | cons first parts =>
    have hfirst := h.bare rfl first rfl
    rw [names, List.filter_cons_of_pos (by rw [hfirst, Bool.not_false])] at hnames
    cases hnames

/-- The parts of a text that is joined of parts count as those do. -/
theorem filter_slashParts_intercalate {parts : List String}
    (h : ∀ part ∈ parts, slashParts part = [part]) :
    ((slashParts ("/".intercalate parts)).filter fun part => !isIdle part) =
      parts.filter fun part => !isIdle part := by
  cases parts with
  | nil => decide +kernel
  | cons first parts => rw [slashParts_intercalate (List.cons_ne_nil _ _) h]

/-- A path is read back from its text. -/
theorem Legible.ofText_text (h : p.Legible) :
    (ofText p.text).anchor = p.anchor ∧ (ofText p.text).names = p.names := by
  have hcounts := filter_slashParts_intercalate h.single
  rw [anchor_ofText, names_ofText]
  obtain ⟨anchor, parts⟩ := p
  cases anchor with
  | root =>
    have hparts : slashParts ("/" ++ "/".intercalate parts) =
        "" :: slashParts ("/".intercalate parts) := by
      simpa [slashParts_of_not_mem] using slashParts_append_slash "" ("/".intercalate parts)
    have hhead : ("/" ++ "/".intercalate parts).toList.head? = some '/' := by simp
    exact ⟨if_pos hhead, by rw [text, hparts]; exact hcounts⟩
  | here =>
    cases parts with
    | nil => exact ⟨by decide +kernel, by decide +kernel⟩
    | cons first parts =>
      have hparts : slashParts ("./" ++ "/".intercalate (first :: parts)) =
          "." :: slashParts ("/".intercalate (first :: parts)) := by
        simpa [slashParts_of_not_mem] using
          slashParts_append_slash "." ("/".intercalate (first :: parts))
      have hhead : ("./" ++ "/".intercalate (first :: parts)).toList.head? ≠ some '/' := by simp
      rw [text, hparts, if_neg hhead]
      exact ⟨rfl, hcounts⟩
  | bare =>
    refine ⟨?_, hcounts⟩
    cases parts with
    | nil => decide +kernel
    | cons first parts =>
      have hfirst := h.bare rfl first rfl
      have hparts : slashParts ("/".intercalate (first :: parts)) = first :: parts :=
        slashParts_intercalate (List.cons_ne_nil _ _) h.single
      rw [text, if_neg, if_neg]
      · rw [hparts]
        rintro ⟨rfl⟩
        cases hfirst
      · intro hslash
        have hempty := head?_slashParts_of_slash hslash
        rw [hparts] at hempty
        obtain rfl := Option.some.inj hempty
        cases hfirst

/-! ### Taking a base from a path -/

/-- What follows the names of a base in the parts of a path are the rest of its parts, and the parts
in front count for the names. -/
theorem afterNames?_eq_some {parts names rest : List String}
    (h : afterNames? parts names = some rest) :
    rest <:+ parts ∧ (parts.filter fun part => !isIdle part) =
      names ++ rest.filter fun part => !isIdle part := by
  induction parts generalizing names with
  | nil =>
    cases names with
    | nil =>
      obtain rfl := Option.some.inj h
      exact ⟨List.suffix_rfl, rfl⟩
    | cons name names => cases h
  | cons part parts ih =>
    cases names with
    | nil =>
      obtain rfl := Option.some.inj h
      exact ⟨List.suffix_rfl, rfl⟩
    | cons name names =>
      rw [afterNames?] at h
      split at h
      · next hidle =>
        obtain ⟨hsuffix, hcounts⟩ := ih h
        refine ⟨hsuffix.trans (List.suffix_cons _ _), ?_⟩
        rwa [List.filter_cons_of_neg (by rw [hidle]; decide)]
      split at h
      · next hidle heq =>
        subst heq
        obtain ⟨hsuffix, hcounts⟩ := ih h
        refine ⟨hsuffix.trans (List.suffix_cons _ _), ?_⟩
        rw [List.filter_cons_of_pos (by simpa using hidle), hcounts, List.cons_append]
      · cases h

/-- The names of a base are found in the parts of a path whose names begin with them. -/
theorem isSome_afterNames? {parts names : List String}
    (h : names <+: parts.filter fun part => !isIdle part) :
    (afterNames? parts names).isSome = true := by
  induction parts generalizing names with
  | nil =>
    obtain rfl := List.prefix_nil.1 h
    rfl
  | cons part parts ih =>
    cases names with
    | nil => rfl
    | cons name names =>
      rw [afterNames?]
      split
      · next hidle =>
        rw [List.filter_cons_of_neg (by rw [hidle]; decide)] at h
        exact ih h
      · next hidle =>
        rw [List.filter_cons_of_pos (by simpa using hidle), List.cons_prefix_cons] at h
        rw [if_pos h.1.symm]
        exact ih h.2

/-- What is left of a path behind a base can be read, and its names are those that follow the names
of the base. An empty base leaves everything. -/
theorem relativeTo?_eq_some (hp : p.Legible) (hbase : base.Legible)
    (h : p.relativeTo? base = some q) : q.Legible ∧
      ((base = empty ∧ q.anchor = p.anchor ∧ q.names = p.names) ∨
        (base ≠ empty ∧ q.anchor = .bare ∧ p.anchor = base.anchor ∧
          p.names = base.names ++ q.names)) := by
  rw [relativeTo?] at h
  split at h
  · next hempty =>
    obtain rfl := Option.some.inj h
    exact ⟨hp.of_prefix (List.rdropWhile_prefix _ _),
      .inl ⟨hbase.eq_empty hempty.1 hempty.2, rfl, filter_trimEnd p.parts⟩⟩
  next hempty =>
  split at h
  · next hanchor =>
    obtain ⟨rest, hrest, rfl⟩ := Option.map_eq_some_iff.1 h
    obtain ⟨hsuffix, hcounts⟩ := afterNames?_eq_some hrest
    have hlegible : (⟨.bare, rest.dropWhile isIdle⟩ : Path).Legible := by
      refine ⟨fun part hpart => hp.single part ?_, fun _ part hpart => ?_⟩
      · exact hsuffix.subset ((List.dropWhile_suffix _).subset hpart)
      · have hfirst := List.head?_dropWhile_not isIdle rest
        rwa [Option.mem_def.1 hpart] at hfirst
    have hnames : names ⟨.bare, trimEnd (rest.dropWhile isIdle)⟩ =
        rest.filter fun part => !isIdle part := by
      rw [names, filter_trimEnd, filter_dropWhile_isIdle]
    refine ⟨hlegible.of_prefix (List.rdropWhile_prefix _ _), .inr ⟨?_, rfl, hanchor, ?_⟩⟩
    · rintro rfl
      exact hempty ⟨rfl, rfl⟩
    · rw [hnames]
      exact hcounts
  · cases h

theorem isSome_relativeTo? (hanchor : p.anchor = base.anchor) (hnames : base.names <+: p.names) :
    (p.relativeTo? base).isSome = true := by
  rw [relativeTo?, if_pos hanchor]
  split
  · rfl
  · rw [Option.isSome_map]
    exact isSome_afterNames? hnames

/-! ### Putting a base back in front -/

/-- A path starts at the root, or goes on from a base. -/
def Spans (base p : Path) : Prop :=
  p.anchor = .root ∨ base = empty ∨ p.anchor = base.anchor ∧ base.names <+: p.names

theorem spans_join (base : Path) (text : String) : base.Spans (base.join text) := by
  rw [Spans, anchor_join, names_join]
  split
  · exact .inl rfl
  split
  · next hempty => exact .inr (.inl hempty)
  · exact .inr (.inr ⟨rfl, List.prefix_append _ _⟩)

theorem Spans.join (h : base.Spans p) (hne : p ≠ empty) (text : String) :
    base.Spans (p.join text) := by
  rw [Spans, anchor_join, names_join, if_neg hne]
  split
  · exact .inl rfl
  · exact h.imp_right fun h => h.imp_right fun h => ⟨h.1, h.2.trans (List.prefix_append _ _)⟩

/-- A path that starts at the root or goes on from a base is the base with what is shown of the path
behind it: with what is left of the path behind the base, or else with the whole path. -/
theorem Spans.join_relativeTo? (h : base.Spans p) (hp : p.Legible) (hbase : base.Legible) :
    (base.join ((p.relativeTo? base).getD p).text).anchor = p.anchor ∧
      (base.join ((p.relativeTo? base).getD p).text).names = p.names := by
  cases hrelative : p.relativeTo? base with
  | some q =>
    obtain ⟨hq, hcases⟩ := relativeTo?_eq_some hp hbase hrelative
    obtain ⟨hanchor, hnames⟩ := hq.ofText_text
    rw [Option.getD_some]
    rcases hcases with ⟨rfl, hanchor', hnames'⟩ | ⟨hne, hbare, hanchor', hnames'⟩
    · have hjoin : empty.join q.text = ofText q.text := if_pos (by simp)
      rw [hjoin, hanchor, hnames]
      exact ⟨hanchor', hnames'⟩
    · rw [hbare] at hanchor
      have hslash : q.text.toList.head? ≠ some '/' := fun hslash => by
        rw [anchor_ofText, if_pos hslash] at hanchor
        cases hanchor
      rw [anchor_join, if_neg hslash, if_neg hne, names_join, if_neg hslash, ← names_ofText, hnames]
      exact ⟨hanchor'.symm, hnames'.symm⟩
  | none =>
    -- only a path that starts at the root does not begin with the base
    have hroot : p.anchor = .root := by
      rcases h with hroot | rfl | ⟨hanchor, hnames⟩
      · exact hroot
      · rw [relativeTo?, if_pos ⟨rfl, rfl⟩] at hrelative
        cases hrelative
      · have hsome := isSome_relativeTo? hanchor hnames
        rw [hrelative] at hsome
        cases hsome
    obtain ⟨hanchor, hnames⟩ := hp.ofText_text
    rw [hroot] at hanchor
    have hslash : p.text.toList.head? = some '/' := by
      by_contra hslash
      rw [anchor_ofText, if_neg hslash] at hanchor
      split at hanchor <;> cases hanchor
    rw [Option.getD_none, anchor_join, if_pos hslash, names_join, if_pos hslash, List.nil_append,
      ← names_ofText, hnames]
    exact ⟨hroot.symm, rfl⟩

end ApiProxy.Path
