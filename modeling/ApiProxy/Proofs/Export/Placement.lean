import ApiProxy.Export
import ApiProxy.Proofs.FileTree.Walk
import ApiProxy.Proofs.Generation.FileNames
import ApiProxy.Proofs.Path.Components
import Mathlib.Data.List.Basic

/-!
# Where generated files are put

The place of a generated file is that of its base with the names of its generated path behind it:
a path that goes back is refused. Its last name is what follows the last slash of the generated
path, and so it ends like that path; the name of a temporary file ends in `.tmp`. Files whose names
end differently have different places.

## Main definitions

* `Ends`: the last name of a location has an ending.
* `pathNames`: the names through which a path leads.
* `Path.lead`: the parts through which all paths below a base go.

## Main results

* `exists_pathNames_append`: the names of a path that ends in a name.
* `steps_locate`, `place_locate`: the parts of the path of a generated file, and its place.
* `SourceFile.IsUsual.ends`, `ends_temporaryPath`, `ends_join`: how the names of written files end.
-/

namespace ApiProxy

open FileTree

/-! ### How names end -/

/-- The last name of a location has an ending. -/
def Ends (loc : Location) (ending : String) : Prop :=
  ∃ front name, loc = front ++ [name] ∧ ending.toList <:+ name.toList

theorem Ends.append_left {loc : Location} {ending : String} (h : Ends loc ending)
    (base : Location) : Ends (base ++ loc) ending := by
  obtain ⟨front, name, rfl, hname⟩ := h
  exact ⟨base ++ front, name, (List.append_assoc ..).symm, hname⟩

/-- Of two endings of a location one is an ending of the other. -/
theorem Ends.suffix_or_suffix {loc : Location} {ending ending' : String} (h : Ends loc ending)
    (h' : Ends loc ending') :
    ending.toList <:+ ending'.toList ∨ ending'.toList <:+ ending.toList := by
  obtain ⟨front, name, rfl, hname⟩ := h
  obtain ⟨front', name', heq, hname'⟩ := h'
  obtain ⟨-, heq⟩ := List.append_inj' heq rfl
  obtain rfl := List.head_eq_of_cons_eq heq
  exact List.suffix_or_suffix_of_suffix hname hname'

theorem not_ends_of_ends {loc : Location} {ending ending' : String} (h : Ends loc ending)
    (hapart : ¬ending.toList <:+ ending'.toList ∧ ¬ending'.toList <:+ ending.toList) :
    ¬Ends loc ending' :=
  fun h' => (h.suffix_or_suffix h').elim hapart.1 hapart.2

/-- A name with an ending of three characters or more counts. -/
theorem isName_of_suffix {name ending : String} (hlong : 3 ≤ ending.toList.length)
    (h : ending.toList <:+ name.toList) : Path.isIdle name = false ∧ name ≠ ".." := by
  have hlength := hlong.trans h.length_le
  rw [Path.isIdle, Bool.or_eq_false_iff, beq_eq_false_iff_ne, beq_eq_false_iff_ne]
  refine ⟨⟨?_, ?_⟩, ?_⟩ <;>
  · rintro rfl
    simp at hlength

/-- The names through which a path leads, as far as they count. Paths with the same names lead
to one place. -/
def pathNames (text : String) : List String :=
  (slashParts text).filter fun part => !Path.isIdle part

/-- An ending of a file name: it has no slash, and too many characters to count for nothing. -/
structure IsEnding (ending : String) : Prop where
  slash : '/' ∉ ending.toList
  long : 3 ≤ ending.toList.length

theorem FileKind.isEnding (kind : FileKind) : IsEnding kind.ending := by
  cases kind <;> exact ⟨by decide, by decide⟩

/-- The last name of a path that ends in a name. -/
theorem exists_pathNames_append (s : String) :
    ∃ front, ∃ last ∈ slashParts s, ∀ ending : String, IsEnding ending →
      pathNames (s ++ ending) = front ++ [last ++ ending] := by
  obtain ⟨front, last, hparts⟩ := exists_slashParts_append s
  refine ⟨front.filter fun part => !Path.isIdle part, last, ?_, fun ending hending => ?_⟩
  · have hlast := hparts "" List.not_mem_nil
    rw [String.append_empty, String.append_empty] at hlast
    rw [hlast]
    exact List.mem_concat_self
  · have hsuffix : ending.toList <:+ (last ++ ending).toList := by
      rw [String.toList_append]
      exact List.suffix_append _ _
    rw [pathNames, hparts ending hending.slash, List.filter_append, List.filter_cons_of_pos,
      List.filter_nil]
    rw [(isName_of_suffix hending.long hsuffix).1, Bool.not_false]

theorem ends_pathNames (s : String) {ending : String} (h : IsEnding ending) :
    Ends (pathNames (s ++ ending)) ending := by
  obtain ⟨front, last, -, hs⟩ := exists_pathNames_append s
  refine ⟨front, last ++ ending, hs ending h, ?_⟩
  rw [String.toList_append]
  exact List.suffix_append _ _

/-- Of the endings of two paths that lead to one place, one is an ending of the other. -/
theorem suffix_or_suffix_of_pathNames {s s' ending ending' : String} (hending : IsEnding ending)
    (hending' : IsEnding ending') (h : pathNames (s ++ ending) = pathNames (s' ++ ending')) :
    ending.toList <:+ ending'.toList ∨ ending'.toList <:+ ending.toList :=
  (h ▸ ends_pathNames s hending).suffix_or_suffix (ends_pathNames s' hending')

/-- Whether two paths lead to one place does not depend on their common ending. -/
theorem pathNames_append_inj {s s' ending ending' : String} (hending : IsEnding ending)
    (hending' : IsEnding ending') :
    pathNames (s ++ ending) = pathNames (s' ++ ending) ↔
      pathNames (s ++ ending') = pathNames (s' ++ ending') := by
  obtain ⟨front, last, -, hs⟩ := exists_pathNames_append s
  obtain ⟨front', last', -, hs'⟩ := exists_pathNames_append s'
  have hiff {e : String} (he : IsEnding e) : pathNames (s ++ e) = pathNames (s' ++ e) ↔
      front = front' ∧ last = last' := by
    rw [hs e he, hs' e he]
    constructor
    · intro h
      obtain ⟨hfront, hlast⟩ := List.append_inj' h rfl
      exact ⟨hfront, (String.append_left_inj _).1 (List.head_eq_of_cons_eq hlast)⟩
    · rintro ⟨rfl, rfl⟩
      rfl
  rw [hiff hending, hiff hending']

/-! ### Joined paths -/

namespace Path

/-- The parts of a path that stay when something is put behind it. -/
def front (p : Path) : List String :=
  if p.parts.getLast? = some "" then p.parts.dropLast else p.parts

/-- The parts that every path below a path goes through first. -/
def lead (p : Path) : List String := FileTree.steps ⟨p.anchor, p.front⟩

variable {p : Path}

theorem steps_append (a : Anchor) (parts more : List String) :
    FileTree.steps ⟨a, parts ++ more⟩ = FileTree.steps ⟨a, parts⟩ ++ more := by
  rw [FileTree.steps, FileTree.steps]
  split
  · rfl
  · rfl

theorem join_part {part : String} (hp : p ≠ empty) (hpart : slashParts part = [part]) :
    p.join part = ⟨p.anchor, p.front ++ [part]⟩ := by
  have hslash : part.toList.head? ≠ some '/' := by
    intro h
    obtain ⟨cs, hcs⟩ := List.head?_eq_some_iff.1 h
    rw [slashParts, hcs, splitSlash, if_pos rfl, List.map_cons, List.cons.injEq,
      List.map_eq_nil_iff] at hpart
    exact splitSlash_ne_nil cs hpart.2
  rw [join, if_neg, hpart]
  · rfl
  · rw [Bool.or_eq_true, decide_eq_true_eq, beq_iff_eq, not_or]
    exact ⟨hslash, hp⟩

theorem ne_empty_of_parts {a : Anchor} {parts : List String} (h : parts ≠ []) :
    (⟨a, parts⟩ : Path) ≠ empty :=
  fun heq => h (congrArg Path.parts heq)

theorem ne_empty_of_anchor {a : Anchor} {parts : List String} (h : a ≠ .bare) :
    (⟨a, parts⟩ : Path) ≠ empty :=
  fun heq => h (congrArg Path.anchor heq)

theorem join_ne_empty (p : Path) {text : String} (h : text ≠ "") : p.join text ≠ empty := by
  rw [join]
  split
  · rw [ofText]
    split
    · next htext => exact absurd (String.toList_eq_nil_iff.1 htext) h
    · exact ne_empty_of_anchor (by decide)
    · exact ne_empty_of_anchor (by decide)
    · exact ne_empty_of_anchor (by decide)
    · exact ne_empty_of_anchor (by decide)
    · exact ne_empty_of_parts fun heq => splitSlash_ne_nil _ (List.map_eq_nil_iff.1 heq)
  · obtain ⟨front, last, hparts⟩ := exists_slashParts_eq text
    refine ne_empty_of_parts (List.append_ne_nil_of_right_ne_nil _ ?_)
    rw [hparts]
    exact List.concat_ne_nil _ _

/-- Single parts are put behind a path one after the other; an empty one makes room for the
next. -/
theorem foldl_join {parts : List String} (hp : p ≠ empty)
    (hparts : ∀ part ∈ parts, slashParts part = [part]) :
    parts.foldl join p ≠ empty ∧ (parts.foldl join p).anchor = p.anchor ∧
      ∃ rest, (parts.foldl join p).front = p.front ++ rest ∧ rest ⊆ parts := by
  induction parts generalizing p with
  | nil => exact ⟨hp, rfl, [], (List.append_nil _).symm, List.Subset.refl _⟩
  | cons part parts ih =>
    obtain ⟨hpart, hparts⟩ := List.forall_mem_cons.1 hparts
    rw [List.foldl_cons, join_part hp hpart]
    obtain ⟨hne, hanchor, rest, hrest, hsub⟩ := ih
      (ne_empty_of_parts (List.append_ne_nil_of_right_ne_nil _ (List.cons_ne_nil _ _))) hparts
    refine ⟨hne, hanchor, ?_⟩
    rw [hrest, front]
    dsimp only
    by_cases hempty : part = ""
    · rw [hempty, List.getLast?_concat, if_pos rfl, List.dropLast_concat]
      exact ⟨rest, rfl, List.subset_cons_of_subset _ hsub⟩
    · rw [List.getLast?_concat, if_neg (fun h => hempty (Option.some.inj h)), List.append_assoc]
      exact ⟨part :: rest, rfl, List.cons_subset_cons _ hsub⟩

/-- The last part of a path that is read from a text, if it does not count for nothing. -/
theorem parts_ofText {text last : String} {init : List String}
    (h : slashParts text = init ++ [last]) (hlast : isIdle last = false) :
    ∃ init', (ofText text).parts = init' ++ [last] := by
  have htail {cs : List Char} {part : String} (hcs : part :: (splitSlash cs).map String.ofList =
      init ++ [last]) : ∃ init', (splitSlash cs).map String.ofList = init' ++ [last] := by
    cases init with
    | nil =>
      obtain ⟨-, hnil⟩ := List.cons.inj hcs
      exact absurd (List.map_eq_nil_iff.1 hnil) (splitSlash_ne_nil cs)
    | cons first init => exact ⟨init, (List.cons.inj hcs).2⟩
  have hname (part : String) (hpart : isIdle part = true) :
      (slashParts text).getLast? ≠ some part := by
    rw [h, List.getLast?_concat]
    rintro ⟨rfl⟩
    exact nomatch hpart.symm.trans hlast
  rw [slashParts] at h hname
  rw [ofText]
  split
  · next htext =>
    rw [htext] at hname
    exact absurd rfl (hname "" rfl)
  · next htext =>
    rw [htext] at hname
    exact absurd rfl (hname "" rfl)
  · next cs hcs htext =>
    rw [htext] at h
    exact htail h
  · next htext =>
    rw [htext] at hname
    exact absurd rfl (hname "." rfl)
  · next cs htext =>
    rw [htext] at h
    exact htail h
  · exact ⟨init, h⟩

/-- What is put behind a path is its end, if its last part does not count for nothing. -/
theorem parts_join (p : Path) {text last : String} {init : List String}
    (h : slashParts text = init ++ [last]) (hlast : isIdle last = false) :
    ∃ init', (p.join text).parts = init' ++ [last] := by
  rw [join]
  split
  · exact parts_ofText h hlast
  · rw [h]
    exact ⟨_, (List.append_assoc ..).symm⟩

theorem steps_join (p : Path) {text last : String} {init : List String}
    (h : slashParts text = init ++ [last]) (hlast : isIdle last = false) :
    ∃ init', FileTree.steps (p.join text) = init' ++ [last] := by
  obtain ⟨init', hparts⟩ := parts_join p h hlast
  rw [FileTree.steps, hparts]
  split
  · exact ⟨"." :: init', rfl⟩
  · exact ⟨init', rfl⟩

/-! ### Places of joined paths -/

variable {part : String}

theorem follow_lead (p : Path) (loc : Location) : follow loc p.lead = follow loc (steps p) := by
  rw [lead, front]
  split
  · next hlast =>
    have hsteps : steps p = steps ⟨p.anchor, p.parts.dropLast⟩ ++ [""] := by
      rw [← steps_append, List.dropLast_append_getLast? _ hlast]
    rw [hsteps, follow_append]
    rfl
  · rfl

theorem not_mem_of_slashParts (hpart : slashParts part = [part]) : '/' ∉ part.toList := by
  obtain ⟨cs, hcs, rfl⟩ := List.mem_map.1 (hpart ▸ List.mem_singleton_self part)
  rw [String.toList_ofList]
  exact not_mem_of_mem_splitSlash hcs

/-- A single part that is read as a path leads there from the current directory. -/
theorem place_ofText (t : FileTree) (hpart : slashParts part = [part]) :
    t.start (ofText part) = t.current ∧ t.place (ofText part) = advance t.current part ∧
      (ofText part).parts ⊆ [part] := by
  have hslash := not_mem_of_slashParts hpart
  rw [slashParts] at hpart
  rw [ofText]
  split
  · next h =>
    obtain rfl := String.toList_eq_nil_iff.1 h
    exact ⟨rfl, rfl, List.nil_subset _⟩
  · next h => exact absurd (h ▸ List.mem_cons_self) hslash
  · next h => exact absurd (h ▸ List.mem_cons_self) hslash
  · next h =>
    obtain rfl : part = "." := String.toList_inj.1 h
    exact ⟨rfl, rfl, List.nil_subset _⟩
  · next h => exact absurd (h ▸ List.mem_cons_of_mem _ List.mem_cons_self) hslash
  · rw [hpart]
    exact ⟨rfl, rfl, List.Subset.refl _⟩

/-- A relative text that is put behind a path leads on from where the path leads. -/
theorem place_join_relative (t : FileTree) (hp : p ≠ empty) {text : String}
    (hrelative : text.toList.head? ≠ some '/') :
    t.place (p.join text) = follow (t.place p) (slashParts text) := by
  have hjoin : p.join text = ⟨p.anchor, p.front ++ slashParts text⟩ := by
    rw [join, if_neg]
    · rfl
    · rw [Bool.or_eq_true, decide_eq_true_eq, beq_iff_eq, not_or]
      exact ⟨hrelative, hp⟩
  rw [hjoin, place, steps_append, follow_append, ← lead, follow_lead]
  rfl

/-- A single part that is put behind a path leads on from where the path leads. -/
theorem place_join (t : FileTree) (p : Path) (hpart : slashParts part = [part]) :
    t.start (p.join part) = t.start p ∧ t.place (p.join part) = advance (t.place p) part ∧
      (p.join part).parts ⊆ p.parts ++ [part] := by
  by_cases hp : p = empty
  · subst hp
    have hjoin : empty.join part = ofText part := if_pos (by simp)
    rw [hjoin]
    exact place_ofText t hpart
  · have hrelative : part.toList.head? ≠ some '/' := fun h =>
      not_mem_of_slashParts hpart (List.mem_of_mem_head? h)
    have hplace := place_join_relative t hp hrelative
    rw [hpart] at hplace
    refine ⟨?_, hplace, ?_⟩
    · rw [join_part hp hpart]
      rfl
    · rw [join_part hp hpart]
      refine List.append_subset.2
        ⟨List.subset_append_of_subset_left _ ?_, List.subset_append_right _ _⟩
      rw [front]
      split
      · exact List.dropLast_subset _
      · exact List.Subset.refl _

theorem place_foldl_join (t : FileTree) {parts : List String}
    (hparts : ∀ part ∈ parts, slashParts part = [part]) (p : Path) :
    t.start (parts.foldl join p) = t.start p ∧
      t.place (parts.foldl join p) = follow (t.place p) parts ∧
      (parts.foldl join p).parts ⊆ p.parts ++ parts := by
  induction parts generalizing p with
  | nil => exact ⟨rfl, rfl, List.subset_append_left _ _⟩
  | cons part parts ih =>
    obtain ⟨hpart, hparts⟩ := List.forall_mem_cons.1 hparts
    obtain ⟨hstart, hplace, hsub⟩ := place_join t p hpart
    obtain ⟨hstart', hplace', hsub'⟩ := ih hparts (p.join part)
    refine ⟨hstart'.trans hstart, ?_, fun x hx => ?_⟩
    · rw [List.foldl_cons, hplace', hplace]
      rfl
    · rw [List.append_cons]
      exact (List.mem_append.1 (hsub' hx)).elim (fun h => List.mem_append_left _ (hsub h))
        (List.mem_append_right _)

end Path

/-! ### Located files -/

/-- A generated file is located by putting the parts of its path behind its base; none of them goes
back. -/
theorem locate_eq_ok {base p : Path} {relative : String} (h : locate base relative = .ok p) :
    p = (slashParts relative).foldl Path.join base ∧ ".." ∉ slashParts relative := by
  rw [locate] at h
  split at h
  · next hbelow =>
    exact ⟨(Except.ok.inj h).symm, (staysBelow_iff.1 hbelow).2.2⟩
  · cases h

/-- The parts of the path of a generated file: those of its base, then some of its folders, and then
its last part. -/
theorem exists_steps_locate {base p : Path} {relative : String} (hbase : base ≠ Path.empty)
    (h : locate base relative = .ok p) :
    p.anchor = base.anchor ∧ ∃ rest last, steps p = base.lead ++ (rest ++ [last]) ∧
      rest ⊆ (slashParts relative).dropLast ∧ last ∈ slashParts relative := by
  obtain ⟨rfl, -⟩ := locate_eq_ok h
  obtain ⟨init, last, hparts⟩ := exists_slashParts_eq relative
  have hsingle : ∀ part ∈ init ++ [last], slashParts part = [part] :=
    fun part hpart => slashParts_part (hparts ▸ hpart)
  rw [List.forall_mem_append, List.forall_mem_singleton] at hsingle
  rw [hparts, List.dropLast_concat]
  obtain ⟨hne, hanchor, rest, hfront, hsub⟩ := Path.foldl_join hbase hsingle.1
  rw [List.foldl_append, List.foldl_cons, List.foldl_nil, Path.join_part hne hsingle.2, hanchor,
    hfront, List.append_assoc]
  exact ⟨rfl, rest, last, Path.steps_append .., hsub, List.mem_concat_self⟩

/-- The parts of the path of a generated file: those of its base, and then some that go back
nowhere. -/
theorem steps_locate {base p : Path} {relative : String} (hbase : base ≠ Path.empty)
    (h : locate base relative = .ok p) :
    p.anchor = base.anchor ∧ ∃ rest last,
      steps p = base.lead ++ (rest ++ [last]) ∧ ".." ∉ rest ++ [last] := by
  obtain ⟨hanchor, rest, last, hsteps, hrest, hlast⟩ := exists_steps_locate hbase h
  refine ⟨hanchor, rest, last, hsteps, fun hmem => (locate_eq_ok h).2 ?_⟩
  rcases List.mem_append.1 hmem with hmem | hmem
  · exact List.dropLast_subset _ (hrest hmem)
  · exact List.mem_singleton.1 hmem ▸ hlast

/-- A generated file is put at the place of its base, with the names of its path behind it. -/
theorem place_locate (t : FileTree) {base p : Path} {relative : String}
    (h : locate base relative = .ok p) : t.start p = t.start base ∧
      t.place p = t.place base ++ pathNames relative ∧ (".." ∉ base.parts → ".." ∉ p.parts) := by
  obtain ⟨rfl, hback⟩ := locate_eq_ok h
  obtain ⟨hstart, hplace, hsub⟩ := Path.place_foldl_join t (fun part => slashParts_part) base
  refine ⟨hstart, ?_, fun hbase hmem => ?_⟩
  · rw [hplace, follow_eq_append hback]
    rfl
  · exact (List.mem_append.1 (hsub hmem)).elim hbase hback

/-- What is put behind a path gives the name at its place its ending. -/
theorem ends_join (t : FileTree) (p : Path) (s : String) {ending : String} (h : IsEnding ending) :
    Ends (t.place (p.join (s ++ ending))) ending := by
  obtain ⟨init, last, hparts⟩ := exists_slashParts_append s
  have hsuffix : ending.toList <:+ (last ++ ending).toList := by
    rw [String.toList_append]
    exact List.suffix_append _ _
  obtain ⟨hidle, hback⟩ := isName_of_suffix h.long hsuffix
  obtain ⟨init', hsteps⟩ := Path.steps_join p (hparts ending h.slash) hidle
  refine ⟨follow (t.start (p.join (s ++ ending))) init', last ++ ending, ?_, hsuffix⟩
  rw [place, hsteps, follow_append]
  exact advance_name _ hidle hback

/-- The name of a temporary file ends in `.tmp`. -/
theorem ends_temporaryPath (t : FileTree) (p : Path) :
    Ends (t.place (temporaryPath p)) temporaryEnding := by
  rw [temporaryPath, Path.withFileName]
  split <;> exact ends_join t _ _ ⟨by decide, by decide⟩

/-- The name of a generated file ends as its kind does. -/
theorem SourceFile.IsUsual.ends {f : SourceFile} {base p : Path} (hf : f.IsUsual)
    (hp : locate base f.path = .ok p) (t : FileTree) : Ends (t.place p) f.kind.ending := by
  obtain ⟨s, hs⟩ := hf.path
  rw [(place_locate t hp).2.1, hs]
  exact (ends_pathNames s f.kind.isEnding).append_left _

end ApiProxy
