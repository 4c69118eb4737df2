import ApiProxy.Export
import ApiProxy.Proofs.Path.Parts
import Mathlib.Data.List.DropRight

/-!
# What paths are made up of

The components of a path can be read off its text: a slash in front is the root, a dot in front is
the current directory, and the parts that count are the names. What is put behind a path adds its
names to those of the path, unless it is absolute. Only the empty path can get another start in this
way.

## Main definitions

* `Path.Descends`: a path is continued by components that lead nowhere but down.

## Main results

* `Path.names_ofText`, `Path.anchor_ofText`: what the text of a path is made up of.
* `Path.names_join`, `Path.anchor_join`: what joined paths are made up of.
* `Path.descends_foldl_join`: single parts that do not go back lead down, one after the other.
* `staysBelow_iff`: the texts of which all components lead down.
* `locate_descends`: which generated paths are located, and where.
-/

namespace ApiProxy

namespace Path

variable {p q : Path} {text part : String}

/-! ### Parts that count for nothing -/

theorem filter_trimEnd (parts : List String) :
    ((trimEnd parts).filter fun part => !isIdle part) = parts.filter fun part => !isIdle part := by
  have hsplit : trimEnd parts ++ parts.rtakeWhile isIdle = parts :=
    List.rdropWhile_append_rtakeWhile
  have hidle : ((parts.rtakeWhile isIdle).filter fun part => !isIdle part) = [] := by
    refine List.filter_eq_nil_iff.2 fun part hpart => ?_
    rw [List.mem_rtakeWhile_imp hpart, Bool.not_true]
    exact Bool.false_ne_true
  rw [← congrArg (List.filter _) hsplit, List.filter_append, hidle, List.append_nil]

theorem filter_dropWhile_isIdle (parts : List String) :
    ((parts.dropWhile isIdle).filter fun part => !isIdle part) =
      parts.filter fun part => !isIdle part := by
  have hidle : ((parts.takeWhile isIdle).filter fun part => !isIdle part) = [] := by
    refine List.filter_eq_nil_iff.2 fun part hpart => ?_
    rw [List.mem_takeWhile_imp hpart, Bool.not_true]
    exact Bool.false_ne_true
  conv_rhs => rw [← List.takeWhile_append_dropWhile (p := isIdle) (l := parts), List.filter_append,
    hidle, List.nil_append]

/-! ### Paths that are read from a text -/

/-- The names of a path that is read from a text are the parts of the text that count. -/
theorem names_ofText (text : String) :
    (ofText text).names = (slashParts text).filter fun part => !isIdle part := by
  rw [names, slashParts, ofText]
  split
  · next h => rw [h]; rfl
  · next h => rw [h]; rfl
  · next cs _ h =>
    rw [h, splitSlash, if_pos rfl]
    rfl
  · next h => rw [h]; rfl
  · next cs h =>
    rw [h, splitSlash, if_neg (by decide), splitSlash, if_pos rfl]
    rfl
  · rfl

/-- Where a path starts that is read from a text. -/
theorem anchor_ofText (text : String) :
    (ofText text).anchor =
      if text.toList.head? = some '/' then .root
      else if (slashParts text).head? = some "." then .here
      else .bare := by
  have hdot (cs : List Char) (h : text.toList = '.' :: '/' :: cs) :
      (slashParts text).head? = some "." := by
    rw [slashParts, h, splitSlash, if_neg (by decide), splitSlash, if_pos rfl]
    rfl
  rw [ofText]
  split
  · next h => rw [slashParts, h]; rfl
  · next h => rw [h]; rfl
  · next h => rw [h]; rfl
  · next h => rw [slashParts, h]; rfl
  · next cs h => rw [hdot cs h, h]; rfl
  · next hslash hone htwo =>
    have hhead : text.toList.head? ≠ some '/' := fun h => by
      obtain ⟨cs, hcs⟩ := List.head?_eq_some_iff.1 h
      exact hslash cs hcs
    rw [if_neg hhead, if_neg]
    intro h
    rcases eq_or_of_head?_slashParts h with rfl | ⟨cs, h⟩
    · exact hone rfl
    · exact htwo cs h

/-! ### Joined paths -/

/-- The names of joined paths are those of the path and then those of the text, unless the text is
absolute. -/
theorem names_join (p : Path) (text : String) :
    (p.join text).names =
      (if text.toList.head? = some '/' then [] else p.names) ++
        (slashParts text).filter fun part => !isIdle part := by
  rw [join]
  split
  · next h =>
    rw [names_ofText]
    split
    · rfl
    · next hrelative =>
      rw [Bool.or_eq_true, decide_eq_true_eq, beq_iff_eq] at h
      rw [h.resolve_left hrelative]
      rfl
  · next h =>
    rw [Bool.or_eq_true, decide_eq_true_eq, not_or] at h
    rw [if_neg h.1, names, List.filter_append, names]
    congr 1
    split
    · next hlast =>
      conv_rhs => rw [← List.dropLast_append_getLast? _ hlast, List.filter_append]
      exact (List.append_nil _).symm
    · rfl

/-- Where joined paths start. -/
theorem anchor_join (p : Path) (text : String) :
    (p.join text).anchor =
      if text.toList.head? = some '/' then .root
      else if p = empty then (ofText text).anchor
      else p.anchor := by
  rw [join]
  split
  · next h =>
    rw [Bool.or_eq_true, decide_eq_true_eq, beq_iff_eq] at h
    split
    · next habsolute => rw [anchor_ofText, if_pos habsolute]
    · next hrelative => rw [if_pos (h.resolve_left hrelative)]
  · next h =>
    rw [Bool.or_eq_true, decide_eq_true_eq, beq_iff_eq, not_or] at h
    rw [if_neg h.1, if_neg h.2]

/-! ### Paths that lead down -/

/-- A component is that of a part, if it is a name. -/
def Component.text? : Component → Option String
  | name text => some text
  | root | here | back => none

/-- The components of a path that are names, in order. -/
def plainNames (p : Path) : List String := p.components.filterMap Component.text?

/-- A path continues another one by the given names, and otherwise leads nowhere. -/
def Descends (p : Path) (names : List String) (q : Path) : Prop :=
  ∃ more, q.components = p.components ++ more ∧ (∀ c ∈ more, c.staysBelow = true) ∧
    more.filterMap Component.text? = names

theorem Descends.refl (p : Path) : p.Descends [] p :=
  ⟨[], (List.append_nil _).symm, fun _ hc => absurd hc List.not_mem_nil, rfl⟩

theorem Descends.trans {r : Path} {names names' : List String} (h : p.Descends names q)
    (h' : q.Descends names' r) : p.Descends (names ++ names') r := by
  obtain ⟨more, hq, hmore, rfl⟩ := h
  obtain ⟨more', hr, hmore', rfl⟩ := h'
  refine ⟨more ++ more', by rw [hr, hq, List.append_assoc], ?_, List.filterMap_append⟩
  exact fun c hc => (List.mem_append.1 hc).elim (hmore c) (hmore' c)

theorem Descends.plainNames {names : List String} (h : p.Descends names q) :
    q.plainNames = p.plainNames ++ names := by
  obtain ⟨more, hq, -, rfl⟩ := h
  rw [Path.plainNames, hq, List.filterMap_append]
  rfl

/-- A path that starts where another one does and has more names behind it. -/
theorem descends_of_names {names : List String} (hanchor : q.anchor = p.anchor)
    (hnames : q.names = p.names ++ names) (hback : ".." ∉ names) : p.Descends names q := by
  have hparts : ∀ part ∈ names, Component.ofPart part = .name part := fun part hpart =>
    if_neg (ne_of_mem_of_not_mem hpart hback)
  refine ⟨names.map .ofPart, ?_, fun c hc => ?_, ?_⟩
  · rw [components, hanchor, hnames, List.map_append, ← List.append_assoc]
    rfl
  · obtain ⟨part, hpart, rfl⟩ := List.mem_map.1 hc
    rw [hparts part hpart]
    rfl
  · rw [List.map_congr_left hparts, List.filterMap_map]
    exact List.filterMap_some

/-- A single part that does not go back leads down. -/
theorem descends_join (p : Path) (hpart : slashParts part = [part]) (hback : part ≠ "..") :
    p.Descends ([part].filter fun part => !isIdle part) (p.join part) := by
  have hrelative : part.toList.head? ≠ some '/' := fun h => by
    have hhead := head?_slashParts_of_slash h
    rw [hpart, List.head?_cons, Option.some.injEq] at hhead
    rw [hhead] at h
    cases h
  have hnames := names_join p part
  have hanchor := anchor_join p part
  rw [if_neg hrelative, hpart] at hnames
  rw [if_neg hrelative] at hanchor
  by_cases hdot : p = empty ∧ part = "."
  · -- only here the path gets another start
    obtain ⟨rfl, rfl⟩ := hdot
    exact ⟨[.here], rfl, fun c hc => List.mem_singleton.1 hc ▸ rfl, rfl⟩
  · refine descends_of_names ?_ hnames fun hmem => ?_
    · rw [hanchor]
      split
      · next hempty =>
        rw [anchor_ofText, if_neg hrelative, hpart, if_neg, hempty]
        · rfl
        · exact fun h => hdot ⟨hempty, Option.some.inj h⟩
      · rfl
    · exact hback (List.mem_singleton.1 (List.mem_filter.1 hmem).1).symm

/-- Single parts that do not go back lead down, one after the other. -/
theorem descends_foldl_join {parts : List String} (p : Path)
    (hparts : ∀ part ∈ parts, slashParts part = [part]) (hback : ".." ∉ parts) :
    p.Descends (parts.filter fun part => !isIdle part) (parts.foldl join p) := by
  induction parts generalizing p with
  | nil => exact .refl p
  | cons part parts ih =>
    obtain ⟨hpart, hparts⟩ := List.forall_mem_cons.1 hparts
    rw [List.mem_cons, not_or] at hback
    have hstep := p.descends_join hpart (Ne.symm hback.1)
    rw [List.foldl_cons, ← List.singleton_append, List.filter_append]
    exact hstep.trans (ih (p.join part) hparts hback.2)

end Path

/-- A text leads nowhere but down exactly if it is not empty, does not begin with a slash, and none
of its parts goes back. -/
theorem staysBelow_iff {relative : String} :
    staysBelow relative = true ↔
      relative ≠ "" ∧ relative.toList.head? ≠ some '/' ∧ ".." ∉ slashParts relative := by
  have hanchor : (Path.Component.ofAnchor (Path.ofText relative).anchor).all (·.staysBelow) = true ↔
      relative.toList.head? ≠ some '/' := by
    rw [Path.anchor_ofText]
    split
    · next h => exact iff_of_false (by decide) (not_not_intro h)
    · next h => exact iff_of_true (by split <;> rfl) h
  have hnames : ((Path.ofText relative).names.map Path.Component.ofPart).all (·.staysBelow) = true ↔
      ".." ∉ slashParts relative := by
    rw [Path.names_ofText, List.all_map, List.all_eq_true]
    constructor
    · intro h hmem
      have hback := h ".." (List.mem_filter.2 ⟨hmem, by decide⟩)
      cases hback
    · intro h part hpart
      rw [Function.comp_apply, Path.Component.ofPart,
        if_neg (ne_of_mem_of_not_mem (List.mem_filter.1 hpart).1 h)]
      rfl
  rw [staysBelow, Bool.and_eq_true, bne_iff_ne, Path.components, List.all_append,
    Bool.and_eq_true, hanchor, hnames]

/-- **A generated path is located exactly if it leads nowhere but down, and then below its base.**
It may not be empty or absolute, and none of its parts may go back. The located path has the
components of the base and then others that lead down: its names are those of the base and then the
parts of the generated path, apart from empty ones and `.`, in order. -/
theorem locate_descends (base : Path) (relative : String) :
    ((∃ p, locate base relative = .ok p) ↔
        relative ≠ "" ∧ relative.toList.head? ≠ some '/' ∧ ".." ∉ slashParts relative) ∧
      ∀ p, locate base relative = .ok p →
        p.plainNames = base.plainNames ++
            (slashParts relative).filter (fun part => part ≠ "" ∧ part ≠ ".") ∧
          base.Descends ((slashParts relative).filter (fun part => part ≠ "" ∧ part ≠ ".")) p := by
  have hcounts : (slashParts relative).filter (fun part => part ≠ "" ∧ part ≠ ".") =
      (slashParts relative).filter fun part => !Path.isIdle part := by
    refine List.filter_congr fun part _ => ?_
    rw [Bool.eq_iff_iff]
    simp [Path.isIdle]
  rw [hcounts, ← staysBelow_iff, locate]
  split
  · next hbelow =>
    have hsingle : ∀ part ∈ slashParts relative, slashParts part = [part] :=
      fun _ => slashParts_part
    have hdescends := base.descends_foldl_join hsingle (staysBelow_iff.1 hbelow).2.2
    refine ⟨iff_of_true ⟨_, rfl⟩ hbelow, fun p hp => ?_⟩
    obtain rfl := Except.ok.inj hp
    exact ⟨hdescends.plainNames, hdescends⟩
  · next hbelow => exact ⟨iff_of_false nofun hbelow, nofun⟩

/-- Dots and repeated slashes in a generated path, put behind an empty base. -/
theorem locate_descends_dotted :
    locate .empty "./Acme//Books/./" = .ok ⟨.here, ["Acme", "Books", ".", ""]⟩ ∧
      Path.plainNames ⟨.here, ["Acme", "Books", ".", ""]⟩ = ["Acme", "Books"] ∧
      Path.Descends .empty ["Acme", "Books"] ⟨.here, ["Acme", "Books", ".", ""]⟩ := by
  have hlocate : locate .empty "./Acme//Books/./" = .ok ⟨.here, ["Acme", "Books", ".", ""]⟩ := by
    decide +kernel
  obtain ⟨hnames, hdescends⟩ := (locate_descends .empty "./Acme//Books/./").2 _ hlocate
  have hparts : (slashParts "./Acme//Books/./").filter (fun part => part ≠ "" ∧ part ≠ ".") =
      ["Acme", "Books"] := by decide +kernel
  rw [hparts] at hnames hdescends
  exact ⟨hlocate, hnames, hdescends⟩

end ApiProxy
