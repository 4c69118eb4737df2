import ApiProxy.Proofs.Export.Settled
import ApiProxy.Proofs.FileTree.Resemblance
import Mathlib.Data.List.Infix

/-!
# Files in one step and in two

A file is written at its place, or beside it and then moved there. The temporary file has a longer
name in the same directory, so if neither this name nor the path with it is too long, and nothing
stands there, the file can be written in two steps where it can be written in one. The other
direction needs less: where the temporary file was written and moved, the file can be written. Only
the way to the file must not go through the place of its temporary file, as it can if the base goes
back through that place.

## Main definitions

* `Path.IsShort`: neither a path nor a name in it is too long.

## Main results

* `Path.temporaryPath_eq`: the path of a temporary file.
* `FileTree.exists_moveFile_of_writeFile`, `FileTree.exists_writeFile_of_moveFile`: writing a file
  in one step and in two.
-/

namespace ApiProxy

open FileTree

/-! ### The path of a temporary file -/

namespace Path

variable {p : Path} {name : String}

theorem mem_intercalate_slash {c : Char} (hc : c ≠ '/') (parts : List String) :
    c ∈ ("/".intercalate parts).toList ↔ ∃ part ∈ parts, c ∈ part.toList := by
  induction parts with
  | nil => simp
  | cons part parts ih =>
    cases parts with
    | nil => simp [String.intercalate_singleton]
    | cons next parts =>
      have hslash : c ∉ "/".toList := fun hmem => hc (List.mem_singleton.1 hmem)
      rw [String.intercalate_cons_cons, String.toList_append, String.toList_append, List.mem_append,
        List.mem_append, ih, or_iff_left hslash]
      simp only [List.exists_mem_cons_iff]

/-- A character other than a slash or a dot is in the text of a path if and only if it is in one of
its parts. -/
theorem mem_text {c : Char} (hslash : c ≠ '/') (hdot : c ≠ '.') (p : Path) :
    c ∈ p.text.toList ↔ ∃ part ∈ p.parts, c ∈ part.toList := by
  obtain ⟨anchor, parts⟩ := p
  cases anchor with
  | root =>
    rw [text, String.toList_append, List.mem_append, mem_intercalate_slash hslash]
    simp [hslash]
  | here =>
    cases parts with
    | nil => simp [text, hdot]
    | cons part parts =>
      rw [text, String.toList_append, List.mem_append, mem_intercalate_slash hslash]
      simp [hslash, hdot]
  | bare => exact mem_intercalate_slash hslash parts

theorem ofText_part (hpart : slashParts name = [name]) (hidle : isIdle name = false) :
    ofText name = ⟨.bare, [name]⟩ := by
  have hslash := not_mem_of_slashParts hpart
  rw [slashParts] at hpart
  rw [ofText]
  split
  · next h =>
    obtain rfl := String.toList_eq_nil_iff.1 h
    cases hidle
  · next h => exact absurd (h ▸ List.mem_cons_self) hslash
  · next h => exact absurd (h ▸ List.mem_cons_self) hslash
  · next h =>
    obtain rfl : name = "." := String.toList_inj.1 h
    cases hidle
  · next h => exact absurd (h ▸ List.mem_cons_of_mem _ List.mem_cons_self) hslash
  · rw [hpart]

theorem front_trimEnd (a : Anchor) (parts : List String) :
    (⟨a, trimEnd parts⟩ : Path).front = trimEnd parts := by
  rw [front, if_neg]
  intro hlast
  have hne : trimEnd parts ≠ [] := by
    intro hnil
    rw [hnil] at hlast
    cases hlast
  have hcounts := List.rdropWhile_last_not isIdle parts hne
  rw [List.getLast?_eq_some_getLast hne, Option.some.injEq] at hlast
  exact hcounts (hlast ▸ rfl)

/-- The temporary file of a path that ends in a name has a longer name in the same directory. -/
theorem temporaryPath_eq {front : List String} (hparts : p.parts = front ++ [name])
    (hidle : isIdle name = false) (hback : name ≠ "..") (hslash : '/' ∉ name.toList) :
    temporaryPath p = ⟨p.anchor, trimEnd front ++ [name ++ temporaryEnding]⟩ := by
  have hfile := fileName?_of_parts hparts hidle hback
  obtain ⟨hpart, hidle', -⟩ := temporary_isName hslash
  rw [temporaryPath, hfile, withFileName, hfile, parent?_of_parts hparts hidle, Option.isSome_some,
    if_pos rfl, Option.getD_some, Option.getD_some]
  by_cases hempty : (⟨p.anchor, trimEnd front⟩ : Path) = empty
  · obtain ⟨hanchor, htrim⟩ := Path.mk.inj hempty
    have hjoin : empty.join (name ++ temporaryEnding) = ofText (name ++ temporaryEnding) :=
      if_pos (by simp)
    rw [hempty, hjoin, hanchor, htrim, ofText_part hpart hidle']
    rfl
  · rw [join_part hempty hpart, front_trimEnd]

/-- Neither a path nor a name in it is too long. -/
def IsShort (p : Path) : Prop :=
  p.text.utf8ByteSize ≤ maxPath ∧ ∀ part ∈ p.parts, part.utf8ByteSize ≤ maxName

instance (p : Path) : Decidable p.IsShort := inferInstanceAs (Decidable (_ ∧ _))

end Path

/-! ### A file in two steps -/

namespace FileTree

variable {t t' t₁ t₂ : FileTree} {base p : Path} {loc : Location} {name content relative : String}

theorem checkText_eq_ok : checkText p = .ok () ↔
    '\x00' ∉ p.text.toList ∧ p ≠ Path.empty ∧ p.text.utf8ByteSize ≤ maxPath := by
  rw [checkText]
  by_cases hzero : p.text.toList.contains '\x00' = true
  · rw [if_pos hzero]
    exact iff_of_false nofun fun h => h.1 (List.contains_iff_mem.1 hzero)
  rw [if_neg hzero]
  by_cases hempty : p = Path.empty
  · rw [if_pos hempty]
    exact iff_of_false nofun fun h => h.2.1 hempty
  rw [if_neg hempty]
  by_cases hlong : maxPath < p.text.utf8ByteSize
  · rw [if_pos hlong]
    exact iff_of_false nofun fun h => Nat.not_lt.2 h.2.2 hlong
  · rw [if_neg hlong]
    exact iff_of_true rfl ⟨mt List.contains_iff_mem.2 hzero, hempty, Nat.not_lt.1 hlong⟩

/-- The parts of a path that ends in a name. -/
theorem EndsIn.exists_parts (h : t.EndsIn p loc name false) :
    ∃ front, p.parts = front ++ [name] ∧
      t.walk (t.start p) (FileTree.steps ⟨p.anchor, front⟩) = .ok loc := by
  obtain ⟨front, blanks, hsteps, -, hslash, hwalk⟩ := h.steps
  obtain rfl := hslash rfl
  obtain ⟨anchor, parts⟩ := p
  rcases List.eq_nil_or_concat' parts with rfl | ⟨init, last, rfl⟩
  · -- only a leading dot could be followed
    have hdot : name ∈ ["."] := by
      rw [FileTree.steps] at hsteps
      split at hsteps
      · exact hsteps ▸ List.mem_concat_self
      · exact absurd hsteps.symm (List.concat_ne_nil _ _)
    obtain rfl := List.mem_singleton.1 hdot
    cases h.isIdle
  · rw [Path.steps_append] at hsteps
    obtain ⟨rfl, hlast⟩ := List.append_inj' hsteps rfl
    obtain rfl := List.head_eq_of_cons_eq hlast
    exact ⟨init, rfl, hwalk⟩

theorem EndsIn.not_mem_slash (h : t.EndsIn p loc name false) (hp : locate base relative = .ok p) :
    '/' ∉ name.toList := by
  obtain ⟨init, hparts, -⟩ := h.exists_parts
  suffices hmem : name ∈ slashParts relative from Path.not_mem_of_slashParts (slashParts_part hmem)
  by_cases hbase : base = Path.empty
  · obtain ⟨rfl, -⟩ := locate_eq_ok hp
    have hparts' (part : String) (hpart : part ∈ slashParts relative) : slashParts part = [part] :=
      slashParts_part hpart
    have hsub := (Path.place_foldl_join t hparts' base).2.2
    rw [hparts, hbase] at hsub
    exact hsub List.mem_concat_self
  · obtain ⟨-, rest, last, hsteps, -, hlast⟩ := exists_steps_locate hbase hp
    rw [← List.append_assoc] at hsteps
    exact (h.front hsteps).1 ▸ hlast

/-- Where a path ends in a name, the path of its temporary file ends in the longer name. -/
theorem EndsIn.temporary (h : t.EndsIn p loc name false) (hslash : '/' ∉ name.toList)
    (hshort : (temporaryPath p).IsShort) :
    t.EndsIn (temporaryPath p) loc (name ++ temporaryEnding) false := by
  obtain ⟨front, hparts, hwalk⟩ := h.exists_parts
  obtain ⟨-, hidle, hback⟩ := Path.temporary_isName hslash
  obtain ⟨idle, hfront, hall⟩ := Path.exists_trimEnd_append front
  have htemp := Path.temporaryPath_eq hparts h.isIdle h.ne_back hslash
  rw [htemp] at hshort ⊢
  refine ⟨checkText_eq_ok.2 ⟨?_, Path.ne_empty_of_parts (List.concat_ne_nil _ _), hshort.1⟩,
    ⟨FileTree.steps ⟨p.anchor, Path.trimEnd front⟩, [], Path.steps_append .., nofun, fun _ => rfl,
      ?_⟩,
    h.isDirectoryAt, hidle, hback, hshort.2 _ List.mem_concat_self⟩
  · -- what is in the longer path was in the path already, the ending apart
    obtain ⟨hzero, -, -⟩ := checkText_eq_ok.1 h.checkText
    rw [Path.mem_text (by decide) (by decide), hparts, hfront] at hzero
    rw [Path.mem_text (by decide) (by decide)]
    rintro ⟨part, hpart, hmem⟩
    rcases List.mem_append.1 hpart with hpart | hpart
    · exact hzero ⟨part, List.mem_append_left _ (List.mem_append_left _ hpart), hmem⟩
    · obtain rfl := List.mem_singleton.1 hpart
      rw [String.toList_append, List.mem_append] at hmem
      rcases hmem with hmem | hmem
      · exact hzero ⟨name, List.mem_concat_self, hmem⟩
      · exact absurd hmem (by decide)
  · rw [hfront, Path.steps_append] at hwalk
    obtain ⟨loc₁, hwalk₁, hidle₁⟩ := walk_append_eq_ok.1 hwalk
    obtain rfl : loc = loc₁ := by
      rw [walk_eq_ok hidle₁, Path.follow_of_isIdle hall]
    exact hwalk₁

/-- A change of one location does not matter to a path that does not go through it. -/
theorem AgreesOff.endsIn_of_not_passesThrough {other : Location} (h : t.AgreesOff (· = other) t')
    (hclear : ¬t.PassesThrough p other) (hend : t.EndsIn p loc name false) :
    t'.EndsIn p loc name false :=
  h.endsIn hend fun front hfront _ heq => hclear ⟨front, hfront, heq.symm⟩

theorem isDirectoryAt_eq_false (h : t.seen? loc ≠ some none) : t.isDirectoryAt loc = false := by
  rw [← Bool.not_eq_true, isDirectoryAt_iff_seen?]
  exact h

/-- A file that can be written at its place can also be written beside it and moved there, which
comes to the same, if nothing is where its temporary file goes and its path does not go through
there. -/
theorem exists_moveFile_of_writeFile (hp : locate base relative = .ok p)
    (hshort : (temporaryPath p).IsShort) (hvacant : t.seen? (t.place (temporaryPath p)) = none)
    (hclear : ¬t.PassesThrough p (t.place (temporaryPath p)))
    (h : t.writeFile p content = .ok t') : ∃ t₁ t₂,
      t.writeFile (temporaryPath p) content = .ok t₁ ∧ t₁.moveFile (temporaryPath p) p = .ok t₂ ∧
        t₂.Resembles t' := by
  obtain ⟨⟨loc, name, hend⟩, hnot, hfile, hagrees⟩ := writeFile_eq_ok h
  have hslash := hend.not_mem_slash hp
  have hne := place_temporaryPath_ne t p
  obtain ⟨t₁, hwrite⟩ := (hend.temporary hslash hshort).writeFile
    (isDirectoryAt_eq_false (hvacant ▸ nofun)) content
  obtain ⟨-, -, hsource, hagrees₁⟩ := writeFile_eq_ok hwrite
  have hend₁ := hagrees₁.endsIn_of_not_passesThrough hclear hend
  have hfree₁ : t₁.isDirectoryAt (t₁.place p) = false := by
    rw [hagrees₁.place]
    exact isDirectoryAt_eq_false ((hagrees₁.seen _ hne.symm).symm ▸ hnot)
  rw [← hagrees₁.place] at hsource
  obtain ⟨t₂, hmove⟩ := hend₁.moveFile (hend₁.temporary hslash hshort) hsource hfree₁
  obtain ⟨-, -, hfile₂, hagrees₂⟩ := moveFile_eq_ok hmove hsource
  have hgone := seen?_of_moveFile hmove hsource (place_temporaryPath_ne t₁ p)
  rw [hagrees₁.place] at hfile₂ hgone
  rw [hagrees₁.place, hagrees₁.place] at hagrees₂
  refine ⟨t₁, t₂, hwrite, hmove, ?_, fun other _ => ?_⟩
  · rw [hagrees.current, hagrees₂.current, hagrees₁.current]
  by_cases hplace : other = t.place p
  · rw [hplace, seen?, seen?, Node.seen?_eq_some_some.2 hfile, Node.seen?_eq_some_some.2 hfile₂]
  rw [hagrees.seen other hplace]
  by_cases htemp : other = t.place (temporaryPath p)
  · rw [htemp, hgone, hvacant]
  · rw [hagrees₂.seen other (not_or.2 ⟨htemp, hplace⟩), hagrees₁.seen other htemp]

/-- A file that can be written by way of its temporary file can be written at its place. -/
theorem exists_writeFile_of_moveFile (hclear : ¬t.PassesThrough p (t.place (temporaryPath p)))
    (h : t.writeFile (temporaryPath p) content = .ok t₁)
    (h' : t₁.moveFile (temporaryPath p) p = .ok t₂) : ∃ t', t.writeFile p content = .ok t' := by
  obtain ⟨-, -, hsource, hagrees⟩ := writeFile_eq_ok h
  rw [← hagrees.place] at hsource
  obtain ⟨⟨loc, name, hend⟩, hnot, -⟩ := moveFile_eq_ok h' hsource
  rw [hagrees.place, hagrees.seen _ (place_temporaryPath_ne t p).symm] at hnot
  have hclear' : ¬t₁.PassesThrough p (t.place (temporaryPath p)) := by
    rwa [PassesThrough, hagrees.start]
  exact (hagrees.symm.endsIn_of_not_passesThrough hclear' hend).writeFile
    (isDirectoryAt_eq_false hnot) content

end FileTree

end ApiProxy
