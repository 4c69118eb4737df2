import ApiProxy.Proofs.Export.Steps
import ApiProxy.Proofs.Generation.Rendering
import Mathlib.Data.List.DropRight

/-!
# Exports stay in their base

The names of generated files come from a remote service and may hold slashes, dots and anything
else. The place of a generated file is that of the base with the names of its path behind it, since
a path that goes back is refused. A file and the temporary file beside it are strictly below the
base, and so are the directories that are made for them, apart from the base itself and the missing
ones above it.

## Main definitions

* `Below`: a location is strictly below another.
* `FileTree.Confined`: two trees differ only strictly below a base and in directories that were
  made for it.

## Main results

* `Job.exportFiles_confined`: an export changes nothing outside of its base.
-/

namespace ApiProxy

open FileTree

/-- A location is strictly below another. -/
def Below (base loc : Location) : Prop := base <+: loc ∧ loc ≠ base

instance (base loc : Location) : Decidable (Below base loc) :=
  inferInstanceAs (Decidable (_ ∧ _))

theorem below_append {base rest : Location} (h : rest ≠ []) : Below base (base ++ rest) :=
  ⟨List.prefix_append _ _, fun e => h (List.append_right_eq_self.1 e)⟩

theorem Below.extend {loc other : Location} (h : Below base loc) (hother : loc <+: other) :
    Below base other := by
  refine ⟨h.1.trans hother, ?_⟩
  rintro rfl
  exact h.2 (hother.eq_of_length_le h.1.length_le)

/-! ### Paths above a path -/

namespace Path

variable {p : Path}

theorem place_eq_append (t : FileTree) (hback : ".." ∉ p.parts) :
    t.place p = t.start p ++ p.names := by
  have hdot : Path.isIdle "." = true := by decide
  rw [place, steps]
  split
  · rw [follow_eq_append (by simpa using hback), List.filter_cons_of_neg (by simp [hdot])]
    rfl
  · rw [follow_eq_append hback]
    rfl

/-- The path above a path loses its last name. -/
theorem parent?_eq_some (t : FileTree) {p q : Path} (h : p.parent? = some q) :
    t.start q = t.start p ∧ q.parts <+: p.parts ∧ q.names = p.names.dropLast := by
  rw [parent?] at h
  split at h
  · exact nomatch h
  · next htrim hanchor =>
    obtain rfl := Option.some.inj h
    refine ⟨?_, List.nil_prefix, ?_⟩
    · rw [start, start, isAbsolute, isAbsolute, hanchor]
      rfl
    · rw [names, names, ← filter_trimEnd p.parts, htrim]
      rfl
  · exact nomatch h
  · next hroot hhere hbare =>
    obtain rfl := Option.some.inj h
    have hne : trimEnd p.parts ≠ [] := fun htrim => by
      cases hanchor : p.anchor with
      | root => exact hroot htrim hanchor
      | here => exact hhere htrim hanchor
      | bare => exact hbare htrim hanchor
    have hlast : isIdle ((trimEnd p.parts).getLast hne) = false :=
      (Bool.not_eq_true _).mp (List.rdropWhile_last_not isIdle p.parts hne)
    refine ⟨rfl, ?_, ?_⟩
    · exact (List.rdropWhile_prefix _ _).trans
        ((List.dropLast_prefix _).trans (List.rdropWhile_prefix _ _))
    · rw [names, names, filter_trimEnd, ← filter_trimEnd p.parts]
      conv_rhs => rw [← List.dropLast_concat_getLast hne, List.filter_append,
        List.filter_cons_of_pos (by rw [hlast, Bool.not_false]), List.filter_nil,
        List.dropLast_concat]

theorem mem_upwards (t : FileTree) {p q : Path} {n : Nat} (h : q ∈ upwards p n) :
    t.start q = t.start p ∧ q.parts <+: p.parts := by
  induction n generalizing p with
  | zero => exact absurd h List.not_mem_nil
  | succ n ih =>
    rw [upwards] at h
    rcases List.mem_cons.1 h with rfl | h
    · exact ⟨rfl, List.prefix_rfl⟩
    split at h
    · exact absurd h List.not_mem_nil
    next q' hq' =>
    split at h
    · exact absurd h List.not_mem_nil
    obtain ⟨hstart, hparts, -⟩ := parent?_eq_some t hq'
    obtain ⟨hstart', hparts'⟩ := ih h
    exact ⟨hstart'.trans hstart, hparts'.trans hparts⟩

end Path

/-! ### Temporary files -/

namespace Path

variable {p : Path} {name : String}

theorem follow_of_isIdle {idle : List String} (h : ∀ part ∈ idle, isIdle part = true)
    (loc : Location) : follow loc idle = loc := by
  induction idle with
  | nil => rfl
  | cons part idle ih =>
    obtain ⟨hpart, h⟩ := List.forall_mem_cons.1 h
    rw [follow, List.foldl_cons, advance, if_pos hpart]
    exact ih h

theorem exists_trimEnd_append (parts : List String) :
    ∃ idle, parts = trimEnd parts ++ idle ∧ ∀ part ∈ idle, isIdle part = true :=
  ⟨parts.rtakeWhile isIdle, List.rdropWhile_append_rtakeWhile.symm,
    fun _ => List.mem_rtakeWhile_imp⟩

/-- The path above a path that ends in a name. -/
theorem parent?_of_parts {front : List String} (hparts : p.parts = front ++ [name])
    (hidle : isIdle name = false) : p.parent? = some ⟨p.anchor, trimEnd front⟩ := by
  have htrim : trimEnd p.parts = p.parts := by
    rw [hparts]
    exact List.rdropWhile_concat_neg _ _ _ (by rw [hidle]; exact Bool.false_ne_true)
  rw [parent?, htrim, hparts]
  split
  · next hnil _ => exact absurd hnil (List.concat_ne_nil _ _)
  · next hnil _ => exact absurd hnil (List.concat_ne_nil _ _)
  · next hnil _ => exact absurd hnil (List.concat_ne_nil _ _)
  · rw [List.dropLast_concat]

theorem fileName?_of_parts {front : List String} (hparts : p.parts = front ++ [name])
    (hidle : isIdle name = false) (hback : name ≠ "..") : p.fileName? = some name := by
  have hnames : p.names = (front.filter fun part => !isIdle part) ++ [name] := by
    rw [names, hparts, List.filter_append,
      List.filter_cons_of_pos (by rw [hidle, Bool.not_false]), List.filter_nil]
  rw [fileName?, hnames, List.getLast?_concat, Option.filter_some, if_pos (by simpa using hback)]

/-- A path that ends in a name leads to that name in the directory that the path above it leads
to. -/
theorem place_of_parent? (t : FileTree) {front : List String} (hparts : p.parts = front ++ [name])
    (hidle : isIdle name = false) (hback : name ≠ "..") :
    ∃ q, p.parent? = some q ∧ t.place p = t.place q ++ [name] := by
  obtain ⟨idle, hfront, hall⟩ := exists_trimEnd_append front
  refine ⟨_, parent?_of_parts hparts hidle, ?_⟩
  have hsteps : steps p = steps ⟨p.anchor, trimEnd front⟩ ++ idle ++ [name] := by
    obtain ⟨anchor, parts⟩ := p
    dsimp only at hparts ⊢
    rw [hparts, hfront, steps_append, steps_append, ← hfront]
  rw [place, hsteps, follow_append, follow_append, follow_of_isIdle hall]
  exact advance_name _ hidle hback

/-- The name of a temporary file is a single part that counts. -/
theorem temporary_isName (hslash : '/' ∉ name.toList) :
    slashParts (name ++ temporaryEnding) = [name ++ temporaryEnding] ∧
      isIdle (name ++ temporaryEnding) = false ∧ name ++ temporaryEnding ≠ ".." := by
  constructor
  · have hfree : '/' ∉ (name ++ temporaryEnding).toList := by
      rw [String.toList_append, List.mem_append, not_or]
      exact ⟨hslash, by decide⟩
    rw [slashParts, splitSlash_of_not_mem hfree, List.map_singleton, String.ofList_toList]
  · have hsuffix : temporaryEnding.toList <:+ (name ++ temporaryEnding).toList := by
      rw [String.toList_append]
      exact List.suffix_append _ _
    exact isName_of_suffix (by decide) hsuffix

/-- The temporary file of a path that ends in a name is put beside the file. -/
theorem place_temporaryPath_eq (t : FileTree) {front : List String}
    (hparts : p.parts = front ++ [name]) (hidle : isIdle name = false) (hback : name ≠ "..")
    (hslash : '/' ∉ name.toList) : ∃ loc, t.place p = loc ++ [name] ∧
      t.place (temporaryPath p) = loc ++ [name ++ temporaryEnding] := by
  have hfile := fileName?_of_parts hparts hidle hback
  obtain ⟨hpart, hidle', hback'⟩ := temporary_isName hslash
  obtain ⟨q, hq, hplace⟩ := place_of_parent? t hparts hidle hback
  refine ⟨t.place q, hplace, ?_⟩
  rw [temporaryPath, hfile, withFileName, hfile, hq, Option.isSome_some, if_pos rfl,
    Option.getD_some, Option.getD_some, (place_join t q hpart).2.1]
  exact advance_name _ hidle' hback'

end Path

/-- The path of a generated file ends in the last part of the generated path. -/
theorem exists_parts_locate {base p : Path} {relative last : String} {init : List String}
    (hparts : slashParts relative = init ++ [last]) (hidle : Path.isIdle last = false)
    (h : locate base relative = .ok p) : ∃ front, p.parts = front ++ [last] := by
  obtain ⟨rfl, -⟩ := locate_eq_ok h
  have hpart : slashParts last = [] ++ [last] := slashParts_part (hparts ▸ List.mem_concat_self)
  rw [hparts, List.foldl_append]
  exact Path.parts_join _ hpart hidle

/-- A generated file and its temporary file are put below the base, the latter beside the former. -/
structure SourceFile.PutBelow (f : SourceFile) (base p : Path) (names : List String)
    (name : String) : Prop where
  pathNames_eq : pathNames f.path = names ++ [name]
  parts : ∃ front, p.parts = front ++ [name]
  isIdle : Path.isIdle name = false
  ne_back : name ≠ ".."
  place_eq (t : FileTree) : t.place p = t.place base ++ (names ++ [name])
  temporary_eq (t : FileTree) :
    t.place (temporaryPath p) = t.place base ++ (names ++ [name ++ temporaryEnding])

theorem SourceFile.IsUsual.exists_putBelow {f : SourceFile} {base p : Path} (hf : f.IsUsual)
    (hp : locate base f.path = .ok p) : ∃ names name, f.PutBelow base p names name := by
  obtain ⟨s, hs⟩ := hf.path
  obtain ⟨front, last, hparts⟩ := exists_slashParts_append s
  specialize hparts _ f.kind.isEnding.slash
  rw [← hs] at hparts
  have hsuffix : f.kind.ending.toList <:+ (last ++ f.kind.ending).toList := by
    rw [String.toList_append]
    exact List.suffix_append _ _
  obtain ⟨hidle, hback⟩ := isName_of_suffix f.kind.isEnding.long hsuffix
  have hnames : pathNames f.path =
      (front.filter fun part => !Path.isIdle part) ++ [last ++ f.kind.ending] := by
    rw [pathNames, hparts, List.filter_append,
      List.filter_cons_of_pos (by rw [hidle, Bool.not_false]), List.filter_nil]
  have hslash : '/' ∉ (last ++ f.kind.ending).toList :=
    Path.not_mem_of_slashParts (slashParts_part (hparts ▸ List.mem_concat_self))
  obtain ⟨init, hinit⟩ := exists_parts_locate hparts hidle hp
  have hplace (t : FileTree) : t.place p = t.place base ++
      ((front.filter fun part => !Path.isIdle part) ++ [last ++ f.kind.ending]) :=
    hnames ▸ (place_locate t hp).2.1
  refine ⟨_, _, hnames, ⟨init, hinit⟩, hidle, hback, hplace, fun t => ?_⟩
  obtain ⟨loc, hloc, htemp⟩ := Path.place_temporaryPath_eq t hinit hidle hback hslash
  rw [hplace t, ← List.append_assoc] at hloc
  rw [htemp, ← (List.append_inj' hloc rfl).1, List.append_assoc]

/-- A generated file and the temporary file beside it are strictly below the base. -/
theorem SourceFile.IsUsual.below {f : SourceFile} (hf : f.IsUsual) (t : FileTree) {base p : Path}
    (hp : locate base f.path = .ok p) :
    Below (t.place base) (t.place p) ∧ Below (t.place base) (t.place (temporaryPath p)) := by
  obtain ⟨names, name, hput⟩ := hf.exists_putBelow hp
  rw [hput.place_eq, hput.temporary_eq]
  exact ⟨below_append (List.concat_ne_nil _ _), below_append (List.concat_ne_nil _ _)⟩

/-! ### Confined changes -/

namespace FileTree

variable {base : Location} {t t' : FileTree} {p : Path}

/-- Two trees differ only strictly below a base, and in that missing directories were made down to
the base. -/
structure Confined (base : Location) (t t' : FileTree) : Prop where
  current : t'.current = t.current
  outside (loc : Location) (hloc : ¬Below base loc) : t'.seen? loc = t.seen? loc ∨
    loc <+: base ∧ t.seen? loc = none ∧ t'.seen? loc = some none

theorem Confined.refl (base : Location) (t : FileTree) : t.Confined base t :=
  ⟨rfl, fun _ _ => .inl rfl⟩

theorem Confined.trans {t'' : FileTree} (h : t.Confined base t') (h' : t'.Confined base t'') :
    t.Confined base t'' := by
  refine ⟨h'.current.trans h.current, fun loc hloc => ?_⟩
  rcases h.outside loc hloc with hsame | ⟨habove, hnone, hmade⟩
  · rw [← hsame]
    exact h'.outside loc hloc
  · rcases h'.outside loc hloc with hsame' | ⟨-, hnone', -⟩
    · exact .inr ⟨habove, hnone, hsame'.trans hmade⟩
    · exact nomatch hmade.symm.trans hnone'

theorem AgreesOff.confined {P : Location → Prop} (h : t.AgreesOff P t')
    (hP : ∀ loc, P loc → Below base loc) : t.Confined base t' :=
  ⟨h.current, fun loc hloc => .inl (h.seen loc fun hloc' => hloc (hP loc hloc'))⟩

theorem confined_makeDirectory {loc : Location} (hloc : Below base loc) (hp : t.place p <+: loc)
    (h : t.makeDirectory p = .ok t') : t.Confined base t' := by
  obtain ⟨hnone, hmade, hagrees⟩ := makeDirectory_eq_ok h
  refine ⟨hagrees.current, fun other hother => ?_⟩
  by_cases hplace : other = t.place p
  · subst hplace
    rcases List.prefix_or_prefix_of_prefix hp hloc.1 with habove | hbelow
    · exact .inr ⟨habove, hnone, hmade⟩
    · refine .inr ⟨?_, hnone, hmade⟩
      exact (not_not.1 fun hne => hother ⟨hbelow, hne⟩) ▸ List.prefix_rfl
  · exact .inl (hagrees.seen other hplace)

end FileTree

/-! ### Jobs -/

namespace Job

variable {α β : Type} {R : FileTree → FileTree → Prop}

/-- A job takes every tree to one that is related to it, on every disk. -/
def Relates (R : FileTree → FileTree → Prop) (j : Job α) : Prop :=
  ∀ (w : World) (disk : Disk), R w.tree (j.perform w disk).2.tree

section

variable (hrefl : ∀ t, R t t) (htrans : ∀ t t' t'', R t t' → R t' t'' → R t t'')

include hrefl in
theorem relates_pure (a : α) : Relates R (pure a) := fun w _ => hrefl w.tree

theorem relates_get_bind {k : World → Job β} (h : ∀ w, Relates R (k w)) :
    Relates R ((get : Job World) >>= k) := fun w disk => by
  rw [perform_bind, perform_get]
  exact h w w disk

include htrans in
theorem Relates.bind {j : Job α} {k : α → Job β} (hj : Relates R j) (hk : ∀ a, Relates R (k a)) :
    Relates R (j >>= k) := fun w disk => by
  have hfirst := hj w disk
  rw [perform_bind]
  generalize j.perform w disk = x at hfirst ⊢
  rcases x with ⟨e | a, w₁⟩
  · exact hfirst
  · exact htrans _ _ _ hfirst (hk a w₁ disk)

include hrefl in
theorem relates_change {p : Path} {operation : Disk → FileTree → Except FileFault FileTree}
    (h : ∀ disk t t', operation disk t = .ok t' → R t t') :
    Relates R (change p operation) := fun w disk => by
  rw [perform_change]
  cases hop : operation disk w.tree with
  | ok t => exact h _ _ _ hop
  | error f => exact hrefl w.tree

theorem relates_changePartly {p : Path}
    {operation : Disk → FileTree → FileTree × Except FileFault Unit}
    (h : ∀ disk t, R t (operation disk t).1) :
    Relates R (changePartly p operation) := fun w disk => by
  rw [perform_changePartly]
  exact h disk w.tree

/-! ### Exports -/

variable {o : ExportOptions} {base p : Path} {f : SourceFile}

include hrefl in
theorem relates_writeFile {content : String}
    (h : ∀ t t' other, t.writeFile p other = .ok t' → R t t') :
    Relates R (changePartly p (·.writeFile · p content)) :=
  relates_changePartly fun disk t => by
    rcases disk.writeFile_fst t p content with hsame | ⟨other, hother⟩
    · rw [hsame]
      exact hrefl t
    · exact h _ _ other hother

include hrefl htrans in
/-- Saving a description relates what making room for it and writing it relate. -/
theorem relates_saveDescription {m : ApiDescription} (hroom : Relates R (makeRoom p))
    (hwrite : ∀ t t' other, t.writeFile p other = .ok t' → R t t') :
    Relates R (saveDescription p m) :=
  hroom.bind htrans fun _ => (relates_writeFile hrefl hwrite).bind htrans fun _ w _ =>
    hrefl w.tree

include hrefl htrans in
/-- Writing a file relates trees that differ at most at or below the places of the file and of its
temporary file. -/
theorem relates_write_of_agreesOff {atomic : Bool} {content : String}
    (h : ∀ t t' : FileTree, t.AgreesOff
      (fun loc => t.place (temporaryPath p) <+: loc ∨ t.place p <+: loc) t' → R t t') :
    Relates R (write atomic p content) := by
  cases atomic with
  | false =>
    rw [write, if_neg Bool.false_ne_true]
    exact relates_writeFile hrefl fun t t' other hother => h t t'
      ((writeFile_eq_ok hother).2.2.2.mono fun loc hloc => .inr (hloc ▸ List.prefix_rfl))
  | true =>
    rw [write, if_pos rfl]
    have hwrite : Relates R (changePartly (temporaryPath p)
        (·.writeFile · (temporaryPath p) content)) :=
      relates_writeFile hrefl fun t t' other hother => h t t'
        ((writeFile_eq_ok hother).2.2.2.mono fun loc hloc => .inl (hloc ▸ List.prefix_rfl))
    refine hwrite.bind htrans fun _ => (relates_change hrefl fun disk t t' hsync => ?_).bind htrans
      fun _ => relates_change hrefl fun disk t t' hmove => ?_
    · exact Disk.syncFile_eq_ok hsync ▸ hrefl t
    · exact h t t' (agreesOff_moveFile (Disk.moveFile_eq_ok hmove))

include hrefl htrans in
/-- The export of a file relates what making room for the file and writing it relate. -/
theorem relates_exportFile (h : ∀ p, locate base f.path = .ok p →
    Relates R (makeRoom p) ∧ Relates R (write o.atomic p f.content)) :
    Relates R (exportFile o base f) := by
  rw [exportFile]
  cases hp : locate base f.path with
  | error e => exact fun w _ => hrefl w.tree
  | ok p =>
    have hpure : (ofExcept (.ok p) : Job Path) = pure p := rfl
    obtain ⟨hroom, hwrite⟩ := h p hp
    rw [hpure, pure_bind]
    refine relates_get_bind fun w => ?_
    split
    · exact fun w _ => hrefl w.tree
    · exact hroom.bind htrans fun _ => hwrite.bind htrans fun _ w _ => hrefl w.tree

include hrefl htrans in
theorem relates_exportFiles {fs : List SourceFile}
    (h : ∀ f ∈ fs, Relates R (exportFile o base f)) : Relates R (exportFiles o base fs) := by
  induction fs with
  | nil => exact relates_pure hrefl _
  | cons f fs ih =>
    obtain ⟨hf, hfs⟩ := List.forall_mem_cons.1 h
    exact hf.bind htrans fun _ => (ih hfs).bind htrans fun _ w _ => hrefl w.tree

end

end Job

/-! ### Exports to a base -/

/-- A change of a tree with a given current directory is confined to the place of a base. -/
def StaysBelow (t₀ : FileTree) (base : Path) (t t' : FileTree) : Prop :=
  t.current = t₀.current → t.Confined (t₀.place base) t'

namespace StaysBelow

variable {t₀ t t' t'' : FileTree} {base : Path}

theorem refl (t₀ : FileTree) (base : Path) (t : FileTree) : StaysBelow t₀ base t t :=
  fun _ => .refl _ t

theorem trans (h : StaysBelow t₀ base t t') (h' : StaysBelow t₀ base t' t'') :
    StaysBelow t₀ base t t'' :=
  fun ht => (h ht).trans (h' ((h ht).current.trans ht))

end StaysBelow

namespace Job

variable {base p : Path} {f : SourceFile}

theorem relates_makeRoom (t₀ : FileTree) (hf : f.IsUsual) (hbase : ".." ∉ base.parts)
    (hp : locate base f.path = .ok p) : Relates (StaysBelow t₀ base) (makeRoom p) := by
  rw [makeRoom]
  split
  · exact relates_pure (.refl t₀ base) _
  next parent hparent =>
  refine relates_changePartly fun disk => makeDirectories_of_makeDirectory
    disk.makes_makeDirectory (.refl t₀ base) (fun _ _ _ => .trans) fun q hq t t' hmake ht => ?_
  obtain ⟨hstart, hparts, -⟩ := Path.parent?_eq_some t hparent
  obtain ⟨hstart', hparts'⟩ := Path.mem_upwards t hq
  have hback : ".." ∉ p.parts := (place_locate t hp).2.2 hbase
  have hsub : q.parts <+: p.parts := hparts'.trans hparts
  have hplace : t.place q <+: t.place p := by
    rw [Path.place_eq_append t hback, Path.place_eq_append t fun h => hback (hsub.subset h),
      hstart', hstart, List.prefix_append_right_inj]
    exact hsub.filter _
  rw [← place_congr ht]
  exact confined_makeDirectory (hf.below t hp).1 hplace hmake

theorem relates_write (t₀ : FileTree) (atomic : Bool) (hf : f.IsUsual)
    (hp : locate base f.path = .ok p) :
    Relates (StaysBelow t₀ base) (write atomic p f.content) := by
  refine relates_write_of_agreesOff (.refl t₀ base) (fun _ _ _ => .trans) fun t t' h ht => ?_
  obtain ⟨hfile, htemporary⟩ := hf.below t hp
  rw [← place_congr ht]
  exact h.confined fun loc hloc => hloc.elim htemporary.extend hfile.extend

theorem relates_export (t₀ : FileTree) (o : ExportOptions) (hbase : ".." ∉ base.parts)
    {fs : List SourceFile} (hfs : ∀ f ∈ fs, f.IsUsual) :
    Relates (StaysBelow t₀ base) (exportFiles o base fs) :=
  relates_exportFiles (.refl t₀ base) (fun _ _ _ => .trans) fun f hf =>
    relates_exportFile (.refl t₀ base) (fun _ _ _ => .trans) fun _ hp =>
      ⟨relates_makeRoom t₀ (hfs f hf) hbase hp, relates_write t₀ o.atomic (hfs f hf) hp⟩

end Job

/-- On any disk, the export of generated files, and of the first of them, whether it comes to its
end or stops, changes nothing outside of its base, but for making the base and the missing
directories above it; the files and the temporary files are strictly below the base. -/
theorem Job.exportFiles_confined (o : ExportOptions) (g : GeneratorOptions) (m : ApiDescription)
    (base : Path) (w : World) (disk : Disk) (hbase : ".." ∉ base.parts) :
    ∃ files, m.generate g = .ok files ∧
      (∀ fs, fs <+: files → w.tree.Confined (w.tree.place base)
        ((Job.exportFiles o base fs).perform w disk).2.tree) ∧
      ∀ f ∈ files, ∀ p, locate base f.path = .ok p →
        Below (w.tree.place base) (w.tree.place p) ∧
          Below (w.tree.place base) (w.tree.place (temporaryPath p)) := by
  obtain ⟨files, hfiles⟩ := m.exists_generate_eq_ok g
  have husual {f : SourceFile} (hf : f ∈ files) : f.IsUsual :=
    ApiDescription.isUsual_of_generate hfiles hf
  refine ⟨files, hfiles, fun fs hfs => ?_, fun f hf p hp => (husual hf).below w.tree hp⟩
  exact Job.relates_export w.tree o hbase (fun f hf => husual (hfs.subset hf)) w disk rfl

/-- A service with slashes and dots in its names, and one whose namespace makes its paths
absolute. -/
def hostileDescription : ApiDescription :=
  let controller (name type : String) : Controller :=
    ⟨name, none, true, false, none, type, [⟨"IBookAppService", none, []⟩], .empty⟩
  ⟨.ofList [("app", ⟨"app", "Default", .ofList
    [("a", controller "./a//./b" "Acme..Books.C"), ("b", controller "Passwd" ".etc.C")]⟩)], .empty⟩

/-- A world whose current directory is empty. -/
def emptyWorld : World where
  tree := ⟨.directory [("work", .directory [])], ["work"]⟩
  network := .silent

/-- The files of the first service are written below a new base, those of the second stop the
export. -/
theorem Job.exportFiles_confined_hostile :
    ".." ∉ (Path.ofText "out").parts ∧
      (∃ files, hostileDescription.generate ⟨.namespaced, true⟩ = .ok files ∧
        (∀ fs, fs <+: files → emptyWorld.tree.Confined (emptyWorld.tree.place (.ofText "out"))
          ((exportFiles {} (.ofText "out") fs).perform emptyWorld).2.tree) ∧
        ∀ f ∈ files, ∀ p, locate (.ofText "out") f.path = .ok p →
          Below (emptyWorld.tree.place (.ofText "out")) (emptyWorld.tree.place p) ∧
            Below (emptyWorld.tree.place (.ofText "out"))
              (emptyWorld.tree.place (temporaryPath p))) ∧
      (hostileDescription.generate ⟨.namespaced, true⟩).toOption.any fun files =>
        let (r, w) := (exportFiles {} (.ofText "out") files).perform emptyWorld
        !r.isOk &&
          (w.tree.get? ["work", "out", "Acme", "Books", "a", "bClientProxy.cs"]).isSome := by
  have hbase : ".." ∉ (Path.ofText "out").parts := by decide +kernel
  exact ⟨hbase, exportFiles_confined {} _ hostileDescription _ emptyWorld .sound hbase,
    by decide +kernel⟩

end ApiProxy
