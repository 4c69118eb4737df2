import ApiProxy.Proofs.FileTree.Walk

/-!
# What is seen at a location

A tree is seen through its locations: at each of them stands nothing, a directory, or a file with
its content. Putting an entry somewhere and taking one away is seen nowhere but at its location and
below. Where a path leads depends on what is seen.

## Main definitions

* `FileTree.seen?`: what is seen at a location.
* `FileTree.AgreesOff`: the same is seen in two trees outside of given locations.

## Main results

* `FileTree.makeDirectory_eq_ok`, `FileTree.writeFile_eq_ok`, `FileTree.moveFile_eq_ok`: what is
  seen after an operation.
* `FileTree.AgreesOff.contains`: a path leads to an entry in all trees in which the same is seen.
-/

namespace ApiProxy

namespace Node

/-- What is seen of an entry: the content of a file, and of a directory that it is one. -/
def content? : Node → Option String
  | file content => some content
  | directory _ => none

/-- What is seen at a location: nothing, a directory, or a file with its content. -/
def seen? (n : Node) (loc : Location) : Option (Option String) := (n.get? loc).map content?

theorem seen?_cons (n : Node) (name : String) (rest : Location) :
    n.seen? (name :: rest) = (n.child? name).bind (·.seen? rest) :=
  Option.map_bind

theorem seen?_eq_none {n : Node} {loc : Location} : n.seen? loc = none ↔ n.get? loc = none :=
  Option.map_eq_none_iff

theorem seen?_eq_some_none {n : Node} {loc : Location} :
    n.seen? loc = some none ↔ ∃ entries, n.get? loc = some (.directory entries) := by
  rw [seen?, Option.map_eq_some_iff]
  constructor
  · rintro ⟨value, hvalue, hcontent⟩
    cases value with
    | file content => exact nomatch hcontent
    | directory entries => exact ⟨entries, hvalue⟩
  · rintro ⟨entries, hentries⟩
    exact ⟨_, hentries, rfl⟩

theorem seen?_eq_some_some {n : Node} {loc : Location} {content : String} :
    n.seen? loc = some (some content) ↔ n.get? loc = some (.file content) := by
  rw [seen?, Option.map_eq_some_iff]
  constructor
  · rintro ⟨value, hvalue, hcontent⟩
    cases value with
    | file content' => exact Option.some.inj hcontent ▸ hvalue
    | directory entries => exact nomatch hcontent
  · intro h
    exact ⟨_, h, rfl⟩

theorem seen?_append_of_ne {n : Node} {loc rest : Location} (hrest : rest ≠ [])
    (h : n.seen? loc ≠ some none) : n.seen? (loc ++ rest) = none := by
  rw [seen?_eq_none, FileTree.get?_append, Option.bind_eq_none_iff]
  intro value hvalue
  obtain ⟨name, rest, rfl⟩ := List.exists_cons_of_ne_nil hrest
  cases value with
  | file content => rfl
  | directory entries => exact absurd (seen?_eq_some_none.2 ⟨entries, hvalue⟩) h

theorem put_put (n : Node) (loc : Location) (value value' : Node) :
    (n.put loc value).put loc value' = n.put loc value' := by
  induction loc generalizing n with
  | nil => rfl
  | cons name rest ih =>
    match n, rest with
    | file _, [] | file _, _ :: _ => rfl
    | directory entries, [] => simp only [put, putAscending_putAscending]
    | directory entries, next :: rest =>
      cases hc : (directory entries).child? name with
      | none => simp only [put, hc]
      | some c =>
        simp only [put, hc, child?_directory_putAscending, if_true, ih,
          putAscending_putAscending]

/-! ### Edits of one location -/

/-- An edit goes down along its location: it leaves what a node is and what stands in it under
other names, and edits what stands under the next name. -/
structure EditsDown (edit : Location → Node → Node) : Prop where
  content (name : String) (rest : Location) (n : Node) :
    (edit (name :: rest) n).content? = n.content?
  other {name m : String} (hm : name ≠ m) (rest : Location) (n : Node) :
    (edit (name :: rest) n).child? m = n.child? m
  next (name : String) {rest : Location} (hrest : rest ≠ []) (n : Node) :
    (edit (name :: rest) n).child? name = (n.child? name).map (edit rest)

/-- An edit is seen nowhere but at its location and below. -/
theorem EditsDown.seen?_of_not_below {edit : Location → Node → Node} (h : EditsDown edit)
    {loc other : Location} (hother : ¬loc <+: other) (n : Node) :
    (edit loc n).seen? other = n.seen? other := by
  induction loc generalizing n other with
  | nil => exact absurd List.nil_prefix hother
  | cons name rest ih =>
    cases other with
    | nil => exact congrArg some (h.content name rest n)
    | cons m others =>
      rw [seen?_cons, seen?_cons]
      by_cases hm : name = m
      · subst hm
        have hbelow : ¬rest <+: others := fun e => hother (List.cons_prefix_cons.2 ⟨rfl, e⟩)
        have hrest : rest ≠ [] := fun e => hbelow (e ▸ List.nil_prefix)
        rw [h.next name hrest, Option.bind_map]
        exact Option.bind_congr fun c _ => ih hbelow c
      · rw [h.other hm]

/-- An edit that changes one name of a directory at the end of its location, and puts the edited
entry back on the way. -/
theorem EditsDown.of_directory {edit : Location → Node → Node}
    (hfile : ∀ name rest content, edit (name :: rest) (file content) = file content)
    (hlast : ∀ name entries, ∃ entries', edit [name] (directory entries) = directory entries' ∧
      ∀ m, name ≠ m → (directory entries').child? m = (directory entries).child? m)
    (hnext : ∀ name rest entries, rest ≠ [] → edit (name :: rest) (directory entries) =
      match (directory entries).child? name with
      | none => directory entries
      | some c => directory (putAscending name (edit rest c) entries)) : EditsDown edit where
  content name rest n := by
    cases n with
    | file content => rw [hfile]
    | directory entries =>
      by_cases hrest : rest = []
      · obtain ⟨entries', h, -⟩ := hlast name entries
        rw [hrest, h]
        rfl
      · rw [hnext name rest entries hrest]
        split <;> rfl
  other {name m} hm rest n := by
    cases n with
    | file content => rw [hfile]
    | directory entries =>
      by_cases hrest : rest = []
      · obtain ⟨entries', h, hother⟩ := hlast name entries
        rw [hrest, h, hother m hm]
      · rw [hnext name rest entries hrest]
        split
        · rfl
        · rw [child?_directory_putAscending, if_neg hm]
  next name {rest} hrest n := by
    cases n with
    | file content =>
      rw [hfile]
      rfl
    | directory entries =>
      rw [hnext name rest entries hrest]
      split
      · next h =>
        rw [h]
        rfl
      · next h =>
        rw [child?_directory_putAscending, if_pos rfl, h]
        rfl

theorem editsDown_put (value : Node) : EditsDown fun loc n => n.put loc value := by
  refine .of_directory (fun _ _ _ => rfl) (fun name entries => ⟨_, rfl, fun m hm => ?_⟩)
    fun name rest entries hrest => ?_
  · rw [child?_directory_putAscending, if_neg hm]
  · obtain ⟨next, rest, rfl⟩ := List.exists_cons_of_ne_nil hrest
    rfl

theorem editsDown_erase : EditsDown fun loc n => n.erase loc := by
  refine .of_directory (fun _ _ _ => rfl) (fun name entries => ⟨_, rfl, fun m hm => ?_⟩)
    fun name rest entries hrest => ?_
  · rw [child?_directory_filter, if_neg hm]
  · obtain ⟨next, rest, rfl⟩ := List.exists_cons_of_ne_nil hrest
    rfl

end Node

namespace FileTree

/-- What is seen at a location. -/
def seen? (t : FileTree) (loc : Location) : Option (Option String) := t.root.seen? loc

variable {t t' : FileTree} {p : Path} {P Q : Location → Prop}

theorem isDirectoryAt_iff_seen? {loc : Location} :
    t.isDirectoryAt loc = true ↔ t.seen? loc = some none :=
  isDirectoryAt_iff.trans Node.seen?_eq_some_none.symm

/-- The same is seen in two trees with one current directory, outside of the locations with a
property. -/
structure AgreesOff (P : Location → Prop) (t t' : FileTree) : Prop where
  current : t'.current = t.current
  seen (loc : Location) (hloc : ¬P loc) : t'.seen? loc = t.seen? loc

theorem AgreesOff.refl (P : Location → Prop) (t : FileTree) : t.AgreesOff P t :=
  ⟨rfl, fun _ _ => rfl⟩

theorem AgreesOff.trans {t'' : FileTree} (h : t.AgreesOff P t') (h' : t'.AgreesOff P t'') :
    t.AgreesOff P t'' :=
  ⟨h'.current.trans h.current, fun loc hloc => (h'.seen loc hloc).trans (h.seen loc hloc)⟩

theorem AgreesOff.symm (h : t.AgreesOff P t') : t'.AgreesOff P t :=
  ⟨h.current.symm, fun loc hloc => (h.seen loc hloc).symm⟩

theorem AgreesOff.mono (h : t.AgreesOff P t') (hPQ : ∀ loc, P loc → Q loc) : t.AgreesOff Q t' :=
  ⟨h.current, fun loc hloc => h.seen loc fun hP => hloc (hPQ loc hP)⟩

theorem AgreesOff.place (h : t.AgreesOff P t') (p : Path) : t'.place p = t.place p :=
  place_congr h.current p

/-! ### Putting an entry and taking one away -/

theorem agreesOff_put (t : FileTree) (loc : Location) (value : Node) :
    t.AgreesOff (loc <+: ·) { t with root := t.root.put loc value } :=
  ⟨rfl, fun _ hother => (Node.editsDown_put value).seen?_of_not_below hother t.root⟩

theorem agreesOff_erase (t : FileTree) (loc : Location) :
    t.AgreesOff (loc <+: ·) { t with root := t.root.erase loc } :=
  ⟨rfl, fun _ hother => Node.editsDown_erase.seen?_of_not_below hother t.root⟩

/-- If no directory stands at a location, before and after, then nothing is seen below it. -/
theorem AgreesOff.of_leaf {loc : Location} (h : t.AgreesOff (loc <+: ·) t')
    (hbefore : t.seen? loc ≠ some none)
    (hafter : ∀ rest, rest ≠ [] → t'.seen? (loc ++ rest) = none) : t.AgreesOff (· = loc) t' := by
  refine ⟨h.current, fun other hother => ?_⟩
  by_cases hprefix : loc <+: other
  · obtain ⟨rest, rfl⟩ := hprefix
    have hrest : rest ≠ [] := fun e => hother (by rw [e, List.append_nil])
    rw [hafter rest hrest]
    exact (Node.seen?_append_of_ne hrest hbefore).symm
  · exact h.seen other hprefix

/-- An entry that is put into a directory stands there. -/
theorem get?_put {loc : Location} {name : String} (value : Node)
    (hdir : t.isDirectoryAt loc = true) :
    (t.root.put (loc ++ [name]) value).get? (loc ++ [name]) = some value := by
  obtain ⟨entries, hentries⟩ := isDirectoryAt_iff.1 hdir
  refine Node.get?_put_self value (fun d hd => ?_) ?_
  · rw [List.dropLast_concat] at hd
    obtain rfl : .directory entries = d := Option.some.inj (hentries.symm.trans hd)
    rfl
  · rw [List.dropLast_concat]
    exact Option.isSome_of_eq_some hentries

/-- A file or an empty directory that is put into a directory, where no directory stands, is seen at
its location only. -/
theorem agreesOff_put_leaf {loc : Location} {name : String} {value : Node}
    (hdir : t.isDirectoryAt loc = true) (hnot : t.seen? (loc ++ [name]) ≠ some none)
    (hleaf : ∀ m, value.child? m = none) :
    t.AgreesOff (· = loc ++ [name]) { t with root := t.root.put (loc ++ [name]) value } := by
  refine (agreesOff_put t _ value).of_leaf hnot fun rest hrest => ?_
  obtain ⟨m, rest, rfl⟩ := List.exists_cons_of_ne_nil hrest
  refine Node.seen?_eq_none.2 ?_
  rw [get?_append, get?_put value hdir, Option.bind_some, Node.get?, hleaf, Option.bind_none]

theorem agreesOff_erase_leaf {loc : Location} (hne : loc ≠ []) (hnot : t.seen? loc ≠ some none) :
    t.AgreesOff (· = loc) { t with root := t.root.erase loc } := by
  refine (agreesOff_erase t loc).of_leaf hnot fun rest _ => Node.seen?_eq_none.2 ?_
  rw [get?_append, Node.get?_erase_self t.root hne, Option.bind_none]

/-! ### Operations -/

/-- A directory is made where nothing stands, and nothing else is changed. -/
theorem makeDirectory_eq_ok (h : t.makeDirectory p = .ok t') :
    t.seen? (t.place p) = none ∧ t'.seen? (t.place p) = some none ∧
      t.AgreesOff (· = t.place p) t' := by
  obtain ⟨⟨loc, last⟩, hlast, h⟩ := bind_eq_ok.1 h
  cases last with
  | name name slash =>
    dsimp only at h
    split at h
    · cases h
    next hfree =>
    obtain rfl := Except.ok.inj h
    have hend := resolveLast_name hlast
    have hnone : t.seen? (loc ++ [name]) = none :=
      Node.seen?_eq_none.2 (Option.not_isSome_iff_eq_none.1 hfree)
    rw [hend.place_eq]
    refine ⟨hnone, Node.seen?_eq_some_none.2 ⟨[], get?_put _ hend.isDirectoryAt⟩, ?_⟩
    exact agreesOff_put_leaf hend.isDirectoryAt (hnone ▸ nofun) fun _ => rfl
  | dot => cases h
  | dotDot => cases h
  | root => cases h

theorem fileLocation_eq_ok {loc : Location} (h : t.fileLocation p = .ok loc) :
    loc = t.place p ∧ (∃ above name, t.EndsIn p above name false) ∧
      t.seen? (t.place p) ≠ some none := by
  obtain ⟨⟨above, last⟩, hlast, h⟩ := bind_eq_ok.1 h
  cases last with
  | name name slash =>
    dsimp only at h
    split at h
    · cases h
    next hslash =>
    split at h
    · cases h
    next hnot =>
    obtain rfl := Except.ok.inj h
    obtain rfl : slash = false := by simpa using hslash
    have hend := resolveLast_name hlast
    rw [hend.place_eq]
    exact ⟨rfl, ⟨above, name, hend⟩, mt isDirectoryAt_iff_seen?.2 hnot⟩
  | dot => cases h
  | dotDot => cases h
  | root => cases h

theorem writeFile_eq_ok_iff {content : String} : t.writeFile p content = .ok t' ↔
    ∃ loc, t.fileLocation p = .ok loc ∧ t' = t.putFile loc content := by
  rw [writeFile]
  cases t.fileLocation p with
  | error f => exact iff_of_false nofun nofun
  | ok loc =>
    constructor
    · exact fun h => ⟨loc, rfl, (Except.ok.inj h).symm⟩
    · rintro ⟨loc', hloc, rfl⟩
      rw [Except.ok.inj hloc]
      rfl

/-- A file is written at the place of its path, and nothing else is changed. -/
theorem writeFile_eq_ok {content : String} (h : t.writeFile p content = .ok t') :
    (∃ loc name, t.EndsIn p loc name false) ∧ t.seen? (t.place p) ≠ some none ∧
      t'.get? (t.place p) = some (.file content) ∧ t.AgreesOff (· = t.place p) t' := by
  obtain ⟨loc, hloc, rfl⟩ := writeFile_eq_ok_iff.1 h
  obtain ⟨rfl, ⟨above, name, hend⟩, hfree⟩ := fileLocation_eq_ok hloc
  refine ⟨⟨above, name, hend⟩, hfree, ?_⟩
  rw [hend.place_eq] at hfree ⊢
  exact ⟨get?_put _ hend.isDirectoryAt,
    agreesOff_put_leaf hend.isDirectoryAt hfree fun _ => rfl⟩

/-- A file is moved from the place of one path to that of another, and nothing else is changed. -/
theorem moveFile_eq_ok {q : Path} {content : String} (h : t.moveFile p q = .ok t')
    (hfile : t.get? (t.place p) = some (.file content)) :
    (∃ loc name, t.EndsIn q loc name false) ∧ t.seen? (t.place q) ≠ some none ∧
      t'.get? (t.place q) = some (.file content) ∧
      t.AgreesOff (fun loc => loc = t.place p ∨ loc = t.place q) t' := by
  obtain ⟨⟨from_, last⟩, hfrom, h⟩ := bind_eq_ok.1 h
  obtain ⟨⟨to_, last'⟩, hto, h⟩ := bind_eq_ok.1 h
  cases last with
  | dot => cases h
  | dotDot => cases h
  | root => cases h
  | name name slash =>
  cases last' with
  | dot => cases h
  | dotDot => cases h
  | root => cases h
  | name name' slash' =>
  have hsource := resolveLast_name hfrom
  have htarget := resolveLast_name hto
  rw [hsource.place_eq] at hfile ⊢
  dsimp only at h
  rw [hfile] at h
  dsimp only at h
  split at h
  · cases h
  next hslash =>
  split at h
  · cases h
  next hnot =>
  obtain rfl := Except.ok.inj h
  obtain ⟨-, rfl⟩ : slash = false ∧ slash' = false := by simpa using hslash
  rw [htarget.place_eq]
  have hfree : t.seen? (to_ ++ [name']) ≠ some none := mt isDirectoryAt_iff_seen?.2 hnot
  have hseen : t.seen? (from_ ++ [name]) = some (some content) := Node.seen?_eq_some_some.2 hfile
  have hleaf : t.seen? (from_ ++ [name]) ≠ some none := hseen ▸ nofun
  have herase := agreesOff_erase_leaf (List.concat_ne_nil _ _) hleaf
  have hkept : t.seen? to_ = some none := isDirectoryAt_iff_seen?.1 htarget.isDirectoryAt
  -- taking the file away leaves its new directory there and makes no directory at its new place
  have hdir := isDirectoryAt_iff_seen?.2
    ((herase.seen to_ fun e => hleaf (e ▸ hkept)).trans hkept)
  have hput : FileTree.seen? { t with root := t.root.erase (from_ ++ [name]) } (to_ ++ [name']) ≠
      some none := by
    by_cases hsame : to_ ++ [name'] = from_ ++ [name]
    · rw [hsame, seen?, Node.seen?_eq_none.2 (Node.get?_erase_self _ (List.concat_ne_nil _ _))]
      exact nofun
    · rw [herase.seen _ hsame]
      exact hfree
  exact ⟨⟨to_, name', htarget⟩, hfree, get?_put _ hdir, (herase.mono fun _ => .inl).trans
    ((agreesOff_put_leaf hdir hput fun _ => rfl).mono fun _ => .inr)⟩

theorem agreesOff_moveFile {q : Path} (h : t.moveFile p q = .ok t') :
    t.AgreesOff (fun loc => t.place p <+: loc ∨ t.place q <+: loc) t' := by
  obtain ⟨⟨from_, last⟩, hfrom, h⟩ := bind_eq_ok.1 h
  obtain ⟨⟨to_, last'⟩, hto, h⟩ := bind_eq_ok.1 h
  cases last with
  | dot => cases h
  | dotDot => cases h
  | root => cases h
  | name name slash =>
  cases last' with
  | dot => cases h
  | dotDot => cases h
  | root => cases h
  | name name' slash' =>
  rw [(resolveLast_name hfrom).place_eq, (resolveLast_name hto).place_eq]
  dsimp only at h
  split at h
  · cases h
  split at h
  · cases h
  split at h
  · cases h
  obtain rfl := Except.ok.inj h
  exact ((agreesOff_erase t _).mono fun _ => .inl).trans
    ((agreesOff_put _ _ _).mono fun _ => .inr)

/-! ### Making what is missing -/

/-- A way to make one directory: if it does not fail, it makes the directory that a path names. -/
def Makes (make : FileTree → Path → Except FileFault FileTree) : Prop :=
  ∀ {t : FileTree} {p : Path} {t' : FileTree}, make t p = .ok t' → t.makeDirectory p = .ok t'

section

variable {make : FileTree → Path → Except FileFault FileTree} {R : FileTree → FileTree → Prop}
  (hmakes : Makes make) (hrefl : ∀ t, R t t) (htrans : ∀ t t' t'', R t t' → R t' t'' → R t t'')

include hmakes hrefl in
theorem ensureDirectory_eq_ok (hmake : ∀ t t', t.makeDirectory p = .ok t' → R t t')
    (h : t.ensureDirectory make p = .ok t') : R t t' := by
  rw [ensureDirectory] at h
  split at h
  · next hmade =>
    obtain rfl := Except.ok.inj h
    exact hmake _ _ (hmakes hmade)
  · split at h
    · obtain rfl := Except.ok.inj h
      exact hrefl _
    · cases h

include hmakes hrefl htrans in
/-- What holds of every directory that is made holds of making all missing ones, also where that
stops half-way. -/
theorem makeMissing_of_makeDirectory {ps : List Path}
    (hmake : ∀ p ∈ ps, ∀ t t', t.makeDirectory p = .ok t' → R t t') (t : FileTree) :
    R t (t.makeMissing make ps).1 := by
  induction ps generalizing t with
  | nil => exact hrefl t
  | cons p above ih =>
    obtain ⟨hp, habove⟩ := List.forall_mem_cons.1 hmake
    rw [makeMissing]
    split
    · next h => exact ensureDirectory_eq_ok hmakes hrefl hp h
    · have hmade := ih habove t
      split
      · next h => rwa [h] at hmade
      · next h =>
        rw [h] at hmade
        split
        · next hlast =>
          exact htrans _ _ _ hmade (ensureDirectory_eq_ok hmakes hrefl hp hlast)
        · exact hmade
    · exact hrefl t

include hmakes hrefl htrans in
theorem makeDirectories_of_makeDirectory
    (hmake : ∀ q ∈ upwards p (p.parts.length + 1), ∀ t t', t.makeDirectory q = .ok t' → R t t')
    (t : FileTree) : R t (t.makeDirectories p make).1 := by
  rw [makeDirectories]
  split
  · exact hrefl t
  · exact makeMissing_of_makeDirectory hmakes hrefl htrans hmake t

end

/-! ### Where paths lead -/

theorem isSome_seen? {loc : Location} : (t.seen? loc).isSome = (t.get? loc).isSome :=
  Option.isSome_map

/-- Who comes to a location finds a directory if one is seen there, or if nothing is seen and the
location was left behind above the current directory. -/
theorem reachesDirectory_iff_seen? {loc : Location} : t.reachesDirectory loc = true ↔
    t.seen? loc = some none ∨ t.seen? loc = none ∧ loc <+: t.current := by
  rw [reachesDirectory, reached?, seen?, Node.seen?, get?]
  cases t.root.get? loc with
  | none =>
    by_cases hcurrent : loc <+: t.current <;>
      simp [Node.isDirectory, Node.emptyDirectory, hcurrent]
  | some n => cases n <;> simp [Node.isDirectory, Node.content?]

/-- A walk goes the same way in a tree in which the same is seen. -/
theorem AgreesOff.walk_eq_ok (h : t.AgreesOff (fun _ => False) t') {loc loc' : Location}
    {parts : List String} (hwalk : t.walk loc parts = .ok loc') : t'.walk loc parts = .ok loc' := by
  have hseen (l : Location) : t'.seen? l = t.seen? l := h.seen l not_false
  induction parts generalizing loc with
  | nil =>
    rw [walk] at hwalk ⊢
    have hsome : (t'.reached? loc).isSome = (t.reached? loc).isSome := by
      rw [reached?, reached?, Option.isSome_or, Option.isSome_or, ← isSome_seen?, ← isSome_seen?,
        hseen, h.current]
    rwa [hsome]
  | cons part parts ih =>
    obtain ⟨hdir, hadmits, hwalk⟩ := walk_cons_eq_ok.1 hwalk
    refine walk_cons_eq_ok.2 ⟨?_, fun hidle hback => ?_, ih hwalk⟩
    · rwa [reachesDirectory_iff_seen?, hseen, h.current, ← reachesDirectory_iff_seen?]
    · rw [← isSome_seen?, hseen, isSome_seen?]
      exact hadmits hidle hback

/-- Whether a path leads to an entry depends on what is seen. -/
theorem AgreesOff.contains (h : t.AgreesOff (fun _ => False) t') (hp : t.contains p = true) :
    t'.contains p = true := by
  obtain ⟨loc, hloc⟩ := contains_iff.1 hp
  obtain ⟨⟨⟩, hcheck, hwalk⟩ := bind_eq_ok.1 hloc
  have hstart : t'.start p = t.start p := by rw [start, start, h.current]
  exact contains_iff.2 ⟨loc, bind_eq_ok.2 ⟨(), hcheck, hstart ▸ h.walk_eq_ok hwalk⟩⟩

end FileTree

end ApiProxy
