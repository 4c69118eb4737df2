import ApiProxy.FileTree
import ApiProxy.Proofs.Except
import Mathlib.Data.List.TakeWhile

/-!
# Where a path leads

Without links the location that a path leads to is decided by its text and the current
directory; what exists only decides whether one gets there. So a path keeps its place while a
tree changes, and the walk along it can only meet other entries on the way.

A walk that reached a directory goes the same way in every later tree that has all its
directories, unless a file has taken the place of one that existed only for whoever stood in it.

## Main definitions

* `FileTree.place`: where a path leads, by its text alone.
* `FileTree.Extends`: a later tree that has all directories of an earlier one.

## Main results

* `FileTree.walk_eq_ok`, `FileTree.resolveLast_name`: a path that is resolved leads to its place.
* `FileTree.Extends.walk`: walks in a later tree.
* `FileTree.walk_straight`: a walk down to an entry that exists.
-/

namespace ApiProxy.FileTree

/-- Where a part leads from a location. -/
def advance (loc : Location) (part : String) : Location :=
  if Path.isIdle part then loc else if part = ".." then loc.dropLast else loc ++ [part]

/-- Where parts lead from a location, one after the other. -/
def follow (loc : Location) (parts : List String) : Location := parts.foldl advance loc

/-- Where a path leads, by its text alone. -/
def place (t : FileTree) (p : Path) : Location := follow (t.start p) (steps p)

variable {t t' : FileTree} {p : Path}

theorem follow_append (loc : Location) (parts more : List String) :
    follow loc (parts ++ more) = follow (follow loc parts) more :=
  List.foldl_append

theorem advance_name (loc : Location) {part : String} (h : Path.isIdle part = false)
    (h' : part ≠ "..") : advance loc part = loc ++ [part] := by
  rw [advance, h, if_neg Bool.false_ne_true, if_neg h']

theorem place_congr (h : t'.current = t.current) (p : Path) : t'.place p = t.place p := by
  rw [place, place, start, start, h]

/-! ### Walks -/

theorem reachesDirectory_iff {loc : Location} :
    t.reachesDirectory loc = true ↔ ∃ entries, t.reached? loc = some (.directory entries) := by
  rw [reachesDirectory]
  cases t.reached? loc with
  | none => simp
  | some n => cases n <;> simp [Node.isDirectory]

theorem isDirectoryAt_iff {loc : Location} :
    t.isDirectoryAt loc = true ↔ ∃ entries, t.get? loc = some (.directory entries) := by
  rw [isDirectoryAt]
  cases t.get? loc with
  | none => simp
  | some n => cases n <;> simp [Node.isDirectory]

theorem reached?_of_get? {loc : Location} {n : Node} (h : t.get? loc = some n) :
    t.reached? loc = some n := by
  rw [reached?, h, Option.some_or]

/-- From a location there is a way on along a part: nothing is asked of `..` and of parts that
count for nothing, and a name has to be short enough and to be there. -/
def Admits (t : FileTree) (loc : Location) (part : String) : Prop :=
  Path.isIdle part = false → part ≠ ".." →
    part.utf8ByteSize ≤ maxName ∧ (t.get? (loc ++ [part])).isSome = true

/-- One step of a walk. -/
theorem walk_cons (loc : Location) (part : String) (parts : List String) :
    (t.Admits loc part ∧ ∀ entries, t.reached? loc = some (.directory entries) →
        t.walk loc (part :: parts) = t.walk (advance loc part) parts) ∨
      (¬t.Admits loc part ∧ ∀ entries, t.reached? loc = some (.directory entries) →
        t.walk loc (part :: parts) =
          .error (if maxName < part.utf8ByteSize then .nameTooLong else .missing)) := by
  by_cases hidle : Path.isIdle part = true
  · refine .inl ⟨fun h => absurd h (by simp [hidle]), fun entries hloc => ?_⟩
    rw [walk, hloc, advance, if_pos hidle, if_pos hidle]
  · by_cases hback : part = ".."
    · refine .inl ⟨fun _ h => absurd hback h, fun entries hloc => ?_⟩
      rw [walk, hloc, advance, if_neg hidle, if_pos hback]
      dsimp only
      rw [if_neg hidle, if_pos hback]
    · by_cases hlong : maxName < part.utf8ByteSize
      · refine .inr ⟨fun h => ?_, fun entries hloc => ?_⟩
        · have := (h (by simpa using hidle) hback).1
          omega
        · rw [walk, hloc, if_pos hlong]
          dsimp only
          rw [if_neg hidle, if_neg hback, if_pos hlong]
      · by_cases hsome : (t.get? (loc ++ [part])).isSome = true
        · refine .inl ⟨fun _ _ => ⟨by omega, hsome⟩, fun entries hloc => ?_⟩
          rw [walk, hloc, advance, if_neg hidle, if_neg hback]
          dsimp only
          rw [if_neg hidle, if_neg hback, if_neg hlong, if_pos hsome]
        · refine .inr ⟨fun h => hsome (h (by simpa using hidle) hback).2, fun entries hloc => ?_⟩
          rw [walk, hloc, if_neg hlong]
          dsimp only
          rw [if_neg hidle, if_neg hback, if_neg hlong, if_neg hsome]

/-- A walk whose next step succeeds. -/
theorem walk_cons_of_admits {loc : Location} {part : String} {parts : List String}
    (hloc : t.reachesDirectory loc = true) (h : t.Admits loc part) :
    t.walk loc (part :: parts) = t.walk (advance loc part) parts := by
  obtain ⟨entries, hloc⟩ := reachesDirectory_iff.1 hloc
  rcases walk_cons loc part parts with ⟨-, hwalk⟩ | ⟨hnot, -⟩
  · exact hwalk entries hloc
  · exact absurd h hnot

theorem walk_cons_eq_ok {loc loc' : Location} {part : String} {parts : List String} :
    t.walk loc (part :: parts) = .ok loc' ↔
      t.reachesDirectory loc = true ∧ t.Admits loc part ∧
        t.walk (advance loc part) parts = .ok loc' := by
  constructor
  · intro h
    have hloc : t.reachesDirectory loc = true := by
      rw [walk] at h
      split at h
      · exact nomatch h
      · exact nomatch h
      · next entries hloc => exact reachesDirectory_iff.2 ⟨entries, hloc⟩
    obtain ⟨entries, hentries⟩ := reachesDirectory_iff.1 hloc
    rcases walk_cons loc part parts with ⟨hadmits, hwalk⟩ | ⟨-, hwalk⟩
    · exact ⟨hloc, hadmits, (hwalk entries hentries).symm.trans h⟩
    · exact nomatch (hwalk entries hentries).symm.trans h
  · rintro ⟨hloc, hadmits, h⟩
    rw [walk_cons_of_admits hloc hadmits, h]

/-- A walk meets a file where a directory should be: at once, or behind its next step. -/
theorem walk_cons_eq_notDirectory {loc : Location} {part : String} {parts : List String} :
    t.walk loc (part :: parts) = .error .notDirectory ↔
      (∃ content, t.reached? loc = some (.file content)) ∨
        t.reachesDirectory loc = true ∧ t.Admits loc part ∧
          t.walk (advance loc part) parts = .error .notDirectory := by
  constructor
  · intro h
    cases hloc : t.reached? loc with
    | none => rw [walk, hloc] at h; exact nomatch h
    | some n =>
      cases n with
      | file content => exact .inl ⟨content, rfl⟩
      | directory entries =>
        rcases walk_cons loc part parts with ⟨hadmits, hwalk⟩ | ⟨-, hwalk⟩
        · exact .inr ⟨reachesDirectory_iff.2 ⟨entries, hloc⟩, hadmits,
            (hwalk entries hloc).symm.trans h⟩
        · have h' := (hwalk entries hloc).symm.trans h
          split at h' <;> exact nomatch h'
  · rintro (⟨content, hloc⟩ | ⟨hloc, hadmits, h⟩)
    · rw [walk, hloc]
    · rw [walk_cons_of_admits hloc hadmits, h]

/-- A walk that succeeds leads where the text says. -/
theorem walk_eq_ok {loc loc' : Location} {parts : List String} (h : t.walk loc parts = .ok loc') :
    loc' = follow loc parts := by
  induction parts generalizing loc with
  | nil =>
    rw [walk] at h
    split at h
    · exact (Except.ok.inj h).symm
    · exact nomatch h
  | cons part parts ih => exact ih (walk_cons_eq_ok.1 h).2.2

/-- Walking along parts and then along more. -/
theorem walk_append_eq_ok {loc loc' : Location} {parts more : List String} :
    t.walk loc (parts ++ more) = .ok loc' ↔
      ∃ loc₁, t.walk loc parts = .ok loc₁ ∧ t.walk loc₁ more = .ok loc' := by
  induction parts generalizing loc with
  | nil =>
    rw [List.nil_append, walk]
    constructor
    · intro h
      refine ⟨loc, ?_, h⟩
      cases more with
      | nil =>
        obtain rfl : loc' = loc := walk_eq_ok h
        rwa [walk] at h
      | cons part more =>
        obtain ⟨entries, hloc⟩ := reachesDirectory_iff.1 (walk_cons_eq_ok.1 h).1
        rw [hloc]
        rfl
    · rintro ⟨loc₁, h, hmore⟩
      split at h
      · exact Except.ok.inj h ▸ hmore
      · exact nomatch h
  | cons part parts ih =>
    rw [List.cons_append, walk_cons_eq_ok, ih]
    simp only [walk_cons_eq_ok]
    constructor
    · rintro ⟨hloc, hadmits, loc₁, h, hmore⟩
      exact ⟨loc₁, ⟨hloc, hadmits, h⟩, hmore⟩
    · rintro ⟨loc₁, ⟨hloc, hadmits, h⟩, hmore⟩
      exact ⟨hloc, hadmits, loc₁, h, hmore⟩

/-- A walk that comes to a directory starts in one. -/
theorem reachesDirectory_of_walk {loc loc' : Location} {parts : List String}
    (h : t.walk loc parts = .ok loc') (hdir : t.reachesDirectory loc' = true) :
    t.reachesDirectory loc = true := by
  cases parts with
  | nil =>
    obtain rfl : loc' = loc := walk_eq_ok h
    exact hdir
  | cons part parts => exact (walk_cons_eq_ok.1 h).1

/-! ### Walks in later trees -/

/-- A tree with the same current directory that has all directories of an earlier tree. -/
structure Extends (t t' : FileTree) : Prop where
  current : t'.current = t.current
  directory (loc : Location) (h : t.isDirectoryAt loc = true) : t'.isDirectoryAt loc = true

theorem Extends.refl (t : FileTree) : t.Extends t := ⟨rfl, fun _ h => h⟩

theorem Extends.trans {t'' : FileTree} (h : t.Extends t') (h' : t'.Extends t'') :
    t.Extends t'' :=
  ⟨h'.current.trans h.current, fun loc hloc => h'.directory loc (h.directory loc hloc)⟩

theorem Extends.place (h : t.Extends t') (p : Path) : t'.place p = t.place p :=
  place_congr h.current p

theorem Extends.start (h : t.Extends t') (p : Path) : t'.start p = t.start p := by
  rw [FileTree.start, FileTree.start, h.current]

/-- What was a directory for whoever came there is one later, or a file has been put there. -/
theorem Extends.reaches (h : t.Extends t') {loc : Location}
    (hloc : t.reachesDirectory loc = true) :
    t'.reachesDirectory loc = true ∨ ∃ content, t'.reached? loc = some (.file content) := by
  have hsome : (t'.reached? loc).isSome := by
    obtain ⟨entries, hloc⟩ := reachesDirectory_iff.1 hloc
    rw [reached?] at hloc ⊢
    cases hget : t.get? loc with
    | some n =>
      rw [hget, Option.some_or, Option.some.injEq] at hloc
      obtain ⟨entries', h'⟩ := isDirectoryAt_iff.1
        (h.directory loc (isDirectoryAt_iff.2 ⟨entries, hloc ▸ hget⟩))
      rw [h']
      rfl
    | none =>
      rw [hget, Option.none_or] at hloc
      rw [h.current]
      split at hloc
      · next hcurrent =>
        rw [if_pos hcurrent]
        cases t'.get? loc <;> rfl
      · exact nomatch hloc
  obtain ⟨n, hn⟩ := Option.isSome_iff_exists.1 hsome
  cases n with
  | file content => exact .inr ⟨content, hn⟩
  | directory entries' => exact .inl (reachesDirectory_iff.2 ⟨entries', hn⟩)

/-- A name that leads to a directory still leads there in a later tree. -/
theorem Extends.admits (h : t.Extends t') {loc : Location} {part : String}
    (hadmits : t.Admits loc part) (hdir : t.reachesDirectory (advance loc part) = true) :
    t'.Admits loc part := by
  intro hidle hback
  obtain ⟨hlong, hsome⟩ := hadmits hidle hback
  rw [advance_name loc hidle hback] at hdir
  obtain ⟨n, hn⟩ := Option.isSome_iff_exists.1 hsome
  obtain ⟨entries, hreached⟩ := reachesDirectory_iff.1 hdir
  rw [reached?_of_get? hn] at hreached
  obtain ⟨entries', h'⟩ := isDirectoryAt_iff.1
    (h.directory _ (isDirectoryAt_iff.2 ⟨entries, hn.trans hreached⟩))
  exact ⟨hlong, by rw [h']; rfl⟩

/-- A walk that came to a directory comes there in a later tree, or meets a file. -/
theorem Extends.walk (h : t.Extends t') {loc loc' : Location} {parts : List String}
    (hwalk : t.walk loc parts = .ok loc') (hdir : t.reachesDirectory loc' = true) :
    t'.walk loc parts = .ok loc' ∨ t'.walk loc parts = .error .notDirectory := by
  induction parts generalizing loc with
  | nil =>
    obtain rfl : loc' = loc := walk_eq_ok hwalk
    refine .inl ?_
    rw [FileTree.walk]
    rcases h.reaches hdir with hreached | ⟨content, hreached⟩
    · obtain ⟨entries, hreached⟩ := reachesDirectory_iff.1 hreached
      rw [hreached]
      rfl
    · rw [hreached]
      rfl
  | cons part parts ih =>
    obtain ⟨hloc, hadmits, hwalk⟩ := walk_cons_eq_ok.1 hwalk
    rcases h.reaches hloc with hloc' | hfile
    · have hadmits' := h.admits hadmits (reachesDirectory_of_walk hwalk hdir)
      rw [walk_cons_of_admits hloc' hadmits']
      exact ih hwalk
    · exact .inr (walk_cons_eq_notDirectory.2 (.inl hfile))

/-- A later tree in which no file has been taken away or become a directory. -/
def FilesStay (t t' : FileTree) : Prop :=
  ∀ loc content, t.get? loc = some (.file content) →
    ∃ content', t'.get? loc = some (.file content')

theorem FilesStay.refl (t : FileTree) : t.FilesStay t := fun _ content h => ⟨content, h⟩

theorem FilesStay.trans {t'' : FileTree} (h : t.FilesStay t') (h' : t'.FilesStay t'') :
    t.FilesStay t'' := by
  intro loc content hloc
  obtain ⟨content', hloc'⟩ := h loc content hloc
  exact h' loc content' hloc'

/-- A walk that meets a file still meets one while no file is taken away. -/
theorem Extends.walk_notDirectory (h : t.Extends t') (hfiles : t.FilesStay t') {loc : Location}
    {parts : List String} (hwalk : t.walk loc parts = .error .notDirectory) :
    t'.walk loc parts = .error .notDirectory := by
  induction parts generalizing loc with
  | nil => rw [FileTree.walk] at hwalk; split at hwalk <;> exact nomatch hwalk
  | cons part parts ih =>
    refine walk_cons_eq_notDirectory.2 ?_
    rcases walk_cons_eq_notDirectory.1 hwalk with ⟨content, hloc⟩ | ⟨hloc, hadmits, hwalk⟩
    · rw [reached?] at hloc
      cases hget : t.get? loc with
      | some n =>
        rw [hget, Option.some_or, Option.some.injEq] at hloc
        obtain ⟨content', hloc'⟩ := hfiles loc content (hloc ▸ hget)
        exact .inl ⟨content', reached?_of_get? hloc'⟩
      | none =>
        rw [hget, Option.none_or] at hloc
        split at hloc <;> exact nomatch hloc
    · rcases h.reaches hloc with hloc' | hfile
      · refine .inr ⟨hloc', fun hidle hback => ?_, ih hwalk⟩
        obtain ⟨hlong, hsome⟩ := hadmits hidle hback
        obtain ⟨n, hn⟩ := Option.isSome_iff_exists.1 hsome
        refine ⟨hlong, ?_⟩
        cases n with
        | file content =>
          obtain ⟨content', hn'⟩ := hfiles _ content hn
          rw [hn']
          rfl
        | directory entries =>
          obtain ⟨entries', hn'⟩ := isDirectoryAt_iff.1
            (h.directory _ (isDirectoryAt_iff.2 ⟨entries, hn⟩))
          rw [hn']
          rfl
      · exact .inl hfile

/-! ### The last part of a path -/

theorem eq_append_of_unsnoc? {α : Type} {as front : List α} {a : α}
    (h : unsnoc? as = some (front, a)) : as = front ++ [a] := by
  induction as generalizing front with
  | nil => exact nomatch h
  | cons b bs ih =>
    cases bs with
    | nil =>
      obtain ⟨rfl, rfl⟩ := Prod.mk.inj (Option.some.inj h)
      rfl
    | cons c cs =>
      obtain ⟨⟨front', a'⟩, h', heq⟩ := Option.map_eq_some_iff.1 h
      obtain ⟨rfl, rfl⟩ := Prod.mk.inj heq
      rw [ih h', List.cons_append]

/-- A name is found at the end of a path when the parts in front of it lead to a directory. -/
structure EndsIn (t : FileTree) (p : Path) (loc : Location) (name : String) (slash : Bool) :
    Prop where
  checkText : checkText p = .ok ()
  steps : ∃ front blanks, steps p = front ++ name :: blanks ∧ (∀ b ∈ blanks, b = "") ∧
    (slash = false → blanks = []) ∧ t.walk (t.start p) front = .ok loc
  isDirectoryAt : t.isDirectoryAt loc = true
  isIdle : Path.isIdle name = false
  ne_back : name ≠ ".."
  length_le : name.utf8ByteSize ≤ maxName

/-- What is left of parts without the empty ones at the end, cut before its last part. -/
theorem shown_eq_append {parts front : List String} {part : String}
    (h : (parts.reverse.dropWhile (· == "")).reverse = front ++ [part]) :
    part ≠ "" ∧ ∃ blanks, parts = front ++ part :: blanks ∧ ∀ b ∈ blanks, b = "" := by
  have hhead : parts.reverse.dropWhile (· == "") = part :: front.reverse := by
    rw [← List.reverse_reverse (parts.reverse.dropWhile _), h, List.reverse_append]
    rfl
  constructor
  · have hne := List.head_dropWhile_not (· == "") (l := parts.reverse)
      (by rw [hhead]; exact List.cons_ne_nil _ _)
    simpa only [hhead, List.head_cons, beq_eq_false_iff_ne] using hne
  · refine ⟨(parts.reverse.takeWhile (· == "")).reverse, ?_, fun b hb => ?_⟩
    · have hparts := congrArg List.reverse
        (List.takeWhile_append_dropWhile (p := (· == "")) (l := parts.reverse))
      rw [List.reverse_append, List.reverse_reverse, h] at hparts
      rw [List.append_cons, hparts]
    · simpa using List.mem_takeWhile_imp (List.mem_reverse.1 hb)

/-- A path whose last part is a name ends in that name. -/
theorem resolveLast_name {loc : Location} {name : String} {slash : Bool}
    (h : t.resolveLast p = .ok (loc, .name name slash)) : t.EndsIn p loc name slash := by
  obtain ⟨⟨⟩, hcheck, h⟩ := bind_eq_ok.1 h
  dsimp only at h
  split at h
  · exact nomatch h
  next front part hlast =>
  have hshown := eq_append_of_unsnoc? hlast
  obtain ⟨hne, blanks, hsteps, hblank⟩ := shown_eq_append hshown
  obtain ⟨loc', hwalk, h⟩ := bind_eq_ok.1 h
  split at h
  · exact nomatch h
  next hdir =>
  split at h
  · exact nomatch h
  next hdot =>
  split at h
  · exact nomatch h
  next hback =>
  split at h
  · exact nomatch h
  next hsome =>
  split at h
  · exact nomatch h
  next hlong =>
  simp only [Except.ok.injEq, Prod.mk.injEq, Last.name.injEq] at h
  obtain ⟨rfl, rfl, hslash⟩ := h
  refine ⟨hcheck, ⟨front, blanks, hsteps, hblank, fun hfalse => ?_, hwalk⟩, ?_, ?_, hback,
    by omega⟩
  · rw [hshown, hsteps, hfalse, bne_eq_false_iff_eq, List.length_append, List.length_append,
      List.length_cons, List.length_cons, List.length_nil] at hslash
    exact List.length_eq_zero_iff.1 (by omega)
  · obtain ⟨n, hn⟩ : ∃ n, t.get? loc' = some n := by
      simpa [Option.eq_none_iff_forall_not_mem] using hsome
    obtain ⟨entries, hreached⟩ := reachesDirectory_iff.1 (by simpa using hdir)
    rw [reached?_of_get? hn] at hreached
    exact isDirectoryAt_iff.2 ⟨entries, hn.trans hreached⟩
  · rw [Path.isIdle, beq_eq_false_iff_ne.2 hne, beq_eq_false_iff_ne.2 hdot, Bool.or_false]

theorem EndsIn.place_eq {loc : Location} {name : String} {slash : Bool}
    (h : t.EndsIn p loc name slash) : t.place p = loc ++ [name] := by
  obtain ⟨front, blanks, hsteps, hblank, -, hwalk⟩ := h.steps
  rw [place, hsteps, follow_append, ← walk_eq_ok hwalk, follow, List.foldl_cons,
    advance_name loc h.isIdle h.ne_back]
  clear hsteps
  induction blanks with
  | nil => rfl
  | cons b bs ih =>
    obtain ⟨rfl, hbs⟩ := List.forall_mem_cons.1 hblank
    exact ih hbs

/-! ### Finding an entry at its place -/

theorem get?_append (loc rest : Location) (n : Node) :
    n.get? (loc ++ rest) = (n.get? loc).bind (·.get? rest) := by
  induction loc generalizing n with
  | nil => rfl
  | cons name loc ih =>
    rw [List.cons_append, Node.get?, Node.get?, Option.bind_assoc]
    exact Option.bind_congr fun c _ => ih c

theorem get?_append_isSome {n : Node} {loc rest : Location}
    (h : (n.get? (loc ++ rest)).isSome = true) : (n.get? loc).isSome = true := by
  rw [get?_append] at h
  exact Option.isSome_of_isSome_bind h

theorem isDirectoryAt_of_append {loc rest : Location} (hrest : rest ≠ [])
    (h : (t.get? (loc ++ rest)).isSome = true) : t.isDirectoryAt loc = true := by
  obtain ⟨name, rest, rfl⟩ := List.exists_cons_of_ne_nil hrest
  rw [get?, get?_append, Option.isSome_bind, Option.any_eq_true] at h
  obtain ⟨n, hn, h⟩ := h
  cases n with
  | file content => cases h
  | directory entries => exact isDirectoryAt_iff.2 ⟨entries, hn⟩

theorem reachesDirectory_of_isDirectoryAt {loc : Location} (h : t.isDirectoryAt loc = true) :
    t.reachesDirectory loc = true := by
  obtain ⟨entries, h⟩ := isDirectoryAt_iff.1 h
  exact reachesDirectory_iff.2 ⟨entries, reached?_of_get? h⟩

/-- Parts that go back nowhere lead down through those that count. -/
theorem follow_eq_append {parts : List String} (hback : ".." ∉ parts) (loc : Location) :
    follow loc parts = loc ++ parts.filter fun part => !Path.isIdle part := by
  induction parts generalizing loc with
  | nil => exact (List.append_nil loc).symm
  | cons part parts ih =>
    rw [List.mem_cons, not_or] at hback
    rw [follow, List.foldl_cons, ← follow, ih hback.2, List.filter_cons]
    by_cases hidle : Path.isIdle part = true
    · rw [advance, if_pos hidle, hidle, if_neg (by decide)]
    · rw [Bool.not_eq_true] at hidle
      rw [advance_name loc hidle (Ne.symm hback.1), hidle, if_pos (by decide), List.append_assoc]
      rfl

/-- A walk down to an entry that exists succeeds, if no name on the way is too long. -/
theorem walk_straight {parts : List String} {name : String} {loc : Location}
    (hback : ".." ∉ parts ++ [name]) (hidle : Path.isIdle name = false)
    (hshort : ∀ part ∈ parts ++ [name], part.utf8ByteSize ≤ maxName)
    (h : (t.get? (follow loc (parts ++ [name]))).isSome = true) :
    t.walk loc (parts ++ [name]) = .ok (follow loc (parts ++ [name])) := by
  induction parts generalizing loc with
  | nil =>
    simp only [List.nil_append, List.mem_singleton] at hback hshort
    have hlast : follow loc ([] ++ [name]) = loc ++ [name] :=
      advance_name loc hidle (Ne.symm hback)
    rw [hlast] at h ⊢
    refine walk_cons_eq_ok.2 ⟨reachesDirectory_of_isDirectoryAt
      (isDirectoryAt_of_append (List.cons_ne_nil _ _) h), fun _ _ => ⟨hshort name rfl, h⟩, ?_⟩
    obtain ⟨n, hn⟩ := Option.isSome_iff_exists.1 h
    rw [advance_name loc hidle (Ne.symm hback), walk, reached?_of_get? hn]
    rfl
  | cons part parts ih =>
    rw [List.cons_append, List.mem_cons, not_or] at hback
    obtain ⟨hpart, hshort⟩ := List.forall_mem_cons.1 hshort
    obtain ⟨rest, hrest⟩ : ∃ rest, follow (advance loc part) parts = advance loc part ++ rest :=
      ⟨_, follow_eq_append (fun hmem => hback.2 (List.mem_append_left _ hmem)) _⟩
    have hname : name ≠ ".." := fun hname =>
      hback.2 (List.mem_append_right _ (List.mem_singleton.2 hname.symm))
    have hend : follow loc (part :: parts ++ [name]) = advance loc part ++ (rest ++ [name]) := by
      rw [List.cons_append, follow, List.foldl_cons, ← follow, follow_append, hrest,
        ← List.append_assoc]
      exact advance_name _ hidle hname
    have hsome : (t.get? (advance loc part ++ (rest ++ [name]))).isSome = true := hend ▸ h
    rw [List.cons_append, walk_cons_of_admits]
    · exact ih hback.2 hshort h
    · have honly : ".." ∉ [part] := fun h => hback.1 (List.mem_singleton.1 h)
      obtain ⟨down, hadvance⟩ : ∃ down, advance loc part = loc ++ down :=
        ⟨_, follow_eq_append honly loc⟩
      rw [hadvance, List.append_assoc] at hsome
      exact reachesDirectory_of_isDirectoryAt (isDirectoryAt_of_append (by simp) hsome)
    · intro hidle hback
      rw [advance_name loc hidle hback] at hsome
      exact ⟨hpart, get?_append_isSome hsome⟩

/-- The parts of a walk that succeeds are short enough. -/
theorem length_le_of_walk {loc loc' : Location} {parts : List String}
    (h : t.walk loc parts = .ok loc') : ∀ part ∈ parts, part.utf8ByteSize ≤ maxName := by
  induction parts generalizing loc with
  | nil => exact fun _ hmem => absurd hmem List.not_mem_nil
  | cons part parts ih =>
    obtain ⟨-, hadmits, hwalk⟩ := walk_cons_eq_ok.1 h
    refine List.forall_mem_cons.2 ⟨?_, ih hwalk⟩
    by_cases hidle : Path.isIdle part = true
    · rw [Path.isIdle, Bool.or_eq_true, beq_iff_eq, beq_iff_eq] at hidle
      rcases hidle with rfl | rfl
      · exact Nat.zero_le _
      · exact (by decide : 1 ≤ 255)
    by_cases hback : part = ".."
    · subst hback
      exact (by decide : 2 ≤ 255)
    · exact (hadmits ((Bool.not_eq_true _).mp hidle) hback).1

theorem contains_iff : t.contains p = true ↔ ∃ loc, t.resolve p = .ok loc := by
  rw [contains, find?]
  constructor
  · intro h
    split at h
    · next loc hloc => exact ⟨loc, hloc⟩
    · exact nomatch h
  · rintro ⟨loc, hloc⟩
    rw [hloc]
    obtain ⟨_, -, hwalk⟩ := bind_eq_ok.1 hloc
    have happend : t.walk (t.start p) (steps p ++ []) = .ok loc := by rwa [List.append_nil]
    obtain ⟨loc₁, -, hend⟩ := walk_append_eq_ok.1 happend
    obtain rfl : loc = loc₁ := walk_eq_ok hend
    rw [walk] at hend
    split at hend
    · next h => exact h
    · exact nomatch hend

/-- The parts lead to a directory. -/
def LeadsIn (t : FileTree) (loc : Location) (parts : List String) : Prop :=
  ∃ loc', t.walk loc parts = .ok loc' ∧ t.reachesDirectory loc' = true

/-- What a walk has gone through on its way is a directory. -/
theorem leadsIn_of_walk {loc loc' : Location} {parts more : List String} (hmore : more ≠ [])
    (h : t.walk loc (parts ++ more) = .ok loc') : t.LeadsIn loc parts := by
  obtain ⟨loc₁, hparts, h⟩ := walk_append_eq_ok.1 h
  obtain ⟨part, more, rfl⟩ := List.exists_cons_of_ne_nil hmore
  exact ⟨loc₁, hparts, (walk_cons_eq_ok.1 h).1⟩

theorem LeadsIn.of_append {loc : Location} {parts more : List String}
    (h : t.LeadsIn loc (parts ++ more)) : t.LeadsIn loc parts := by
  obtain ⟨loc', hwalk, hdir⟩ := h
  obtain ⟨loc₁, hparts, hmore⟩ := walk_append_eq_ok.1 hwalk
  exact ⟨loc₁, hparts, reachesDirectory_of_walk hmore hdir⟩

/-- What stands in front of the name of a path that ends in one. -/
theorem EndsIn.front {loc : Location} {name last : String} {front : List String}
    (h : t.EndsIn p loc name false) (hsteps : FileTree.steps p = front ++ [last]) :
    last = name ∧ t.walk (t.start p) front = .ok loc := by
  obtain ⟨front', blanks, hsteps', -, hslash, hwalk⟩ := h.steps
  obtain rfl := hslash rfl
  rw [hsteps] at hsteps'
  obtain ⟨rfl, hlast⟩ := List.append_inj' hsteps' rfl
  exact ⟨List.head_eq_of_cons_eq hlast, hwalk⟩

/-- A path leads to what stands at its place if the first parts have led into a directory before
and nothing keeps a file from being put at its end: in between only files may have come in the
way, and they would still be there. -/
theorem contains_of_endsIn {t₀ : FileTree} {loc : Location} {front rest : List String}
    {last name : String} (hsteps : steps p = front ++ (rest ++ [last]))
    (hback : ".." ∉ rest ++ [last]) (hfront : t₀.LeadsIn (t₀.start p) front)
    (h₀ : t₀.Extends t) (h : t.Extends t') (hfiles : t.FilesStay t')
    (hend : t'.EndsIn p loc name false) (hthere : (t.get? (t.place p)).isSome = true) :
    t.contains p = true := by
  obtain ⟨base, hwalk₀, hdir⟩ := hfront
  obtain ⟨rfl, hwalk⟩ := hend.front (hsteps.trans (List.append_assoc ..).symm)
  obtain ⟨base', hfront, hrest⟩ := walk_append_eq_ok.1 hwalk
  have hbase : t.walk (t.start p) front = .ok base := by
    rw [h₀.start]
    refine (h₀.walk hwalk₀ hdir).resolve_right fun hfile => ?_
    rw [h.start, h₀.start, h.walk_notDirectory hfiles hfile] at hfront
    exact nomatch hfront
  have hshort : ∀ part ∈ rest ++ [last], part.utf8ByteSize ≤ maxName := by
    intro part hmem
    rcases List.mem_append.1 hmem with hmem | hmem
    · exact length_le_of_walk hrest part hmem
    · exact List.mem_singleton.1 hmem ▸ hend.length_le
  have hplace : t.place p = follow base (rest ++ [last]) := by
    rw [place, hsteps, follow_append, ← walk_eq_ok hbase]
  have hall : t.walk (t.start p) (steps p) = .ok (follow base (rest ++ [last])) := by
    rw [hsteps, walk_append_eq_ok]
    exact ⟨base, hbase, walk_straight hback hend.isIdle hshort (hplace ▸ hthere)⟩
  exact contains_iff.2 ⟨_, bind_eq_ok.2 ⟨(), hend.checkText, hall⟩⟩

end ApiProxy.FileTree
