import ApiProxy.Disk
import ApiProxy.Proofs.FileTree.Change

/-!
# Calls to a disk

A disk does what can be done, or refuses it. What it does is what the sound disk does, so what comes
to its end on some disk comes to the same end on the sound one. Only writing a file and removing a
directory take several calls and may be refused when something is done already: a file then holds a
beginning of its content, and of a directory some entries are left.

## Main definitions

* `Disk.WriteEnds`: how writing a file can end.
* `Disk.Takes`: a disk takes a content for a file.
* `Disk.Follows`: an operation ends as another one, or is refused.

## Main results

* `Disk.writeEnds`, `Disk.writeFile_eq_ok_iff`: how writing a file ends, and when it comes to its
  end.
* `Disk.follows_makeDirectories`, `Disk.follows_writeFile`, `Disk.follows_removeDirectory`: the
  operations on a disk follow those on the sound one.
-/

namespace ApiProxy

namespace Node

variable {refuses : Location → Option Refusal}

mutual

theorem remove_of_none (loc : Location) : ∀ n : Node, n.remove (fun _ => none) loc = none
  | file content => rfl
  | directory entries => by
    rw [remove, removeEntries_of_none loc entries]
    rfl

theorem removeEntries_of_none (loc : Location) :
    ∀ entries, removeEntries (fun _ => none) loc entries = ([], none)
  | [] => rfl
  | (name, n) :: entries => by
    rw [removeEntries, remove_of_none (loc ++ [name]) n]
    exact removeEntries_of_none loc entries

end

/-- Where nothing is refused nothing stays. -/
theorem removeEntries_eq_nil {loc : Location} {entries : List (String × Node)}
    (h : (removeEntries refuses loc entries).2 = none) :
    removeEntries refuses loc entries = ([], none) := by
  induction entries with
  | nil => rfl
  | cons e entries ih =>
    obtain ⟨name, n⟩ := e
    rw [removeEntries] at h ⊢
    split at h
    · cases h
    · exact ih h

end Node

namespace FileTree

variable {t t' : FileTree} {p : Path} {loc : Location} {refuses : Location → Option Refusal}

theorem emptyDirectory_of_none (h : t.emptyDirectory loc refuses = (t', none)) :
    t' = if t.isDirectoryAt loc then { t with root := t.root.put loc .emptyDirectory } else t := by
  rw [emptyDirectory] at h
  split at h
  · next entries hentries =>
    have hnil := Node.removeEntries_eq_nil (congrArg Prod.snd h)
    rw [hnil] at h
    obtain ⟨rfl, -⟩ := Prod.mk.inj h
    exact (if_pos (isDirectoryAt_iff.2 ⟨entries, hentries⟩)).symm
  · next hnot =>
    obtain ⟨rfl, -⟩ := Prod.mk.inj h
    exact (if_neg fun hdir => (isDirectoryAt_iff.1 hdir).elim hnot).symm

theorem emptyDirectory_sound (t : FileTree) (loc : Location) :
    (t.emptyDirectory loc fun _ => none).2 = none := by
  rw [emptyDirectory]
  split
  · rw [Node.removeEntries_of_none]
  · rfl

theorem isDirectory_of_makeDirectory_eq_ok (h : t.makeDirectory p = .ok t') :
    t.isDirectory p = false := by
  have hfree := (makeDirectory_eq_ok h).1
  obtain ⟨⟨loc, last⟩, hlast, h⟩ := bind_eq_ok.1 h
  cases last with
  | dot => cases h
  | dotDot => cases h
  | root => cases h
  | name name slash =>
  have hend := resolveLast_name hlast
  obtain ⟨front, blanks, hsteps, -, -, hfront⟩ := hend.steps
  rw [isDirectory, find?]
  split
  · next loc' hresolve =>
    -- whoever comes there has followed the name
    obtain ⟨-, -, hwalk⟩ := bind_eq_ok.1 hresolve
    rw [hsteps] at hwalk
    obtain ⟨loc₁, hfront', hwalk⟩ := walk_append_eq_ok.1 hwalk
    obtain rfl : loc₁ = loc := (walk_eq_ok hfront').trans (walk_eq_ok hfront).symm
    have hsome := ((walk_cons_eq_ok.1 hwalk).2.1 hend.isIdle hend.ne_back).2
    rw [← hend.place_eq, ← isSome_seen?, hfree] at hsome
    cases hsome
  · rfl

theorem putFile_putFile (t : FileTree) (loc : Location) (content content' : String) :
    (t.putFile loc content).putFile loc content' = t.putFile loc content' := by
  rw [putFile, putFile, putFile, Node.put_put]

end FileTree

namespace Disk

open FileTree

variable {d : Disk} {t t' : FileTree} {p q : Path} {content : String}

theorem beginning_prefix (content : String) (count : Nat) :
    (beginning content count).toList <+: content.toList := by
  rw [beginning, String.toList_ofList]
  exact List.take_prefix count _

/-! ### One call -/

section

variable {c : DiskCall} {outcome : Except FileFault FileTree}

theorem attempt_sound : sound.attempt t c outcome = outcome := by
  cases outcome <;> rfl

/-- A call has its outcome or is refused. -/
theorem attempt_cases (d : Disk) (t : FileTree) (c : DiskCall)
    (outcome : Except FileFault FileTree) : d.attempt t c outcome = outcome ∨
      ∃ r t', d.refuses t c = some r ∧ outcome = .ok t' ∧
        d.attempt t c outcome = .error (.refused r) := by
  cases outcome with
  | error f => exact .inl rfl
  | ok t' =>
    rw [attempt, ok_bind]
    cases d.refuses t c with
    | none => exact .inl rfl
    | some r => exact .inr ⟨r, t', rfl, rfl, rfl⟩

theorem attempt_eq_ok_iff :
    d.attempt t c outcome = .ok t' ↔ outcome = .ok t' ∧ d.refuses t c = none := by
  cases outcome with
  | error f => exact iff_of_false nofun fun h => nomatch h.1
  | ok t₁ =>
    rw [attempt, ok_bind]
    cases d.refuses t c with
    | none => exact (and_iff_left rfl).symm
    | some r => exact iff_of_false nofun fun h => nomatch h.2

theorem attempt_eq_ok (h : d.attempt t c outcome = .ok t') : outcome = .ok t' :=
  (attempt_eq_ok_iff.1 h).1

end

theorem makes_makeDirectory (d : Disk) : Makes d.makeDirectory := attempt_eq_ok

theorem makeDirectories_sound (t : FileTree) (p : Path) :
    sound.makeDirectories t p = t.makeDirectories p := by
  have hmake : sound.makeDirectory = FileTree.makeDirectory :=
    funext fun _ => funext fun _ => attempt_sound
  rw [Disk.makeDirectories, hmake]

theorem syncFile_eq_ok (h : d.syncFile t p = .ok t') : t' = t :=
  (Except.ok.inj (attempt_eq_ok h)).symm

theorem moveFile_eq_ok (h : d.moveFile t p q = .ok t') : t.moveFile p q = .ok t' :=
  attempt_eq_ok h

/-! ### Writing a file -/

/-- How writing a file can end: it fails before the file is created, it breaks off after some of the
content, or all of it is written. -/
inductive WriteEnds (d : Disk) (t : FileTree) (p : Path) (content : String) :
    FileTree × Except FileFault Unit → Prop
  | failed (f : FileFault) : WriteEnds d t p content (t, .error f)
  | brokenOff (count : Nat) (r : Refusal) (t' : FileTree)
      (hbreaks : d.breaksOff t p content = some (count, r))
      (hwrite : t.writeFile p (beginning content count) = .ok t') :
      WriteEnds d t p content (t', .error (.refused r))
  | written (t' : FileTree) (hwrite : t.writeFile p content = .ok t') :
      WriteEnds d t p content (t', .ok ())

theorem writeEnds (d : Disk) (t : FileTree) (p : Path) (content : String) :
    WriteEnds d t p content (d.writeFile t p content) := by
  rw [writeFile]
  split
  · exact .failed _
  next loc hloc =>
  split
  · exact .failed _
  split
  · rw [putFile_putFile]
    exact .written _ (writeFile_eq_ok_iff.2 ⟨loc, hloc, rfl⟩)
  · next count r hbreaks =>
    rw [putFile_putFile]
    exact .brokenOff count r _ hbreaks (writeFile_eq_ok_iff.2 ⟨loc, hloc, rfl⟩)

/-- A disk lets a file be opened and takes all of a content for it. -/
def Takes (d : Disk) (t : FileTree) (p : Path) (content : String) : Prop :=
  d.refuses t (.create p) = none ∧ d.breaksOff t p content = none

instance (d : Disk) (t : FileTree) (p : Path) (content : String) :
    Decidable (d.Takes t p content) :=
  inferInstanceAs (Decidable (_ ∧ _))

/-- A file is written to the end if it can be written and the disk takes it. -/
theorem writeFile_eq_ok_iff : d.writeFile t p content = (t', .ok ()) ↔
    t.writeFile p content = .ok t' ∧ d.Takes t p content := by
  rw [Disk.writeFile, FileTree.writeFile, Takes]
  cases t.fileLocation p with
  | error f => simp [Except.map]
  | ok loc =>
  dsimp only
  cases d.refuses t (.create p) with
  | some r => simp
  | none =>
  rcases d.breaksOff t p content with _ | ⟨count, r⟩
  · simp [Except.map, putFile_putFile]
  · simp

theorem writeFile_eq_ok (h : d.writeFile t p content = (t', .ok ())) :
    t.writeFile p content = .ok t' :=
  (writeFile_eq_ok_iff.1 h).1

theorem writeFile_sound (t : FileTree) (p : Path) (content : String) :
    sound.writeFile t p content =
      match t.writeFile p content with
      | .ok t' => (t', .ok ())
      | .error f => (t, .error f) := by
  rw [Disk.writeFile, FileTree.writeFile]
  cases t.fileLocation p with
  | error f => rfl
  | ok loc =>
    change ((t.putFile loc "").putFile loc content, Except.ok ()) = _
    rw [putFile_putFile]
    rfl

/-- Writing a file changes nothing, or writes it with some content. -/
theorem writeFile_fst (d : Disk) (t : FileTree) (p : Path) (content : String) :
    (d.writeFile t p content).1 = t ∨
      ∃ other, t.writeFile p other = .ok (d.writeFile t p content).1 := by
  have hends := d.writeEnds t p content
  generalize d.writeFile t p content = x at hends ⊢
  cases hends with
  | failed f => exact .inl rfl
  | brokenOff _ _ _ _ hwrite | written _ hwrite => exact .inr ⟨_, hwrite⟩

/-! ### Following the sound disk -/

/-- An operation ends as another one does, or is refused. -/
def Follows (x y : FileTree × Except FileFault Unit) : Prop :=
  x = y ∨ ∃ r, x.2 = .error (.refused r)

theorem follows_writeFile (d : Disk) (t : FileTree) (p : Path) (content : String) :
    Follows (d.writeFile t p content) (sound.writeFile t p content) := by
  rw [writeFile, writeFile]
  split
  · exact .inl rfl
  · split
    · exact .inr ⟨_, rfl⟩
    · split
      · exact .inl rfl
      · exact .inr ⟨_, rfl⟩

/-- A directory that may exist is made as on the sound disk, or this is refused. -/
theorem ensureDirectory_cases (d : Disk) (t : FileTree) (p : Path) :
    t.ensureDirectory d.makeDirectory p = t.ensureDirectory FileTree.makeDirectory p ∨
      ∃ r, t.ensureDirectory d.makeDirectory p = .error (.refused r) := by
  rw [ensureDirectory, ensureDirectory, Disk.makeDirectory]
  rcases d.attempt_cases t (.makeDirectory p) (t.makeDirectory p) with
    hsame | ⟨r, t', -, hmake, hrefused⟩
  · exact .inl (by rw [hsame])
  · rw [hrefused]
    dsimp only
    rw [isDirectory_of_makeDirectory_eq_ok hmake, if_neg Bool.false_ne_true]
    exact .inr ⟨r, rfl⟩

theorem follows_makeMissing (d : Disk) (t : FileTree) (ps : List Path) :
    Follows (t.makeMissing d.makeDirectory ps) (t.makeMissing FileTree.makeDirectory ps) := by
  induction ps with
  | nil => exact .inl rfl
  | cons p above ih =>
    rw [makeMissing, makeMissing]
    rcases d.ensureDirectory_cases t p with hsame | ⟨r, hrefused⟩
    · rw [hsame]
      split
      · exact .inl rfl
      · rcases ih with hsame' | ⟨r, hrefused⟩
        · rw [hsame']
          split
          · exact .inl rfl
          · next t₁ _ =>
            rcases d.ensureDirectory_cases t₁ p with hlast | ⟨r, hrefused⟩
            · rw [hlast]
              exact .inl rfl
            · rw [hrefused]
              exact .inr ⟨r, rfl⟩
        · generalize t.makeMissing d.makeDirectory above = x at hrefused ⊢
          obtain ⟨t₁, outcome⟩ := x
          obtain rfl : outcome = .error (.refused r) := hrefused
          exact .inr ⟨r, rfl⟩
      · exact .inl rfl
    · rw [hrefused]
      exact .inr ⟨r, rfl⟩

theorem follows_makeDirectories (d : Disk) (t : FileTree) (p : Path) :
    Follows (d.makeDirectories t p) (sound.makeDirectories t p) := by
  rw [makeDirectories_sound, Disk.makeDirectories, FileTree.makeDirectories,
    FileTree.makeDirectories]
  split
  · exact .inl rfl
  · exact d.follows_makeMissing t _

theorem follows_removeDirectory (d : Disk) (t : FileTree) (p : Path) :
    Follows (d.removeDirectory t p) (sound.removeDirectory t p) := by
  rw [Disk.removeDirectory, Disk.removeDirectory, FileTree.removeDirectory,
    FileTree.removeDirectory]
  split
  · exact .inl rfl
  next loc _ =>
  split
  · rcases hempty : t.emptyDirectory loc fun loc => d.refuses t (.remove loc) with ⟨t₁, _ | r⟩
    · have hsound : t.emptyDirectory loc (fun loc => sound.refuses t (.remove loc)) =
          (t₁, none) := by
        refine Prod.ext ?_ (t.emptyDirectory_sound loc)
        rw [emptyDirectory_of_none hempty]
        exact emptyDirectory_of_none (Prod.ext rfl (t.emptyDirectory_sound loc))
      rw [hsound]
      dsimp only
      split
      · split
        · exact .inl rfl
        · exact .inr ⟨_, rfl⟩
      · exact .inl rfl
      · exact .inl rfl
    · exact .inr ⟨r, rfl⟩
  · exact .inl rfl

end Disk

end ApiProxy
