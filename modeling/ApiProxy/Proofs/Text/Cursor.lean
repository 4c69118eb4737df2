import ApiProxy.Proofs.Text.Blank

/-!
# Readers that keep a position

A text may also be read by keeping the text as it is and moving a position in it. Positions count
bytes, so a step over a character is as wide as its encoding, and cutting the text at a position
fails inside of a character. A reader of this file has no result if it cuts at such a position,
and none if it goes on for ever; that it has one is what has to be proved.

The proofs speak of the characters `cs` that stand ahead of a position instead of the position:
`Reaches text s cs a rest` says that with `cs` ahead the reader `s` comes to its end with the
result `a`, and then has `rest` ahead, an end of `cs`.

## Main definitions

* `Scan`, `Cursor`: a reader that keeps a position, and the text in which it does.
* `Cursor.peek`, `Cursor.bump`, `Cursor.skipWhile`, `Cursor.eat`: the steps that readers are
  made of.
* `Moves`, `MovesOn`: a reader comes to its end, at a position that cuts no character.

## Main results

* `Reaches.bind`, `Reaches.bind_some`: one reader after another.
* `Reaches.moves`, `Reaches.movesOn`: what is reached is never behind the position or beyond the
  end of the text.
-/

namespace ApiProxy.Text

/-- A reader that keeps a position in a text. It has no result if it cuts the text inside of a
character or goes on for ever. -/
abbrev Scan := StateT String.Pos.Raw Option

/-- A cursor in a text. Its position is the one that a `Scan` keeps. -/
structure Cursor where
  text : String

namespace Cursor

/-- The characters from the position on. -/
def ahead (cur : Cursor) : Scan (List Char) := fun pos =>
  if h : pos.IsValid cur.text then
    some ((cur.text.sliceFrom (cur.text.pos pos h)).copy.toList, pos)
  else none

/-- The characters from an earlier position up to the position. -/
def since (cur : Cursor) (start : String.Pos.Raw) : Scan (List Char) := fun pos =>
  if h : start.IsValid cur.text ∧ pos.IsValid cur.text ∧ start ≤ pos then
    some ((cur.text.slice (cur.text.pos start h.1) (cur.text.pos pos h.2.1) h.2.2).copy.toList, pos)
  else none

/-- The next character. -/
def peek (cur : Cursor) : Scan (Option Char) :=
  return (← cur.ahead).head?

/-- Step over the next character. -/
def bump (cur : Cursor) : Scan (Option Char) := do
  match ← cur.peek with
  | some c =>
    modify (· + c)
    return some c
  | none => return none

/-- Step over the characters with a property. -/
def skipWhile (cur : Cursor) (p : Char → Bool) : Scan Unit := do
  if (← cur.peek).any p then
    let _ ← cur.bump
    cur |>.skipWhile p
  else return ()
partial_fixpoint

/-- Step over the characters with a property and return them. -/
def takeWhile (cur : Cursor) (p : Char → Bool) : Scan (List Char) := do
  let start ← get
  cur.skipWhile p
  cur.since start

/-- Skip blanks and step over the given character, if it comes next. -/
def eat (cur : Cursor) (expected : Char) : Scan Bool := do
  cur.skipWhile isBlank
  if (← cur.peek) = some expected then
    modify (· + expected)
    return true
  else return false

/-- Skip blanks and step over the given character, which has to come next. -/
def expect (cur : Cursor) (expected : Char) : OptionT Scan Unit := do
  if ← cur.eat expected then return () else failure

/-- Whether the position is the end of the text. -/
def atEnd (cur : Cursor) : Scan Bool :=
  return (← get) == cur.text.rawEndPos

end Cursor

/-! ### What stands ahead of a position -/

/-- The characters `cs` stand ahead of a position in a text. -/
def Ahead (text : String) (pos : String.Pos.Raw) (cs : List Char) : Prop :=
  ∃ front : String, text = front ++ String.ofList cs ∧ pos = front.rawEndPos

variable {text : String} {pos pos' start : String.Pos.Raw} {cs run rest : List Char}

theorem isValid_iff_ahead : pos.IsValid text ↔ ∃ cs, Ahead text pos cs := by
  rw [String.Pos.Raw.isValid_iff_exists_append]
  constructor
  · rintro ⟨front, back, rfl, rfl⟩
    exact ⟨back.toList, front, by rw [String.ofList_toList], rfl⟩
  · rintro ⟨cs, front, htext, hpos⟩
    exact ⟨front, String.ofList cs, htext, hpos⟩

theorem Ahead.isValid (h : Ahead text pos cs) : pos.IsValid text :=
  isValid_iff_ahead.2 ⟨cs, h⟩

theorem ahead_zero (text : String) : Ahead text 0 text.toList :=
  ⟨"", by rw [String.ofList_toList, String.empty_append], rfl⟩

theorem Ahead.byteIdx_add (h : Ahead text pos cs) :
    pos.byteIdx + (String.ofList cs).utf8ByteSize = text.utf8ByteSize := by
  obtain ⟨front, rfl, rfl⟩ := h
  rw [String.utf8ByteSize_append, String.byteIdx_rawEndPos]

theorem Ahead.le_rawEndPos (h : Ahead text pos cs) : pos ≤ text.rawEndPos :=
  h.isValid.le_rawEndPos

theorem Ahead.le_of_suffix (h : Ahead text pos cs) (h' : Ahead text pos' rest)
    (hrest : rest <:+ cs) : pos ≤ pos' := by
  obtain ⟨run, rfl⟩ := hrest
  have hcs := h.byteIdx_add
  have hrest := h'.byteIdx_add
  rw [String.ofList_append, String.utf8ByteSize_append] at hcs
  rw [String.Pos.Raw.le_iff]
  omega

theorem Ahead.lt_of_suffix (h : Ahead text pos cs) (h' : Ahead text pos' rest)
    (hrest : rest <:+ cs) (hlt : rest.length < cs.length) : pos < pos' := by
  obtain ⟨run, rfl⟩ := hrest
  have hrun : (String.ofList run).utf8ByteSize ≠ 0 := by
    rw [Ne, String.utf8ByteSize_eq_zero_iff, String.ofList_eq_empty_iff]
    rintro rfl
    simp at hlt
  have hcs := h.byteIdx_add
  have hrest := h'.byteIdx_add
  rw [String.ofList_append, String.utf8ByteSize_append] at hcs
  rw [String.Pos.Raw.lt_iff]
  omega

theorem Ahead.tail {c : Char} (h : Ahead text pos (c :: cs)) : Ahead text (pos + c) cs := by
  obtain ⟨front, rfl, rfl⟩ := h
  refine ⟨front.push c, ?_, ?_⟩
  · rw [String.ofList_cons, ← String.append_assoc, String.append_singleton]
  · rw [String.rawEndPos_push]

theorem Ahead.ahead_eq {cur : Cursor} (h : Ahead cur.text pos cs) :
    cur.ahead.run pos = some (cs, pos) := by
  have hsplit : (cur.text.pos pos h.isValid).Splits h.choose (String.ofList cs) :=
    ⟨h.choose_spec.1, h.choose_spec.2⟩
  rw [StateT.run, Cursor.ahead, dif_pos h.isValid, hsplit.copy_sliceFrom_eq, String.toList_ofList]

/-- What stands between two positions is what the text is cut to there. -/
theorem Ahead.since_eq {cur : Cursor} (hstart : Ahead cur.text start (run ++ rest))
    (h : Ahead cur.text pos rest) : (cur.since start).run pos = some (run, pos) := by
  have hle : start ≤ pos := hstart.le_of_suffix h (List.suffix_append run rest)
  have hvalid : start.IsValid cur.text ∧ pos.IsValid cur.text ∧ start ≤ pos :=
    ⟨hstart.isValid, h.isValid, hle⟩
  obtain ⟨front, htext, hfront⟩ := hstart
  obtain ⟨front', htext', hfront'⟩ := h
  rw [String.ofList_append] at htext
  have hrun : front' = front ++ String.ofList run := by
    rw [htext, ← String.append_assoc] at htext'
    exact (String.append_left_inj _).1 htext'.symm
  have hslice : ∃ h, (cur.text.slice (cur.text.pos start hvalid.1)
      (cur.text.pos pos hvalid.2.1) h).copy = String.ofList run :=
    String.copy_slice_eq_iff_splits.2
      ⟨front, String.ofList rest, ⟨htext, hfront⟩, ⟨hrun ▸ htext', hrun ▸ hfront'⟩⟩
  obtain ⟨_, hcopy⟩ := hslice
  rw [StateT.run, Cursor.since, dif_pos hvalid, hcopy, String.toList_ofList]

/-! ### What a reader reaches -/

/-- With `cs` ahead, a reader comes to its end with a result and has `rest` ahead, an end of
`cs`. -/
structure Reaches {α : Type} (text : String) (s : Scan α) (cs : List Char) (a : α)
    (rest : List Char) : Prop where
  suffix : rest <:+ cs
  run : ∀ pos, Ahead text pos cs → ∃ pos', s.run pos = some (a, pos') ∧ Ahead text pos' rest

variable {α β : Type} {a : α} {b : β} {mid : List Char}

theorem reaches_pure (text : String) (a : α) (cs : List Char) :
    Reaches text (pure a) cs a cs :=
  ⟨List.suffix_refl cs, fun pos h => ⟨pos, rfl, h⟩⟩

/-- One reader goes on where another one ended. -/
theorem Reaches.bind {s : Scan α} {f : α → Scan β} (hs : Reaches text s cs a mid)
    (hf : Reaches text (f a) mid b rest) : Reaches text (s >>= f) cs b rest := by
  refine ⟨hf.suffix.trans hs.suffix, fun pos h => ?_⟩
  obtain ⟨pos₁, hs, h₁⟩ := hs.run pos h
  obtain ⟨pos₂, hf, h₂⟩ := hf.run pos₁ h₁
  refine ⟨pos₂, ?_, h₂⟩
  rw [StateT.run_bind, hs, Option.bind_eq_bind, Option.bind_some, hf]

/-- A reader that may fail goes on if it did not. -/
theorem Reaches.bind_some {s : OptionT Scan α} {f : α → OptionT Scan β} {b : Option β}
    (hs : Reaches text s.run cs (some a) mid) (hf : Reaches text (f a).run mid b rest) :
    Reaches text (s >>= f).run cs b rest := by
  rw [OptionT.run_bind]
  exact hs.bind hf

/-- A reader that failed does not go on. -/
theorem Reaches.bind_none {s : OptionT Scan α} {f : α → OptionT Scan β}
    (hs : Reaches text s.run cs none rest) : Reaches text (s >>= f).run cs none rest := by
  rw [OptionT.run_bind]
  exact hs.bind (reaches_pure text none rest)

theorem Reaches.lift {s : Scan α} (hs : Reaches text s cs a rest) :
    Reaches text (liftM s : OptionT Scan α).run cs (some a) rest := by
  have hlift : (liftM s : OptionT Scan α).run = s >>= fun a => pure (some a) := rfl
  rw [hlift]
  exact hs.bind (reaches_pure text (some a) rest)

/-! ### The steps -/

theorem reaches_peek (cur : Cursor) (cs : List Char) :
    Reaches cur.text cur.peek cs cs.head? cs := by
  have hahead : Reaches cur.text cur.ahead cs cs cs :=
    ⟨List.suffix_refl cs, fun pos h => ⟨pos, h.ahead_eq, h⟩⟩
  exact hahead.bind (reaches_pure cur.text cs.head? cs)

theorem reaches_modify (text : String) (c : Char) (cs : List Char) :
    Reaches text (modify (· + c)) (c :: cs) ⟨⟩ cs :=
  ⟨List.suffix_cons c cs, fun pos h => ⟨pos + c, rfl, h.tail⟩⟩

theorem reaches_bump (cur : Cursor) (cs : List Char) :
    Reaches cur.text cur.bump cs cs.head? cs.tail := by
  refine (reaches_peek cur cs).bind ?_
  cases cs with
  | nil => exact reaches_pure cur.text none []
  | cons c cs => exact (reaches_modify cur.text c cs).bind (reaches_pure cur.text (some c) cs)

/-- Every turn of the loop takes a character, so the loop ends. -/
theorem reaches_skipWhile (cur : Cursor) (p : Char → Bool) (cs : List Char) :
    Reaches cur.text (cur.skipWhile p) cs ⟨⟩ (cs.dropWhile p) := by
  induction cs with
  | nil =>
    rw [Cursor.skipWhile]
    exact (reaches_peek cur []).bind (reaches_pure cur.text _ [])
  | cons c cs ih =>
    rw [Cursor.skipWhile]
    refine (reaches_peek cur (c :: cs)).bind ?_
    by_cases hc : p c = true
    · rw [List.head?_cons, Option.any_some, if_pos hc, List.dropWhile_cons_of_pos hc]
      exact (reaches_bump cur (c :: cs)).bind ih
    · rw [List.head?_cons, Option.any_some, if_neg hc, List.dropWhile_cons_of_neg hc]
      exact reaches_pure cur.text _ (c :: cs)

/-- What the loop stepped over is cut out of the text between the two positions. -/
theorem reaches_takeWhile (cur : Cursor) (p : Char → Bool) (cs : List Char) :
    Reaches cur.text (cur.takeWhile p) cs (cs.takeWhile p) (cs.dropWhile p) := by
  refine ⟨List.dropWhile_suffix p, fun pos h => ?_⟩
  obtain ⟨pos', hskip, h'⟩ := (reaches_skipWhile cur p cs).run pos h
  refine ⟨pos', ?_, h'⟩
  rw [← List.takeWhile_append_dropWhile (p := p) (l := cs)] at h
  rw [Cursor.takeWhile, StateT.run_bind, StateT.run_get]
  simp only [Option.pure_def, Option.bind_eq_bind, Option.bind_some, StateT.run_bind, hskip]
  exact h.since_eq h'

theorem reaches_skipBlank (cur : Cursor) (cs : List Char) :
    Reaches cur.text (cur.skipWhile isBlank) cs ⟨⟩ (skipBlank cs) :=
  reaches_skipWhile cur isBlank cs

theorem reaches_eat_of_eq (cur : Cursor) {c : Char} (h : skipBlank cs = c :: rest) :
    Reaches cur.text (cur.eat c) cs true rest := by
  have hskip := h ▸ reaches_skipBlank cur cs
  refine hskip.bind ((reaches_peek cur (c :: rest)).bind ?_)
  rw [List.head?_cons, if_pos rfl]
  exact (reaches_modify cur.text c rest).bind (reaches_pure cur.text true rest)

theorem reaches_eat_of_ne (cur : Cursor) {c : Char} (h : (skipBlank cs).head? ≠ some c) :
    Reaches cur.text (cur.eat c) cs false (skipBlank cs) := by
  refine (reaches_skipBlank cur cs).bind ((reaches_peek cur (skipBlank cs)).bind ?_)
  rw [if_neg h]
  exact reaches_pure cur.text false (skipBlank cs)

theorem exists_reaches_eat (cur : Cursor) (c : Char) (cs : List Char) :
    ∃ b rest, Reaches cur.text (cur.eat c) cs b rest := by
  by_cases h : (skipBlank cs).head? = some c
  · obtain ⟨rest, h⟩ := List.head?_eq_some_iff.1 h
    exact ⟨true, rest, reaches_eat_of_eq cur h⟩
  · exact ⟨false, skipBlank cs, reaches_eat_of_ne cur h⟩

theorem reaches_atEnd (cur : Cursor) (cs : List Char) :
    Reaches cur.text cur.atEnd cs cs.isEmpty cs := by
  refine ⟨List.suffix_refl cs, fun pos h => ⟨pos, ?_, h⟩⟩
  have hend : (pos == cur.text.rawEndPos) = cs.isEmpty := by
    have hadd := h.byteIdx_add
    rw [Bool.eq_iff_iff, beq_iff_eq, List.isEmpty_iff, String.Pos.Raw.ext_iff,
      String.byteIdx_rawEndPos, ← hadd, Nat.left_eq_add, String.utf8ByteSize_eq_zero_iff,
      String.ofList_eq_empty_iff]
  rw [← hend]
  rfl

/-! ### Where a reader ends -/

/-- From a position, a reader comes to its end, not behind the position nor beyond the end of the
text, and where it cuts no character. -/
def Moves (text : String) (s : Scan α) (pos : String.Pos.Raw) : Prop :=
  ∃ a pos', s.run pos = some (a, pos') ∧
    pos ≤ pos' ∧ pos' ≤ text.rawEndPos ∧ pos'.IsValid text

/-- From a position, a reader comes to its end like that, and further on if it found something. -/
def MovesOn (text : String) (s : OptionT Scan α) (pos : String.Pos.Raw) : Prop :=
  ∃ a? pos', s.run.run pos = some (a?, pos') ∧
    pos ≤ pos' ∧ pos' ≤ text.rawEndPos ∧ pos'.IsValid text ∧ (a?.isSome = true → pos < pos')

theorem Reaches.moves {s : Scan α} (h : Reaches text s cs a rest) (hpos : Ahead text pos cs) :
    Moves text s pos := by
  obtain ⟨pos', hrun, hrest⟩ := h.run pos hpos
  exact ⟨a, pos', hrun, hpos.le_of_suffix hrest h.suffix, hrest.le_rawEndPos, hrest.isValid⟩

theorem Reaches.movesOn {s : OptionT Scan α} {a? : Option α} (h : Reaches text s.run cs a? rest)
    (hlt : a?.isSome = true → rest.length < cs.length) (hpos : Ahead text pos cs) :
    MovesOn text s pos := by
  obtain ⟨pos', hrun, hrest⟩ := h.run pos hpos
  exact ⟨a?, pos', hrun, hpos.le_of_suffix hrest h.suffix, hrest.le_rawEndPos, hrest.isValid,
    fun hsome => hpos.lt_of_suffix hrest h.suffix (hlt hsome)⟩

end ApiProxy.Text
