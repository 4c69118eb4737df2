import ApiProxy.Proofs.Text.Cursor
import ApiProxy.Proofs.TypeRef.Reading

/-!
# Reading descriptors by position

The reader of descriptors once more, as one that moves a position in the text instead of handing
on what is left of it. It comes to its end from every position that cuts no character, finds what
the reader of lists finds in the characters ahead, and takes at least a character for every type
that it finds.

Nothing in the definitions says that a reader ends; one that went on for ever would have no
result, like one that cuts a character.

The two readers do not leave the same: where a character is expected and another one stands
there, the blanks in front of it have been skipped here, and there they have not. What they leave
is the same but for blanks in front, and neither minds such blanks.

## Main definitions

* `Cursor.scanType`, `Cursor.scanNamed`, `Cursor.scanArg`, `Cursor.scanArgs`: the reader of types,
  of names with arguments, of one turn behind an argument and of all of them.
* `TypeRef.Agrees`: a reader ends with what was found in a list, and what was left there.

## Main results

* `TypeRef.scan_agrees`: the two readers agree, whatever blanks are in front.
* `TypeRef.scan_moves`: where the reader ends, from every position.
* `TypeRef.scanWhole_reads`: whole texts are read alike.
-/

namespace ApiProxy

open Text TypeRef

namespace Text.Cursor

mutual

/-- Read one type from the position on. -/
def scanType (cur : Cursor) : OptionT Scan TypeRef := do
  cur.skipWhile isBlank
  let c ← OptionT.mk cur.peek
  if c = '[' then
    let _ ← OptionT.lift cur.bump
    let element ← cur |>.scanType
    cur.expect ']'
    return .array element (← cur.eat '?')
  else if c = '\x7b' then
    let _ ← OptionT.lift cur.bump
    let key ← cur |>.scanType
    cur.expect ':'
    let value ← cur |>.scanType
    cur.expect '\x7d'
    return .dictionary key value (← cur.eat '?')
  else cur |>.scanNamed
partial_fixpoint

/-- Read a name from the position on, with the arguments behind it. -/
def scanNamed (cur : Cursor) : OptionT Scan TypeRef := do
  let name := trimBlank (← cur.takeWhile (!isDelimiter ·))
  if name = [] then failure
  else if ← cur.eat '<' then
    let first ← cur |>.scanType
    let others ← cur |>.scanArgs
    return .generic (String.ofList name) (first :: others) (← cur.eat '?')
  else return ofPlain name
partial_fixpoint

/-- One turn behind an argument: another argument behind a comma, or none behind the closing
bracket. -/
def scanArg (cur : Cursor) : OptionT Scan (Option TypeRef) := do
  if ← cur.eat ',' then
    let arg ← cur |>.scanType
    return some arg
  else
    cur.expect '>'
    return none
partial_fixpoint

/-- Read the arguments that follow the first one, up to the closing bracket. -/
def scanArgs (cur : Cursor) : OptionT Scan (List TypeRef) := do
  match ← cur |>.scanArg with
  | some arg =>
    let others ← cur |>.scanArgs
    return arg :: others
  | none => return []
partial_fixpoint

end

/-- Read the whole text as one type; blanks may follow it. -/
def scanWhole (cur : Cursor) : OptionT Scan TypeRef := do
  let type ← cur.scanType
  cur.skipWhile isBlank
  if ← cur.atEnd then return type else failure

end Text.Cursor

namespace TypeRef

/-! ### What the readers find, as lists -/

/-- What a reader found, and what it left. -/
def found {α : Type} {cs : List Char} (o : Option (α × Rest cs)) : Option (α × List Char) :=
  o.map fun x => (x.1, x.2.1)

/-- The type that begins with a name in front of a text. -/
def named? (cs : List Char) : Option (TypeRef × List Char) :=
  if trimBlank (nameRun cs) = [] then none
  else match eat? '<' (afterName cs) with
    | some r => do
      let (first, r₁) ← found (read? r.1)
      let (others, r₂) ← found (readArgs? r₁)
      some (.generic (String.ofList (trimBlank (nameRun cs))) (first :: others) (eatMark r₂).1,
        (eatMark r₂).2.1)
    | none => some (ofPlain (trimBlank (nameRun cs)), afterName cs)

/-- Another argument behind a comma, or none behind the closing bracket. -/
def argument? (cs : List Char) : Option (Option TypeRef × List Char) :=
  match eat? ',' cs with
  | some r => (found (read? r.1)).map fun (arg, r₁) => (some arg, r₁)
  | none => (eat? '>' cs).map fun r => (none, r.1)

theorem found_read?_of_blank {s : List Char} (h : skipBlank s = []) : found (read? s) = none := by
  rw [read?]
  split
  · rfl
  · next h' => simp [h] at h'

theorem found_read?_of_bracket {s r : List Char} (h : skipBlank s = '[' :: r) :
    found (read? s) = (found (read? r)).bind fun (element, r₁) =>
      (eat? ']' r₁).bind fun r₂ => some (.array element (eatMark r₂.1).1, (eatMark r₂.1).2.1) := by
  rw [read?]
  split
  · next h' => simp [h] at h'
  · next c u h' =>
    obtain ⟨rfl, rfl⟩ : '[' = c ∧ r = u := by simpa [h] using h'
    rw [if_pos rfl]
    simp only [found, Option.bind_eq_bind, Option.map_bind, Option.bind_map, Function.comp_def,
      Option.map_some]

theorem found_read?_of_brace {s r : List Char} (h : skipBlank s = '\x7b' :: r) :
    found (read? s) = (found (read? r)).bind fun (key, r₁) =>
      (eat? ':' r₁).bind fun r₂ => (found (read? r₂.1)).bind fun (value, r₃) =>
        (eat? '\x7d' r₃).bind fun r₄ =>
          some (.dictionary key value (eatMark r₄.1).1, (eatMark r₄.1).2.1) := by
  rw [read?]
  split
  · next h' => simp [h] at h'
  · next c u h' =>
    obtain ⟨rfl, rfl⟩ : '\x7b' = c ∧ r = u := by simpa [h] using h'
    rw [if_neg (by decide), if_pos rfl]
    simp only [found, Option.bind_eq_bind, Option.map_bind, Option.bind_map, Function.comp_def,
      Option.map_some]

theorem found_read?_of_name {s r : List Char} {c : Char} (h : skipBlank s = c :: r)
    (hbracket : c ≠ '[') (hbrace : c ≠ '\x7b') : found (read? s) = named? (c :: r) := by
  rw [read?]
  split
  · next h' => simp [h] at h'
  · next c' u h' =>
    obtain ⟨rfl, rfl⟩ : c = c' ∧ r = u := by simpa [h] using h'
    rw [if_neg hbracket, if_neg hbrace, named?]
    split
    · rfl
    · cases eat? '<' (afterName (c :: r)) with
      | none => rfl
      | some r₁ =>
        simp only [found, Option.bind_eq_bind, Option.map_bind, Option.bind_map,
          Function.comp_def, Option.map_some]

theorem found_readArgs? (s : List Char) :
    found (readArgs? s) = (argument? s).bind fun
      | (some arg, r) =>
        (found (readArgs? r)).bind fun (others, r₁) => some (arg :: others, r₁)
      | (none, r) => some ([], r) := by
  rw [readArgs?, argument?]
  cases eat? ',' s with
  | some r =>
    simp only [found, Option.bind_eq_bind, Option.map_bind, Option.bind_map, Function.comp_def,
      Option.map_some]
  | none =>
    simp only [found, Option.bind_eq_bind, Option.map_bind, Option.bind_map, Function.comp_def,
      Option.map_some]

/-! ### Agreement -/

/-- With `cs` ahead, a reader comes to its end with what was found in a list, and what it has
ahead then is what was left there, but for blanks. -/
def Agrees {α : Type} (text : String) (s : OptionT Scan α) (cs : List Char)
    (o : Option (α × List Char)) : Prop :=
  ∃ rest, Reaches text s.run cs (o.map Prod.fst) rest ∧
    ∀ a r, o = some (a, r) → skipBlank rest = skipBlank r

section Agrees

variable {α β : Type} {text : String} {cur : Cursor} {cs mid s r : List Char} {a : α} {c : Char}
  {o : Option (α × List Char)} {o' : Option (β × List Char)}

theorem agrees_pure (h : skipBlank cs = skipBlank r) : Agrees text (pure a) cs (some (a, r)) := by
  refine ⟨cs, reaches_pure text (some a) cs, fun a' r' hsome => ?_⟩
  obtain ⟨-, rfl⟩ := Prod.mk.inj (Option.some.inj hsome)
  exact h

theorem agrees_failure (text : String) (cs : List Char) :
    Agrees text (failure : OptionT Scan α) cs none :=
  ⟨cs, reaches_pure text none cs, by simp⟩

/-- A reader goes on where another one agreed, or stops with it. -/
theorem Agrees.bind {t : OptionT Scan α} {f : α → OptionT Scan β}
    {g : α × List Char → Option (β × List Char)} (ht : Agrees text t cs o)
    (hf : ∀ a r mid, o = some (a, r) → skipBlank mid = skipBlank r →
      Agrees text (f a) mid (g (a, r))) : Agrees text (t >>= f) cs (o.bind g) := by
  obtain ⟨mid, ht, hmid⟩ := ht
  cases o with
  | none => exact ⟨mid, ht.bind_none, by simp⟩
  | some x =>
    obtain ⟨rest, hf, hrest⟩ := hf x.1 x.2 mid rfl (hmid x.1 x.2 rfl)
    exact ⟨rest, ht.bind_some hf, hrest⟩

/-- What agrees behind a step agrees with the step before it. -/
theorem Agrees.after {t : OptionT Scan α} {f : α → OptionT Scan β}
    (hf : Agrees text (f a) mid o') (ht : Reaches text t.run cs (some a) mid) :
    Agrees text (t >>= f) cs o' := by
  obtain ⟨rest, hf, hrest⟩ := hf
  exact ⟨rest, ht.bind_some hf, hrest⟩

theorem reaches_eat_of_eq_some (cur : Cursor) {r : Rest s} (h : skipBlank cs = skipBlank s)
    (hsome : eat? c s = some r) : Reaches cur.text (cur.eat c) cs true r.1 := by
  rw [eat?] at hsome
  split at hsome
  · simp at hsome
  · next d u hs =>
    split at hsome
    · next hd =>
      obtain rfl := Option.some.inj hsome
      exact reaches_eat_of_eq cur (h.trans (hd ▸ hs))
    · simp at hsome

theorem reaches_eat_of_eq_none (cur : Cursor) (h : skipBlank cs = skipBlank s)
    (hnone : eat? c s = none) : Reaches cur.text (cur.eat c) cs false (skipBlank s) := by
  rw [← h]
  refine reaches_eat_of_ne cur ?_
  rw [h]
  rw [eat?] at hnone
  split at hnone
  · next hs => simp [hs]
  · next d u hs =>
    split at hnone
    · simp at hnone
    · next hd => simpa [hs] using hd

/-- A character that has to come next. -/
theorem agrees_expect_bind {f : Unit → OptionT Scan β} {g : Rest s → Option (β × List Char)}
    (h : skipBlank cs = skipBlank s)
    (hf : ∀ r, eat? c s = some r → Agrees cur.text (f ()) r.1 (g r)) :
    Agrees cur.text (cur.expect c >>= f) cs ((eat? c s).bind g) := by
  cases heat : eat? c s with
  | none =>
    have heat := (reaches_eat_of_eq_none cur h heat).lift
    have hexpect : Reaches cur.text (cur.expect c).run cs none (skipBlank s) :=
      heat.bind_some (reaches_pure cur.text none (skipBlank s))
    exact ⟨skipBlank s, hexpect.bind_none, by simp⟩
  | some r =>
    have hnext := (reaches_eat_of_eq_some cur h heat).lift
    have hexpect : Reaches cur.text (cur.expect c).run cs (some ()) r.1 :=
      hnext.bind_some (reaches_pure cur.text (some ()) r.1)
    exact (hf r heat).after hexpect

/-- The nullable mark, and what the reader makes of it. -/
theorem agrees_mark (f : Bool → α) (h : skipBlank cs = skipBlank s) :
    Agrees cur.text (do return f (← cur.eat '?')) cs
      (some (f (eatMark s).1, (eatMark s).2.1)) := by
  rw [eatMark]
  cases heat : eat? '?' s with
  | none =>
    refine Agrees.after ?_ (reaches_eat_of_eq_none cur h heat).lift
    exact agrees_pure (skipBlank_skipBlank s)
  | some r =>
    refine Agrees.after ?_ (reaches_eat_of_eq_some cur h heat).lift
    exact agrees_pure rfl

/-- The step to the character behind blanks. -/
theorem agrees_next {f : Char → OptionT Scan α} (h : skipBlank cs = c :: r)
    (hf : Agrees cur.text (f c) (c :: r) o) :
    Agrees cur.text (do cur.skipWhile isBlank; let c ← OptionT.mk cur.peek; f c) cs o := by
  have hskip := (h ▸ reaches_skipBlank cur cs).lift
  have hpeek : Reaches cur.text (OptionT.mk cur.peek).run (c :: r) (some c) (c :: r) :=
    reaches_peek cur (c :: r)
  refine Agrees.after ?_ hskip
  exact hf.after hpeek

theorem agrees_next_of_blank {f : Char → OptionT Scan α} (h : skipBlank cs = []) :
    Agrees cur.text (do cur.skipWhile isBlank; let c ← OptionT.mk cur.peek; f c) cs none := by
  have hskip := (h ▸ reaches_skipBlank cur cs).lift
  have hpeek : Reaches cur.text (OptionT.mk cur.peek).run [] none [] := reaches_peek cur []
  refine Agrees.after ?_ hskip
  exact ⟨[], hpeek.bind_none, by simp⟩

end Agrees

/-- Wherever what is ahead is a given list, but for blanks, the reader of types agrees with the
reader of lists on it. -/
def ScanAgrees (cur : Cursor) (s : List Char) : Prop :=
  ∀ cs, skipBlank cs = skipBlank s → Agrees cur.text cur.scanType cs (found (read? s))

/-- The same for the readers of arguments. -/
def ScanArgsAgrees (cur : Cursor) (s : List Char) : Prop :=
  ∀ cs, skipBlank cs = skipBlank s → Agrees cur.text cur.scanArgs cs (found (readArgs? s))

/-- The readers agree on the arguments behind a character, as far as they are read. -/
def ArgsAgreeBehind (cur : Cursor) (c : Char) (s : List Char) : Prop :=
  ∀ r, eat? c s = some r → ScanAgrees cur r.1 ∧ ∀ r₁ : Rest r.1, ScanArgsAgrees cur r₁.1

/-- What was found was read, and less is left. -/
theorem exists_of_found_eq_some {α : Type} {cs r : List Char} {o : Option (α × Rest cs)} {a : α}
    (h : found o = some (a, r)) : ∃ r' : Rest cs, r = r'.1 ∧ o = some (a, r') := by
  obtain ⟨⟨a', r'⟩, ho, heq⟩ := Option.map_eq_some_iff.1 h
  obtain ⟨rfl, rfl⟩ := Prod.mk.inj heq
  exact ⟨r', rfl, ho⟩

variable {text : String} {cur : Cursor} {s r cs : List Char} {c : Char}

/-! ### The two readers step by step -/

theorem agrees_scan_of_blank (h : skipBlank s = []) : ScanAgrees cur s := by
  intro cs hcs
  rw [Cursor.scanType, found_read?_of_blank h]
  exact agrees_next_of_blank (hcs.trans h)

theorem agrees_scan_of_bracket (h : skipBlank s = '[' :: r) (ih : ScanAgrees cur r) :
    ScanAgrees cur s := by
  intro cs hcs
  rw [Cursor.scanType, found_read?_of_bracket h]
  refine agrees_next (hcs.trans h) ?_
  rw [if_pos rfl]
  refine Agrees.after ?_ (reaches_bump cur ('[' :: r)).lift
  refine (ih r rfl).bind fun element r₁ mid _ hmid => ?_
  refine agrees_expect_bind hmid fun r₂ _ => ?_
  exact agrees_mark (TypeRef.array element) rfl

theorem agrees_scan_of_brace (h : skipBlank s = '\x7b' :: r) (ihkey : ScanAgrees cur r)
    (ihvalue : ∀ (r₁ : Rest r) (r₂ : Rest r₁.1), ScanAgrees cur r₂.1) : ScanAgrees cur s := by
  intro cs hcs
  rw [Cursor.scanType, found_read?_of_brace h]
  refine agrees_next (hcs.trans h) ?_
  rw [if_neg (by decide), if_pos rfl]
  refine Agrees.after ?_ (reaches_bump cur ('\x7b' :: r)).lift
  refine (ihkey r rfl).bind fun key r₁ mid hkey hmid => ?_
  obtain ⟨r₁, rfl, -⟩ := exists_of_found_eq_some hkey
  refine agrees_expect_bind hmid fun r₂ _ => ?_
  refine (ihvalue r₁ r₂ r₂.1 rfl).bind fun value r₃ mid _ hmid => ?_
  refine agrees_expect_bind hmid fun r₄ _ => ?_
  exact agrees_mark (TypeRef.dictionary key value) rfl

theorem agrees_scanNamed
    (hargs : trimBlank (nameRun cs) ≠ [] → ArgsAgreeBehind cur '<' (afterName cs)) :
    Agrees cur.text cur.scanNamed cs (named? cs) := by
  rw [Cursor.scanNamed, named?]
  refine Agrees.after ?_ (reaches_takeWhile cur (!isDelimiter ·) cs).lift
  change Agrees cur.text (if trimBlank (nameRun cs) = [] then _ else _) (afterName cs) _
  split
  · exact agrees_failure cur.text _
  · next hname =>
    split
    · next r hsome =>
      obtain ⟨hfirst, hothers⟩ := hargs hname r hsome
      refine Agrees.after ?_ (reaches_eat_of_eq_some cur rfl hsome).lift
      rw [if_pos rfl]
      refine (hfirst r.1 rfl).bind fun first r₁ mid hread hmid => ?_
      obtain ⟨r₁, rfl, -⟩ := exists_of_found_eq_some hread
      refine (hothers r₁ mid hmid).bind fun others r₂ mid _ hmid => ?_
      exact agrees_mark (TypeRef.generic _ (first :: others)) hmid
    · next hnone =>
      refine Agrees.after ?_ (reaches_eat_of_eq_none cur rfl hnone).lift
      rw [if_neg (by decide)]
      exact agrees_pure (skipBlank_skipBlank _)

theorem agrees_scan_of_name (h : skipBlank s = c :: r) (hbracket : c ≠ '[')
    (hbrace : c ≠ '\x7b')
    (hargs : trimBlank (nameRun (c :: r)) ≠ [] → ArgsAgreeBehind cur '<' (afterName (c :: r))) :
    ScanAgrees cur s := by
  intro cs hcs
  rw [Cursor.scanType, found_read?_of_name h hbracket hbrace]
  refine agrees_next (hcs.trans h) ?_
  rw [if_neg hbracket, if_neg hbrace]
  exact agrees_scanNamed hargs

theorem agrees_scanArg (hargs : ArgsAgreeBehind cur ',' s)
    (hcs : skipBlank cs = skipBlank s) : Agrees cur.text cur.scanArg cs (argument? s) := by
  rw [Cursor.scanArg, argument?]
  split
  · next r hsome =>
    refine Agrees.after ?_ (reaches_eat_of_eq_some cur hcs hsome).lift
    rw [if_pos rfl, Option.map_eq_bind]
    exact ((hargs r hsome).1 r.1 rfl).bind fun arg r₁ mid _ hmid => agrees_pure hmid
  · next hnone =>
    refine Agrees.after ?_ (reaches_eat_of_eq_none cur hcs hnone).lift
    rw [if_neg (by decide), Option.map_eq_bind]
    exact agrees_expect_bind (skipBlank_skipBlank s) fun r _ => agrees_pure rfl

theorem exists_of_argument?_eq_some {arg : TypeRef} (h : argument? s = some (some arg, r)) :
    ∃ (r₁ : Rest s) (r₂ : Rest r₁.1), eat? ',' s = some r₁ ∧ r = r₂.1 := by
  rw [argument?] at h
  split at h
  · next r₁ hsome =>
    obtain ⟨⟨arg', r'⟩, hread, heq⟩ := Option.map_eq_some_iff.1 h
    obtain ⟨r₂, rfl, -⟩ := exists_of_found_eq_some hread
    exact ⟨r₁, r₂, hsome, (Prod.mk.inj heq).2.symm⟩
  · obtain ⟨_, _, heq⟩ := Option.map_eq_some_iff.1 h
    simp at heq

theorem agrees_scanArgs (hargs : ArgsAgreeBehind cur ',' s) : ScanArgsAgrees cur s := by
  intro cs hcs
  rw [Cursor.scanArgs, found_readArgs?]
  refine (agrees_scanArg hargs hcs).bind fun arg? r mid harg hmid => ?_
  cases arg? with
  | none => exact agrees_pure hmid
  | some arg =>
    obtain ⟨r₁, r₂, hsome, rfl⟩ := exists_of_argument?_eq_some harg
    exact ((hargs r₁ hsome).2 r₂ mid hmid).bind fun others r₃ mid _ hmid => agrees_pure hmid

/-- Wherever it stands, the reader that keeps a position agrees with the reader of lists. -/
theorem scan_agrees (cur : Cursor) :
    (∀ s, ScanAgrees cur s) ∧ ∀ s, ScanArgsAgrees cur s := by
  -- The induction follows the reader of lists. What the other one has ahead may differ from its
  -- list in the blanks in front, which is why agreement is stated for all such texts at once.
  refine read?.mutual_induct (ScanAgrees cur) (ScanArgsAgrees cur) ?_ ?_ ?_ ?_ ?_ ?_ ?_ ?_
  · intro s hs
    exact agrees_scan_of_blank hs
  · intro s r hs _ ih
    exact agrees_scan_of_bracket hs ih
  · intro s r hs _ _ ihkey ihvalue
    exact agrees_scan_of_brace hs ihkey ihvalue
  · intro s c r hs _ hbracket hbrace hblank
    exact agrees_scan_of_name hs hbracket hbrace fun hname => absurd hblank hname
  · intro s c r hs _ hbracket hbrace _ _ hnone
    refine agrees_scan_of_name hs hbracket hbrace fun _ r₁ hsome => ?_
    simp [hnone] at hsome
  · intro s c r hs _ hbracket hbrace _ _ r₁ hsome ihfirst ihothers
    refine agrees_scan_of_name hs hbracket hbrace fun _ r₁' hsome' => ?_
    obtain rfl := Option.some.inj (hsome.symm.trans hsome')
    exact ⟨ihfirst, ihothers⟩
  · intro s r hsome iharg ihothers
    refine agrees_scanArgs fun r' hsome' => ?_
    obtain rfl := Option.some.inj (hsome.symm.trans hsome')
    exact ⟨iharg, ihothers⟩
  · intro s hnone
    refine agrees_scanArgs fun r hsome => ?_
    simp [hnone] at hsome

theorem argsAgreeBehind (cur : Cursor) (c : Char) (s : List Char) : ArgsAgreeBehind cur c s :=
  fun r _ => ⟨(scan_agrees cur).1 r.1, fun r₁ => (scan_agrees cur).2 r₁.1⟩

/-! ### Where the reader goes -/

/-- A reader that agrees with what takes more than blanks moves on. -/
theorem Agrees.movesOn {α : Type} {t : OptionT Scan α} {o : Option (α × List Char)}
    {pos : String.Pos.Raw} (h : Agrees text t cs o)
    (hlt : ∀ a r, o = some (a, r) → r.length < (skipBlank cs).length)
    (hpos : Ahead text pos cs) : MovesOn text t pos := by
  obtain ⟨rest, hreaches, hrest⟩ := h
  refine hreaches.movesOn (fun hsome => ?_) hpos
  obtain ⟨⟨a, r⟩, rfl⟩ := Option.isSome_iff_exists.1 (by simpa using hsome)
  have hle : (skipBlank rest).length ≤ r.length := by
    rw [hrest a r rfl]
    exact length_skipBlank_le r
  have hne : rest ≠ cs := by
    rintro rfl
    exact absurd (hlt a r rfl) (Nat.not_lt.2 hle)
  exact Nat.lt_of_le_of_ne hreaches.suffix.length_le fun heq =>
    hne (hreaches.suffix.eq_of_length heq)

theorem length_lt_of_found {α : Type} {s r : List Char} {o : Option (α × Rest s)} {a : α}
    (h : found o = some (a, r)) : r.length < s.length := by
  obtain ⟨r, rfl, -⟩ := exists_of_found_eq_some h
  exact r.2

theorem length_lt_of_argument? {arg? : Option TypeRef} (h : argument? s = some (arg?, r)) :
    r.length < s.length := by
  cases arg? with
  | some arg =>
    obtain ⟨r₁, r₂, -, rfl⟩ := exists_of_argument?_eq_some h
    exact Nat.lt_trans r₂.2 r₁.2
  | none =>
    rw [argument?] at h
    split at h
    · obtain ⟨_, _, heq⟩ := Option.map_eq_some_iff.1 h
      simp at heq
    · obtain ⟨r₁, -, heq⟩ := Option.map_eq_some_iff.1 h
      obtain ⟨-, rfl⟩ := Prod.mk.inj heq
      exact r₁.2

theorem length_afterName_lt_skipBlank (h : trimBlank (nameRun cs) ≠ []) :
    (afterName cs).length < (skipBlank cs).length := by
  have hvisible : ∃ c ∈ nameRun cs, isBlank c = false := by
    by_contra hall
    exact h (trimBlank_eq_nil_iff.2 fun c hc => by
      by_contra hb
      exact hall ⟨c, hc, by simpa using hb⟩)
  have hsplit : skipBlank cs = skipBlank (nameRun cs) ++ afterName cs := by
    rw [← skipBlank_append_of_visible hvisible, nameRun, afterName,
      List.takeWhile_append_dropWhile]
  have hne : skipBlank (nameRun cs) ≠ [] := fun hnil => h (by rw [trimBlank, hnil]; rfl)
  rw [hsplit, List.length_append]
  exact Nat.lt_add_of_pos_left (List.length_pos_iff.2 hne)

theorem length_lt_of_named? {t : TypeRef} (h : named? cs = some (t, r)) :
    r.length < (skipBlank cs).length := by
  rw [named?] at h
  split at h
  · simp at h
  · next hname =>
    have hafter := length_afterName_lt_skipBlank hname
    split at h
    · next r₁ _ =>
      obtain ⟨⟨first, r₂⟩, hfirst, h⟩ := Option.bind_eq_some_iff.1 h
      obtain ⟨⟨others, r₃⟩, hothers, h⟩ := Option.bind_eq_some_iff.1 h
      obtain ⟨-, rfl⟩ := Prod.mk.inj (Option.some.inj h)
      have h₁ := r₁.2
      have h₂ := length_lt_of_found hfirst
      have h₃ := length_lt_of_found hothers
      have h₄ := (eatMark r₃).2.2
      omega
    · obtain ⟨-, rfl⟩ := Prod.mk.inj (Option.some.inj h)
      exact hafter

/-- From the start of a text, the reader comes to its end with what its characters are read as. -/
theorem scanWhole_reads (cur : Cursor) :
    ∃ pos, cur.scanWhole.run.run 0 = some (ofDescriptor? cur.text.toList, pos) := by
  have hwhole : Agrees cur.text cur.scanWhole cur.text.toList
      ((found (read? cur.text.toList)).bind fun (type, r) =>
        if skipBlank r = [] then some (type, []) else none) := by
    refine ((scan_agrees cur).1 _ _ rfl).bind fun type r mid _ hmid => ?_
    refine Agrees.after ?_ (reaches_skipBlank cur mid).lift
    refine Agrees.after ?_ (reaches_atEnd cur (skipBlank mid)).lift
    rw [hmid]
    dsimp only
    by_cases hend : skipBlank r = []
    · rw [if_pos hend, hend, List.isEmpty_nil, if_pos rfl]
      exact agrees_pure rfl
    · rw [if_neg hend, if_neg (by simpa using hend)]
      exact agrees_failure cur.text _
  obtain ⟨rest, hreaches, -⟩ := hwhole
  obtain ⟨pos, hrun, -⟩ := hreaches.run 0 (ahead_zero cur.text)
  refine ⟨pos, hrun.trans ?_⟩
  rw [ofDescriptor?]
  cases read? cur.text.toList with
  | none => rfl
  | some x =>
    by_cases hend : skipBlank x.2.1 = []
    · simp [found, hend]
    · simp [found, hend]

/-- **Reading a descriptor ends, and cuts no character.** From every position of a text that cuts
no character, each step of the reader comes to its end at such a position, neither behind the
first one nor beyond the end of the text. A type, a name or another argument that was found takes
up at least a character. What is found is what is read in the characters ahead. -/
theorem scan_moves (cur : Cursor) (pos : String.Pos.Raw) (hpos : pos.IsValid cur.text) :
    (Moves cur.text cur.peek pos ∧ Moves cur.text cur.bump pos ∧
        (∀ c, Moves cur.text (cur.eat c) pos) ∧ Moves cur.text (cur.skipWhile isBlank) pos) ∧
      (MovesOn cur.text cur.scanType pos ∧ MovesOn cur.text cur.scanNamed pos ∧
        MovesOn cur.text cur.scanArg pos ∧ MovesOn cur.text cur.scanArgs pos) ∧
      ∀ cs, Ahead cur.text pos cs →
        ∃ pos', cur.scanType.run.run pos = some ((read? cs).map Prod.fst, pos') := by
  obtain ⟨cs, hcs⟩ := isValid_iff_ahead.1 hpos
  have hblank : skipBlank cs = skipBlank (skipBlank cs) := (skipBlank_skipBlank cs).symm
  refine ⟨⟨?_, ?_, fun c => ?_, ?_⟩, ⟨?_, ?_, ?_, ?_⟩, fun cs' hcs' => ?_⟩
  · exact (reaches_peek cur cs).moves hcs
  · exact (reaches_bump cur cs).moves hcs
  · obtain ⟨b, rest, heat⟩ := exists_reaches_eat cur c cs
    exact heat.moves hcs
  · exact (reaches_skipBlank cur cs).moves hcs
  · exact ((scan_agrees cur).1 (skipBlank cs) cs hblank).movesOn
      (fun _ _ => length_lt_of_found) hcs
  · exact (agrees_scanNamed fun _ => argsAgreeBehind cur '<' (afterName cs)).movesOn
      (fun _ _ => length_lt_of_named?) hcs
  · exact (agrees_scanArg (argsAgreeBehind cur ',' (skipBlank cs)) hblank).movesOn
      (fun _ _ => length_lt_of_argument?) hcs
  · exact ((scan_agrees cur).2 (skipBlank cs) cs hblank).movesOn
      (fun _ _ => length_lt_of_found) hcs
  · obtain ⟨rest, hreaches, -⟩ := (scan_agrees cur).1 cs' cs' rfl
    obtain ⟨pos', hrun, -⟩ := hreaches.run pos hcs'
    exact ⟨pos', by rw [hrun, found, Option.map_map]; rfl⟩

/-- A name begins with a character that is two bytes wide; one position further would cut it. -/
theorem scan_moves_accented :
    (⟨2⟩ : String.Pos.Raw).IsValid "[Bé<A>, é]" ∧ ¬(⟨3⟩ : String.Pos.Raw).IsValid "[Bé<A>, é]" ∧
      MovesOn "[Bé<A>, é]" (Cursor.mk "[Bé<A>, é]").scanNamed ⟨2⟩ := by
  have hvalid : (⟨2⟩ : String.Pos.Raw).IsValid "[Bé<A>, é]" := by decide
  exact ⟨hvalid, by decide, (scan_moves ⟨"[Bé<A>, é]"⟩ ⟨2⟩ hvalid).2.1.2.1⟩

end TypeRef

end ApiProxy
