import ApiProxy.Proofs.Json.Numerals
import ApiProxy.Proofs.Json.Strings

/-!
# Reading back a written value

The text of a value is read as the outline of that value: nothing in it is at fault, and
reading stops exactly where the text ends. The one condition is that each number of the value
is read back from its own digits; integers of at most 64 bits always are, and a reader never
keeps any other integer.

## Main definitions

* `Json.numbers`, `Json.outline`: the numbers in a value, and what its text says.
* `Json.Outline.Reads`: the front of a text is read to its end as an outline.
* `Json.Outline.numbers`: the numbers that a reader keeps.

## Main results

* `Json.reads_indentedChars`: the text of a value is read as the outline of the value.
* `Json.Outline.inRange_numbers_read`: every integer that is kept has at most 64 bits.
-/

namespace ApiProxy.Json

open Outline Numeral

mutual

/-- The numbers that stand in a value. -/
def numbers : Json → List Number
  | number n => [n]
  | array items => numbersOfItems items
  | object members => numbersOfMembers members
  | null | bool _ | string _ => []

/-- The numbers that stand in the elements of an array. -/
def numbersOfItems : List Json → List Number
  | [] => []
  | v :: vs => v.numbers ++ numbersOfItems vs

/-- The numbers that stand in the values of members. -/
def numbersOfMembers : List (String × Json) → List Number
  | [] => []
  | (_, v) :: ms => v.numbers ++ numbersOfMembers ms

end

mutual

/-- What the text of a value says. -/
def outline : Json → Outline
  | null => .null
  | bool b => .bool b
  | number n => .number ⟨.ok n, .ok ()⟩
  | string s => .string ⟨.ok s, .ok ()⟩
  | array items => .array (outlineOfItems items) .closed
  | object members => .object (outlineOfMembers members) .closed

/-- What the texts of the elements of an array say. -/
def outlineOfItems : List Json → List Outline
  | [] => []
  | v :: vs => v.outline :: outlineOfItems vs

/-- What the texts of members say. -/
def outlineOfMembers : List (String × Json) → List (Outline × Outline)
  | [] => []
  | (name, v) :: ms => (.string ⟨.ok name, .ok ()⟩, v.outline) :: outlineOfMembers ms

end

theorem mem_numbers_array {n : Number} {items : List Json} :
    n ∈ (array items).numbers ↔ ∃ v ∈ items, n ∈ v.numbers := by
  rw [numbers]
  induction items with
  | nil => simp [numbersOfItems]
  | cons v vs ih => simp [numbersOfItems, ih]

theorem mem_numbers_object {n : Number} {members : List (String × Json)} :
    n ∈ (object members).numbers ↔ ∃ m ∈ members, n ∈ m.2.numbers := by
  rw [numbers]
  induction members with
  | nil => simp [numbersOfMembers]
  | cons m ms ih => simp [numbersOfMembers, ih]

namespace Outline

/-- The value in front of a text has an outline and ends where another text begins. -/
def Reads (cs : List Char) (o : Outline) (r : List Char) : Prop :=
  ∃ h, read cs = (o, some ⟨r, h⟩)

/-- The elements of an array are read to its closing bracket. -/
def ReadsItems (first : Bool) (cs : List Char) (os : List Outline) (close : Close)
    (r : List Char) : Prop :=
  ∃ h, readItems first cs = (os, close, some ⟨r, h⟩)

/-- The members of an object are read to its closing brace. -/
def ReadsMembers (first : Bool) (cs : List Char) (ms : List (Outline × Outline))
    (close : Close) (r : List Char) : Prop :=
  ∃ h, readMembers first cs = (ms, close, some ⟨r, h⟩)

/-- A member is read to the end of its value. -/
def ReadsMember (cs : List Char) (m : Outline × Outline) (r : List Char) : Prop :=
  ∃ h, readMember cs = (m, some ⟨r, h⟩)

variable {cs ds t r : List Char}

/-! ### Blanks -/

theorem skipSpace_cons_of_not {c : Char} (h : isSpace c = false) :
    skipSpace (c :: cs) = c :: cs := by
  simp [skipSpace, h]

theorem skipSpace_newLine (level : Nat) (cs : List Char) :
    skipSpace (newLine level ++ cs) = skipSpace cs := by
  rw [skipSpace, List.dropWhile_append_of_pos]
  · rfl
  · intro c hc
    rcases List.mem_cons.1 hc with rfl | hc
    · rfl
    · obtain ⟨-, rfl⟩ := List.mem_replicate.1 hc
      rfl

/-! ### One token further -/

theorem reads_string {s : List Char} (h : skipSpace cs = '"' :: t)
    (hskim : ∃ h, Quoted.skim t = .ok ⟨r, h⟩) (hdecode : Quoted.decode t = .ok s) :
    Reads cs (.string ⟨.ok (String.ofList s), .ok ()⟩) r := by
  obtain ⟨hr, hskim⟩ := hskim
  refine ⟨Nat.lt_trans hr (length_lt_of_skipSpace_eq h), ?_⟩
  rw [read]
  split
  · next h' => simp [h] at h'
  · next c t' h' =>
    obtain ⟨rfl, rfl⟩ := List.cons.inj (h.symm.trans h')
    rw [if_pos rfl, ofQuoted, hskim, hdecode]
    rfl

theorem reads_array {os : List Outline} {close : Close} (h : skipSpace cs = '[' :: t)
    (ht : ReadsItems true t os close r) : Reads cs (.array os close) r := by
  obtain ⟨hr, ht⟩ := ht
  refine ⟨Nat.lt_trans hr (length_lt_of_skipSpace_eq h), ?_⟩
  rw [read]
  split
  · next h' => simp [h] at h'
  · next c t' h' =>
    obtain ⟨rfl, rfl⟩ := List.cons.inj (h.symm.trans h')
    rw [if_neg (by decide), if_pos rfl, ht]
    rfl

theorem reads_object {ms : List (Outline × Outline)} {close : Close}
    (h : skipSpace cs = '\x7b' :: t) (ht : ReadsMembers true t ms close r) :
    Reads cs (.object ms close) r := by
  obtain ⟨hr, ht⟩ := ht
  refine ⟨Nat.lt_trans hr (length_lt_of_skipSpace_eq h), ?_⟩
  rw [read]
  split
  · next h' => simp [h] at h'
  · next c t' h' =>
    obtain ⟨rfl, rfl⟩ := List.cons.inj (h.symm.trans h')
    rw [if_neg (by decide), if_neg (by decide), if_pos rfl, ht]
    rfl

theorem reads_word {o : Outline} {letters : List Char} {c : Char}
    (h : skipSpace cs = c :: (letters ++ r))
    (hc : (c = 'n' ∧ o = .null ∧ letters = ['u', 'l', 'l']) ∨
      (c = 't' ∧ o = .bool true ∧ letters = ['r', 'u', 'e']) ∨
      (c = 'f' ∧ o = .bool false ∧ letters = ['a', 'l', 's', 'e'])) :
    Reads cs o r := by
  have hlt := length_lt_of_skipSpace_eq h
  rw [List.length_append] at hlt
  refine ⟨by omega, ?_⟩
  rw [read]
  split
  · next h' => simp [h] at h'
  · next d t' h' =>
    obtain ⟨rfl, rfl⟩ := List.cons.inj (h.symm.trans h')
    rcases hc with ⟨rfl, rfl, rfl⟩ | ⟨rfl, rfl, rfl⟩ | ⟨rfl, rfl, rfl⟩ <;> rfl

theorem reads_negative {n : Numeral} (h : skipSpace cs = '-' :: t)
    (hn : ∃ h, Numeral.ofChars true t = .ok (n, ⟨r, h⟩)) :
    Reads cs (.number ⟨n.number, .ok ()⟩) r := by
  obtain ⟨hr, hn⟩ := hn
  refine ⟨Nat.lt_trans hr (length_lt_of_skipSpace_eq h), ?_⟩
  rw [read]
  split
  · next h' => simp [h] at h'
  · next c t' h' =>
    obtain ⟨rfl, rfl⟩ := List.cons.inj (h.symm.trans h')
    simp only [ofNumeral, hn]
    rfl

theorem ne_of_isDigit {c d : Char} (hc : c.isDigit = true) (hd : d.isDigit = false) : c ≠ d := by
  rintro rfl
  exact Bool.false_ne_true (hd.symm.trans hc)

theorem reads_digits {n : Numeral} {c : Char} (h : skipSpace cs = c :: t)
    (hc : c.isDigit = true) (hn : ∃ h, Numeral.ofChars false (c :: t) = .ok (n, ⟨r, h⟩)) :
    Reads cs (.number ⟨n.number, .ok ()⟩) r := by
  obtain ⟨hr, hn⟩ := hn
  refine ⟨Nat.lt_of_lt_of_le hr (length_cons_le_of_skipSpace_eq h), ?_⟩
  rw [read]
  split
  · next h' => simp [h] at h'
  · next d t' h' =>
    obtain ⟨rfl, rfl⟩ := List.cons.inj (h.symm.trans h')
    rw [if_neg (ne_of_isDigit hc rfl), if_neg (ne_of_isDigit hc rfl),
      if_neg (ne_of_isDigit hc rfl), if_neg (ne_of_isDigit hc rfl),
      if_neg (ne_of_isDigit hc rfl), if_neg (ne_of_isDigit hc rfl),
      if_neg (ne_of_isDigit hc rfl), if_pos hc]
    simp only [ofNumeral, hn]
    rfl

/-- Digits that spell a number are read as that number, up to a text that stops them. -/
theorem reads_number {v : Number} (hv : Spells cs v) (hr : Stops r)
    (h : skipSpace ds = skipSpace (cs ++ r)) :
    Reads ds (.number ⟨.ok v, .ok ()⟩) r := by
  obtain ⟨n, hnumber, ⟨t, rfl, hn⟩ | hn⟩ := hv
  · rw [← hnumber]
    refine reads_negative (t := t ++ r) ?_ (ofChars_append hn hr)
    rw [h]
    exact skipSpace_cons_of_not rfl
  · obtain ⟨c, t, rfl, hc⟩ := exists_cons_of_ofChars hn
    have hspace : isSpace c = false := by
      simp only [isSpace, Bool.or_eq_false_iff, beq_eq_false_iff_ne]
      exact ⟨⟨⟨ne_of_isDigit hc rfl, ne_of_isDigit hc rfl⟩, ne_of_isDigit hc rfl⟩,
        ne_of_isDigit hc rfl⟩
    rw [← hnumber]
    refine reads_digits (c := c) (t := t ++ r) ?_ hc (ofChars_append hn hr)
    rw [h]
    exact skipSpace_cons_of_not hspace

theorem Reads.head {o : Outline} (h : Reads cs o r) :
    ∃ c t, skipSpace cs = c :: t ∧ c ≠ ']' ∧ c ≠ '\x7d' := by
  obtain ⟨hr, h⟩ := h
  rw [read] at h
  split at h
  · cases h
  · next c t h' =>
    refine ⟨c, t, h', ?_, ?_⟩
    · rintro rfl
      cases h
    · rintro rfl
      cases h

theorem readsItems_closed {first : Bool} (h : skipSpace cs = ']' :: r) :
    ReadsItems first cs [] .closed r := by
  refine ⟨length_lt_of_skipSpace_eq h, ?_⟩
  rw [readItems]
  split
  · next h' => simp [h] at h'
  · next c t h' =>
    obtain ⟨rfl, rfl⟩ := List.cons.inj (h.symm.trans h')
    exact if_pos rfl

theorem readsItems_first {o : Outline} {os : List Outline} {close : Close} {r₁ : List Char}
    (ho : Reads cs o r₁) (hos : ReadsItems false r₁ os close r) :
    ReadsItems true cs (o :: os) close r := by
  obtain ⟨c, t, h, hc, -⟩ := ho.head
  obtain ⟨h₁, ho⟩ := ho
  obtain ⟨h₂, hos⟩ := hos
  refine ⟨Nat.lt_trans h₂ h₁, ?_⟩
  rw [readItems]
  split
  · next h' => simp [h] at h'
  · next d t' h' =>
    obtain ⟨rfl, rfl⟩ := List.cons.inj (h.symm.trans h')
    rw [if_neg hc, if_pos rfl, ho]
    dsimp only
    rw [hos]
    rfl

theorem readsItems_comma {o : Outline} {os : List Outline} {close : Close} {r₁ : List Char}
    (h : skipSpace cs = ',' :: t) (ho : Reads t o r₁) (hos : ReadsItems false r₁ os close r) :
    ReadsItems false cs (o :: os) close r := by
  obtain ⟨d, u, ht, hd, -⟩ := ho.head
  obtain ⟨h₁, ho⟩ := ho
  obtain ⟨h₂, hos⟩ := hos
  refine ⟨Nat.lt_trans h₂ (Nat.lt_trans h₁ (length_lt_of_skipSpace_eq h)), ?_⟩
  rw [readItems]
  split
  · next h' => simp [h] at h'
  · next c t' h' =>
    obtain ⟨rfl, rfl⟩ := List.cons.inj (h.symm.trans h')
    rw [if_neg (by decide), if_neg (by decide), if_pos rfl, ht]
    dsimp only
    rw [if_neg hd, ho]
    dsimp only
    rw [hos]
    rfl

theorem readsMember_of {s : Scan String} {o : Outline} {r₁ : List Char}
    (hname : Reads cs (.string s) r₁) (hcolon : skipSpace r₁ = ':' :: t) (ho : Reads t o r) :
    ReadsMember cs (.string s, o) r := by
  obtain ⟨h₁, hname⟩ := hname
  obtain ⟨h₂, ho⟩ := ho
  refine ⟨Nat.lt_trans h₂ (Nat.lt_trans (length_lt_of_skipSpace_eq hcolon) h₁), ?_⟩
  rw [readMember, hname]
  dsimp only
  split
  · next h' => simp [hcolon] at h'
  · next c t' h' =>
    obtain ⟨rfl, rfl⟩ := List.cons.inj (hcolon.symm.trans h')
    rw [if_pos rfl, ho]
    rfl

theorem readsMembers_closed {first : Bool} (h : skipSpace cs = '\x7d' :: r) :
    ReadsMembers first cs [] .closed r := by
  refine ⟨length_lt_of_skipSpace_eq h, ?_⟩
  rw [readMembers]
  split
  · next h' => simp [h] at h'
  · next c t h' =>
    obtain ⟨rfl, rfl⟩ := List.cons.inj (h.symm.trans h')
    exact if_pos rfl

theorem readsMembers_first {m : Outline × Outline} {ms : List (Outline × Outline)}
    {close : Close} {r₁ : List Char} (h : skipSpace cs = '"' :: t)
    (hm : ReadsMember cs m r₁) (hms : ReadsMembers false r₁ ms close r) :
    ReadsMembers true cs (m :: ms) close r := by
  obtain ⟨h₁, hm⟩ := hm
  obtain ⟨h₂, hms⟩ := hms
  refine ⟨Nat.lt_trans h₂ h₁, ?_⟩
  rw [readMembers]
  split
  · next h' => simp [h] at h'
  · next c t' h' =>
    obtain ⟨rfl, rfl⟩ := List.cons.inj (h.symm.trans h')
    rw [if_neg (by decide), if_pos rfl, hm]
    dsimp only
    rw [hms]
    rfl

theorem readsMembers_comma {m : Outline × Outline} {ms : List (Outline × Outline)}
    {close : Close} {r₁ u : List Char} (h : skipSpace cs = ',' :: t)
    (ht : skipSpace t = '"' :: u) (hm : ReadsMember t m r₁)
    (hms : ReadsMembers false r₁ ms close r) : ReadsMembers false cs (m :: ms) close r := by
  obtain ⟨h₁, hm⟩ := hm
  obtain ⟨h₂, hms⟩ := hms
  refine ⟨Nat.lt_trans h₂ (Nat.lt_trans h₁ (length_lt_of_skipSpace_eq h)), ?_⟩
  rw [readMembers]
  split
  · next h' => simp [h] at h'
  · next c t' h' =>
    obtain ⟨rfl, rfl⟩ := List.cons.inj (h.symm.trans h')
    rw [if_neg (by decide), if_neg (by decide), if_pos rfl, ht]
    dsimp only
    rw [if_neg (by decide), hm]
    dsimp only
    rw [hms]
    rfl

end Outline

/-! ### The text of a value -/

theorem skipSpace_quoted (s : String) (cs : List Char) :
    skipSpace (quoted s ++ cs) = '"' :: (s.toList.flatMap escaped ++ '"' :: cs) := by
  rw [quoted, List.cons_append, skipSpace_cons_of_not rfl, List.append_assoc]
  rfl

theorem reads_quoted {s : String} {cs r : List Char}
    (h : skipSpace cs = skipSpace (quoted s ++ r)) : Reads cs (.string ⟨.ok s, .ok ()⟩) r := by
  have hread := reads_string (h.trans (skipSpace_quoted s r)) (Quoted.skim_escaped _ r)
    (Quoted.decode_escaped _ r)
  rwa [String.ofList_toList] at hread

theorem stops_cons {c : Char} {cs : List Char}
    (h : c.isDigit = false ∧ c ≠ '.' ∧ c ≠ 'e' ∧ c ≠ 'E') : Stops (c :: cs) := by
  intro d hd
  obtain rfl := Option.some.inj hd
  exact h

theorem stops_indentedItems (level : Nat) (vs : List Json) (r : List Char) :
    Stops (indentedItems level vs ++ r) := by
  cases vs with
  | nil => exact stops_cons (by decide)
  | cons v vs => exact stops_cons (by decide)

theorem stops_indentedMembers (level : Nat) (ms : List (String × Json)) (r : List Char) :
    Stops (indentedMembers level ms ++ r) := by
  cases ms with
  | nil => exact stops_cons (by decide)
  | cons m ms => exact stops_cons (by decide)

/-- A member on its line is read to the end of its value. -/
theorem readsMember_line (level : Nat) (name : String) {o : Outline} {cs r : List Char}
    (h : Reads (' ' :: cs) o r) :
    ReadsMember (newLine level ++ (quoted name ++ ':' :: ' ' :: cs))
      (.string ⟨.ok name, .ok ()⟩, o) r :=
  readsMember_of (reads_quoted (skipSpace_newLine level _)) (skipSpace_cons_of_not rfl) h

/-- A line with a member begins with a quote. -/
theorem skipSpace_newLine_quoted (level : Nat) (s : String) (cs : List Char) :
    skipSpace (newLine level ++ (quoted s ++ cs)) =
      '"' :: (s.toList.flatMap escaped ++ '"' :: cs) := by
  rw [skipSpace_newLine, skipSpace_quoted]

mutual

/-- The text of a value is read as the outline of the value, if its numbers are read back. -/
theorem reads_indentedChars (level : Nat) (v : Json) {cs r : List Char}
    (hv : ∀ n ∈ v.numbers, n.ReadsBack) (hr : Stops r)
    (h : skipSpace cs = skipSpace (v.indentedChars level ++ r)) : Reads cs v.outline r := by
  match v with
  | null => exact reads_word h (.inl ⟨rfl, rfl, rfl⟩)
  | bool true => exact reads_word h (.inr (.inl ⟨rfl, rfl, rfl⟩))
  | bool false => exact reads_word h (.inr (.inr ⟨rfl, rfl, rfl⟩))
  | number n => exact reads_number (hv n (List.mem_singleton_self n)) hr h
  | string s => exact reads_quoted h
  | array [] => exact reads_array h (readsItems_closed (skipSpace_cons_of_not rfl))
  | array (v :: vs) =>
    rw [indentedChars, List.cons_append, List.append_assoc, List.append_assoc] at h
    have hhead := reads_indentedChars (level + 1) v
      (fun n hn => hv n (List.mem_append_left _ hn)) (stops_indentedItems level vs r)
      (skipSpace_newLine (level + 1) _)
    have htail := readsItems_indentedItems level vs r
      (fun n hn => hv n (List.mem_append_right _ hn))
    exact reads_array h (readsItems_first hhead htail)
  | object [] => exact reads_object h (readsMembers_closed (skipSpace_cons_of_not rfl))
  | object ((name, v) :: ms) =>
    simp only [indentedChars, List.cons_append, List.append_assoc] at h
    have hhead := readsMember_line (level + 1) name
      (reads_indentedChars (level + 1) v (fun n hn => hv n (List.mem_append_left _ hn))
        (stops_indentedMembers level ms r) rfl)
    have htail := readsMembers_indentedMembers level ms r
      (fun n hn => hv n (List.mem_append_right _ hn))
    exact reads_object h
      (readsMembers_first (skipSpace_newLine_quoted _ _ _) hhead htail)

/-- The lines of an array behind its first element are read to its closing bracket. -/
theorem readsItems_indentedItems (level : Nat) (vs : List Json) (r : List Char)
    (hvs : ∀ n ∈ numbersOfItems vs, n.ReadsBack) :
    ReadsItems false (indentedItems level vs ++ r) (outlineOfItems vs) .closed r := by
  match vs with
  | [] =>
    rw [indentedItems, List.append_assoc]
    refine readsItems_closed ?_
    rw [skipSpace_newLine]
    exact skipSpace_cons_of_not rfl
  | v :: vs =>
    rw [indentedItems, List.cons_append, List.append_assoc, List.append_assoc]
    have hhead := reads_indentedChars (level + 1) v
      (fun n hn => hvs n (List.mem_append_left _ hn)) (stops_indentedItems level vs r)
      (skipSpace_newLine (level + 1) _)
    have htail := readsItems_indentedItems level vs r
      (fun n hn => hvs n (List.mem_append_right _ hn))
    exact readsItems_comma (skipSpace_cons_of_not rfl) hhead htail

/-- The lines of an object behind its first member are read to its closing brace. -/
theorem readsMembers_indentedMembers (level : Nat) (ms : List (String × Json))
    (r : List Char) (hms : ∀ n ∈ numbersOfMembers ms, n.ReadsBack) :
    ReadsMembers false (indentedMembers level ms ++ r) (outlineOfMembers ms) .closed r := by
  match ms with
  | [] =>
    rw [indentedMembers, List.append_assoc]
    refine readsMembers_closed ?_
    rw [skipSpace_newLine]
    exact skipSpace_cons_of_not rfl
  | (name, v) :: ms =>
    simp only [indentedMembers, List.cons_append, List.append_assoc]
    have hhead := readsMember_line (level + 1) name
      (reads_indentedChars (level + 1) v (fun n hn => hms n (List.mem_append_left _ hn))
        (stops_indentedMembers level ms r) rfl)
    have htail := readsMembers_indentedMembers level ms r
      (fun n hn => hms n (List.mem_append_right _ hn))
    exact readsMembers_comma (skipSpace_cons_of_not rfl) (skipSpace_newLine_quoted _ _ _)
      hhead htail

end

/-- The text of a value says what the value is, and nothing follows it. -/
theorem ofText_indented {v : Json} (hv : ∀ n ∈ v.numbers, n.ReadsBack) :
    Outline.ofText v.indented = (v.outline, true) := by
  have hread : Reads v.indented.toList v.outline [] := by
    rw [Json.indented, String.toList_ofList]
    exact reads_indentedChars 0 v hv stops_nil (by rw [List.append_nil])
  obtain ⟨hr, h⟩ := hread
  rw [Outline.ofText, h]
  rfl

/-! ### Numbers that a reader keeps -/

namespace Outline

mutual

/-- The numbers that a reader of an outline keeps. -/
def numbers : Outline → List Number
  | number n => n.kept.toOption.toList
  | array items _ => numbersOfItems items
  | object members _ => numbersOfMembers members
  | null | bool _ | string _ | misspelt _ | broken _ => []

/-- The numbers that a reader of the elements of an array keeps. -/
def numbersOfItems : List Outline → List Number
  | [] => []
  | o :: os => o.numbers ++ numbersOfItems os

/-- The numbers that a reader of members keeps. -/
def numbersOfMembers : List (Outline × Outline) → List Number
  | [] => []
  | (_, o) :: ms => o.numbers ++ numbersOfMembers ms

end

theorem inRange_ofNumeral (negative : Bool) (cs : List Char) :
    ∀ n ∈ (ofNumeral negative cs).1.numbers, n.InRange := by
  intro n hn
  unfold ofNumeral at hn
  split at hn
  · next m r hm =>
    cases hm' : m.number with
    | error f => simp [numbers, hm', Except.toOption] at hn
    | ok v =>
      simp only [numbers, hm', Except.toOption, Option.toList_some, List.mem_singleton] at hn
      exact hn ▸ inRange_number hm'
  · simp [numbers, Except.toOption] at hn

theorem numbers_ofWord {o : Outline} {letters cs : List Char} (h : o.numbers = []) :
    (ofWord o letters cs).1.numbers = [] := by
  unfold ofWord
  split
  · exact h
  · rfl

mutual

/-- Every integer that a reader keeps has at most 64 bits. -/
theorem inRange_numbers_read (cs : List Char) :
    ∀ n ∈ (Outline.read cs).1.numbers, n.InRange := by
  rw [Outline.read]
  split
  · simp [numbers]
  · next c r h =>
    have hr := length_lt_of_skipSpace_eq h
    dsimp only
    split
    · rw [ofQuoted]
      split <;> simp [numbers]
    split
    · exact inRange_numbers_readItems true r
    split
    · exact inRange_numbers_readMembers true r
    split
    · rw [numbers_ofWord (o := null) rfl]
      simp
    split
    · rw [numbers_ofWord (o := (.bool true)) rfl]
      simp
    split
    · rw [numbers_ofWord (o := (.bool false)) rfl]
      simp
    split
    · exact inRange_ofNumeral true r
    split
    · exact inRange_ofNumeral false (c :: r)
    · simp [numbers]
termination_by (cs.length, 0)

theorem inRange_numbers_readItems (first : Bool) (cs : List Char) :
    ∀ n ∈ numbersOfItems (readItems first cs).1, n.InRange := by
  rw [readItems]
  split
  · simp [numbersOfItems]
  · next c r h =>
    have hr := length_lt_of_skipSpace_eq h
    split
    · simp [numbersOfItems]
    split
    · have hread := inRange_numbers_read cs
      split
      · next o h₁ => exact List.forall_mem_append.2 ⟨by simpa only [h₁] using hread, nofun⟩
      · next o r₁ h₁ =>
        have hmore := inRange_numbers_readItems false r₁.1
        exact List.forall_mem_append.2 ⟨by simpa only [h₁] using hread, hmore⟩
    split
    · split
      · simp [numbersOfItems]
      split
      · simp [numbersOfItems]
      · have hread := inRange_numbers_read r
        split
        · next o h₁ => exact List.forall_mem_append.2 ⟨by simpa only [h₁] using hread, nofun⟩
        · next o r₁ h₁ =>
          have hlt := Nat.lt_trans r₁.2 hr
          have hmore := inRange_numbers_readItems false r₁.1
          exact List.forall_mem_append.2 ⟨by simpa only [h₁] using hread, hmore⟩
    · simp [numbersOfItems]
termination_by (cs.length, 1)

theorem inRange_numbers_readMembers (first : Bool) (cs : List Char) :
    ∀ n ∈ numbersOfMembers (readMembers first cs).1, n.InRange := by
  rw [readMembers]
  split
  · simp [numbersOfMembers]
  · next c r h =>
    have hr := length_lt_of_skipSpace_eq h
    split
    · simp [numbersOfMembers]
    split
    · have hread := inRange_numbers_readMember cs
      split
      · next m h₁ => exact List.forall_mem_append.2 ⟨by simpa only [h₁] using hread, nofun⟩
      · next m r₁ h₁ =>
        have hmore := inRange_numbers_readMembers false r₁.1
        exact List.forall_mem_append.2 ⟨by simpa only [h₁] using hread, hmore⟩
    split
    · split
      · simp [numbersOfMembers]
      split
      · simp [numbersOfMembers]
      · have hread := inRange_numbers_readMember r
        split
        · next m h₁ => exact List.forall_mem_append.2 ⟨by simpa only [h₁] using hread, nofun⟩
        · next m r₁ h₁ =>
          have hlt := Nat.lt_trans r₁.2 hr
          have hmore := inRange_numbers_readMembers false r₁.1
          exact List.forall_mem_append.2 ⟨by simpa only [h₁] using hread, hmore⟩
    · simp [numbersOfMembers]
termination_by (cs.length, 2)

theorem inRange_numbers_readMember (cs : List Char) :
    ∀ n ∈ (readMember cs).1.2.numbers, n.InRange := by
  rw [readMember]
  split
  · next name r _ =>
    split
    · simp [numbers]
    · next c r₁ h =>
      have hr := Nat.lt_trans (length_lt_of_skipSpace_eq h) r.2
      split
      · exact inRange_numbers_read r₁
      · simp [numbers]
  · simp [numbers]
termination_by (cs.length, 1)

end

end Outline

end ApiProxy.Json
