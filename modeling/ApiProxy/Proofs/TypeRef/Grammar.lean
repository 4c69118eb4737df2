import ApiProxy.Proofs.Text.Blank
import ApiProxy.TypeRef.Descriptor

/-!
# The grammar of type descriptors

The grammar says which texts are descriptors without saying how they are read. With `ws` for a
run of blanks, a type is one of

* `ws [ T ws ]` with a mark behind it,
* `ws { T ws : T ws }` with a mark behind it,
* `ws N < T (ws , T)* ws >` with a mark behind it,
* `ws N`, where a last `?` of the name is the mark,

where the mark is nothing or `ws ?`, and the name `N` is a run of characters other than the eight
delimiters that is not blank and goes on up to the next delimiter or to the end of the text. A
relation of this file holds between a text, what the derivation in front of it stands for, and
the text behind that derivation.

## Main definitions

* `TypeRef.Derives`: a derivation of a type stands in front of a text.
* `TypeRef.Denotes`: a whole text is the derivation of a type, with blanks behind it.

## Main results

* `TypeRef.name_iff`: a name in front of a text is the run behind the blanks.
* `TypeRef.DerivesArgs.follow`: what may follow a type follows it within a descriptor.
-/

namespace ApiProxy

namespace TypeRef

open Text

/-- The mark that may stand behind a closing bracket. -/
inductive Mark : List Char → Bool → List Char → Prop
  | absent (s : List Char) : Mark s false s
  | present {s r : List Char} (h : Token '?' s r) : Mark s true r

/-- A name in front of a text: blanks, and a run up to the next delimiter or to the end that is
not blank. The name is the run without the blanks at its ends. -/
inductive Name : List Char → List Char → List Char → Prop
  | mk {s run r : List Char} (blanks : Blanks s (run ++ r))
      (plain : ∀ c ∈ run, isDelimiter c = false) (maximal : ∀ c ∈ r.head?, isDelimiter c = true)
      (visible : ∃ c ∈ run, isBlank c = false) : Name s (trimBlank run) r

mutual

/-- A derivation of a type stands in front of a text. -/
inductive Derives : List Char → TypeRef → List Char → Prop
  | array {s s₁ s₂ s₃ r : List Char} {element : TypeRef} {nullable : Bool}
      (opening : Token '[' s s₁) (derives : Derives s₁ element s₂)
      (closing : Token ']' s₂ s₃) (mark : Mark s₃ nullable r) :
      Derives s (.array element nullable) r
  | dictionary {s s₁ s₂ s₃ s₄ s₅ r : List Char} {key value : TypeRef} {nullable : Bool}
      (opening : Token '\x7b' s s₁) (derivesKey : Derives s₁ key s₂)
      (colon : Token ':' s₂ s₃) (derivesValue : Derives s₃ value s₄)
      (closing : Token '\x7d' s₄ s₅) (mark : Mark s₅ nullable r) :
      Derives s (.dictionary key value nullable) r
  | generic {s n s₁ s₂ s₃ r : List Char} {first : TypeRef} {others : List TypeRef}
      {nullable : Bool} (name : Name s n ('<' :: s₁)) (derives : Derives s₁ first s₂)
      (args : DerivesArgs s₂ others s₃) (mark : Mark s₃ nullable r) :
      Derives s (.generic (String.ofList n) (first :: others) nullable) r
  | plain {s n r : List Char} (name : Name s n r) (unmarked : n.getLast? ≠ some '?') :
      Derives s (.simple (String.ofList n) false) r
  | marked {s n r : List Char} (name : Name s (n ++ ['?']) r) :
      Derives s (.simple (String.ofList n) true) r

/-- The arguments behind the first one, with the closing bracket, stand in front of a text. -/
inductive DerivesArgs : List Char → List TypeRef → List Char → Prop
  | close {s r : List Char} (closing : Token '>' s r) : DerivesArgs s [] r
  | more {s s₁ s₂ r : List Char} {arg : TypeRef} {others : List TypeRef}
      (comma : Token ',' s s₁) (derives : Derives s₁ arg s₂)
      (args : DerivesArgs s₂ others r) : DerivesArgs s (arg :: others) r

end

/-- A text as a whole is a descriptor of a type; blanks may stand behind it. -/
def Denotes (s : List Char) (t : TypeRef) : Prop := ∃ r, Derives s t r ∧ Blanks r []

/-- What may follow a type within a descriptor: blanks, and then nothing or a delimiter that
does not open arguments. -/
def Follow (r : List Char) : Prop := ∀ c ∈ (skipBlank r).head?, isDelimiter c = true ∧ c ≠ '<'

theorem isBlank_of_isDelimiter {c : Char} (h : isDelimiter c = true) : isBlank c = false := by
  simp only [isDelimiter, Bool.or_eq_true, beq_iff_eq] at h
  rcases h with ((((((rfl | rfl) | rfl) | rfl) | rfl) | rfl) | rfl) | rfl <;> decide

/-- The run of a name ends where a delimiter, or nothing, follows. -/
theorem nameRun_append {run r : List Char} (plain : ∀ c ∈ run, isDelimiter c = false)
    (maximal : ∀ c ∈ r.head?, isDelimiter c = true) : nameRun (run ++ r) = run := by
  rw [nameRun, List.takeWhile_append_of_pos (by simpa using plain)]
  cases r with
  | nil => simp
  | cons c r => simp [maximal c rfl]

theorem afterName_append {run r : List Char} (plain : ∀ c ∈ run, isDelimiter c = false)
    (maximal : ∀ c ∈ r.head?, isDelimiter c = true) : afterName (run ++ r) = r := by
  rw [afterName, List.dropWhile_append_of_pos (by simpa using plain)]
  cases r with
  | nil => rfl
  | cons c r => simp [maximal c rfl]

/-- A name in front of a text is the run behind the blanks, and only one. -/
theorem name_iff {s n r : List Char} :
    Name s n r ↔
      n ≠ [] ∧ n = trimBlank (nameRun (skipBlank s)) ∧ r = afterName (skipBlank s) := by
  constructor
  · rintro ⟨blanks, plain, maximal, visible⟩
    rename_i run
    have hplain : ∀ c ∈ skipBlank run, isDelimiter c = false := fun c hc =>
      plain c ((skipBlank_suffix run).subset hc)
    rw [blanks.skipBlank_eq, skipBlank_append_of_visible visible, nameRun_append hplain maximal,
      afterName_append hplain maximal, trimBlank_skipBlank]
    refine ⟨fun h => ?_, rfl, rfl⟩
    obtain ⟨c, hc, hb⟩ := visible
    simp [trimBlank_eq_nil_iff.1 h c hc] at hb
  · rintro ⟨hne, rfl, rfl⟩
    refine .mk ?_ (fun c hc => ?_) (fun c hc => ?_) ?_
    · rw [nameRun, afterName, List.takeWhile_append_dropWhile]
      exact blanks_skipBlank s
    · simpa using List.mem_takeWhile_imp hc
    · have := List.head?_dropWhile_not (!isDelimiter ·) (skipBlank s)
      rw [afterName] at hc
      simp only [Option.mem_def] at hc
      simpa [hc] using this
    · by_contra hall
      exact hne (trimBlank_eq_nil_iff.2 fun c hc => by
        by_contra hb
        exact hall ⟨c, hc, by simpa using hb⟩)

theorem Name.head {s n r : List Char} (h : Name s n r) : ∀ c ∈ r.head?, isDelimiter c = true := by
  obtain ⟨_, _, maximal, _⟩ := h
  exact maximal

theorem Name.skipBlank_rest {s n r : List Char} (h : Name s n r) : skipBlank r = r := by
  cases r with
  | nil => rfl
  | cons c r => exact skipBlank_cons (isBlank_of_isDelimiter (h.head c rfl))

theorem Name.skipBlank_eq_cons {s n r : List Char} (h : Name s n r) :
    ∃ c u, skipBlank s = c :: u ∧ c ≠ '[' ∧ c ≠ '\x7b' := by
  obtain ⟨hne, rfl, -⟩ := name_iff.1 h
  cases hs : skipBlank s with
  | nil =>
    rw [hs] at hne
    exact absurd rfl hne
  | cons c u =>
    have hrun (hd : isDelimiter c = true) : nameRun (skipBlank s) = [] := by
      simp [hs, nameRun, hd]
    refine ⟨c, u, rfl, ?_, ?_⟩
    · rintro rfl
      rw [hrun rfl] at hne
      exact absurd rfl hne
    · rintro rfl
      rw [hrun rfl] at hne
      exact absurd rfl hne

theorem follow_of_token {c : Char} {s r : List Char} (h : Token c s r)
    (hc : isDelimiter c = true) (hne : c ≠ '<') : Follow s := by
  intro d hd
  rw [(token_iff (isBlank_of_isDelimiter hc)).1 h] at hd
  obtain rfl : c = d := by simpa using hd
  exact ⟨hc, hne⟩

theorem follow_of_blanks {r : List Char} (h : Blanks r []) : Follow r := by
  intro c hc
  rw [blanks_nil_iff.1 h] at hc
  simp at hc

/-- The arguments behind a type begin with a comma or close it. -/
theorem DerivesArgs.follow {s r : List Char} {ts : List TypeRef} (h : DerivesArgs s ts r) :
    Follow s := by
  cases h with
  | close closing => exact follow_of_token closing rfl (by decide)
  | more comma => exact follow_of_token comma rfl (by decide)

end TypeRef

end ApiProxy
