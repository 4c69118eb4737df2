import ApiProxy.Json.Basic
import ApiProxy.Json.Numeral
import ApiProxy.Proofs.Except
import Mathlib.Data.List.Basic
import Mathlib.Data.List.TakeWhile
import Mathlib.Tactic.ByContra

/-!
# Reading back a number

A numeral goes on for as long as it can, so it is read in the same way in front of any text
that cannot go on with it. The digits of a natural number have no leading zero and stand for
that number; an integer of at most 64 bits therefore reads back as itself.

## Main definitions

* `Json.Numeral.Stops`: a text that cannot go on with a numeral.
* `Json.Numeral.Spells`: a text is a numeral and stands for a number.
* `Json.Number.InRange`: a number that is no integer of more than 64 bits.
* `Json.Number.ReadsBack`: a number is read back from its own digits.

## Main results

* `Json.Numeral.ofChars_append`: a numeral in front of a text that stops it.
* `Json.Number.readsBack_integer`: an integer of at most 64 bits is read back.
* `Json.Numeral.inRange_number`: an integer that was read has at most 64 bits.
-/

namespace ApiProxy.Json

/-- A number that is an integer of a signed or an unsigned word of 64 bits, or a double. -/
def Number.InRange : Number → Prop
  | .integer i => -0x8000000000000000 ≤ i ∧ i < 0x10000000000000000
  | .double _ => True

namespace Numeral

/-- A text is a numeral to its end, behind an optional minus sign, and stands for a number. -/
def Spells (cs : List Char) (v : Number) : Prop :=
  ∃ n : Numeral, n.number = .ok v ∧
    ((∃ t, cs = '-' :: t ∧ ∃ h, ofChars true t = .ok (n, ⟨[], h⟩)) ∨
      ∃ h, ofChars false cs = .ok (n, ⟨[], h⟩))

/-- A text begins with nothing that goes on with a numeral. -/
def Stops (cs : List Char) : Prop :=
  ∀ c ∈ cs.head?, c.isDigit = false ∧ c ≠ '.' ∧ c ≠ 'e' ∧ c ≠ 'E'

theorem stops_nil : Stops [] := by
  intro c hc
  simp at hc

variable {cs rest run r : List Char}

theorem Stops.takeWhile_isDigit (h : Stops rest) : rest.takeWhile Char.isDigit = [] := by
  cases rest with
  | nil => rfl
  | cons c cs => rw [List.takeWhile_cons_of_neg (by simp [(h c rfl).1])]

theorem Stops.dropWhile_isDigit (h : Stops rest) : rest.dropWhile Char.isDigit = rest := by
  cases rest with
  | nil => rfl
  | cons c cs => rw [List.dropWhile_cons_of_neg (by simp [(h c rfl).1])]

/-! ### A numeral in front of another text -/

theorem digits_eq_ok_iff :
    (∃ h, digits cs = .ok (run, ⟨r, h⟩)) ↔
      run = cs.takeWhile Char.isDigit ∧ r = cs.dropWhile Char.isDigit ∧ run ≠ [] := by
  unfold digits
  split
  · next h =>
    refine iff_of_false ?_ ?_
    · rintro ⟨_, h'⟩
      exact nomatch h'
    · rintro ⟨rfl, -, hne⟩
      exact hne (List.isEmpty_iff.1 h)
  · next h =>
    simp only [Except.ok.injEq, Prod.mk.injEq, Subtype.mk.injEq]
    constructor
    · rintro ⟨-, rfl, rfl⟩
      exact ⟨rfl, rfl, by simpa using h⟩
    · rintro ⟨rfl, rfl, -⟩
      exact ⟨length_dropWhile_isDigit_lt h, rfl, rfl⟩

theorem digits_append (h : ∃ h, digits cs = .ok (run, ⟨r, h⟩)) (hrest : Stops rest) :
    ∃ h, digits (cs ++ rest) = .ok (run, ⟨r ++ rest, h⟩) := by
  obtain ⟨rfl, rfl, hne⟩ := digits_eq_ok_iff.1 h
  refine digits_eq_ok_iff.2 ⟨?_, ?_, hne⟩
  · rw [List.takeWhile_append, hrest.takeWhile_isDigit]
    split
    · next hlen =>
      rw [List.append_nil]
      exact (List.takeWhile_prefix _).eq_of_length hlen
    · rfl
  · rw [List.dropWhile_append, hrest.dropWhile_isDigit]
    split
    · next hnil => rw [List.isEmpty_iff.1 hnil, List.nil_append]
    · rfl

theorem wholePart_append (h : ∃ h, wholePart cs = .ok (run, ⟨r, h⟩)) (hrest : Stops rest) :
    ∃ h, wholePart (cs ++ rest) = .ok (run, ⟨r ++ rest, h⟩) := by
  obtain ⟨hr, h⟩ := h
  obtain ⟨⟨run', r'⟩, hdigits, h⟩ := bind_eq_ok.1 h
  dsimp only at h
  split at h
  · simp at h
  · next hzero =>
    simp only [Except.ok.injEq, Prod.mk.injEq] at h
    obtain ⟨rfl, rfl⟩ := h
    obtain ⟨hr', h'⟩ := digits_append ⟨hr, hdigits⟩ hrest
    refine ⟨hr', ?_⟩
    rw [wholePart, h', ok_bind]
    exact if_neg hzero

theorem fractionPart_append {f : Option (List Char)}
    (h : ∃ h, fractionPart cs = .ok (f, ⟨r, h⟩)) (hrest : Stops rest) :
    ∃ h, fractionPart (cs ++ rest) = .ok (f, ⟨r ++ rest, h⟩) := by
  obtain ⟨hr, h⟩ := h
  unfold fractionPart at h
  split at h
  · next t =>
    obtain ⟨⟨run, r'⟩, hdigits, h⟩ := bind_eq_ok.1 h
    simp only [Except.ok.injEq, Prod.mk.injEq, Subtype.mk.injEq] at h
    obtain ⟨rfl, rfl⟩ := h
    obtain ⟨hr', h'⟩ := digits_append ⟨r'.2, hdigits⟩ hrest
    refine ⟨Nat.le_of_lt (Nat.lt_succ_of_lt hr'), ?_⟩
    change fractionPart ('.' :: (t ++ rest)) = _
    rw [fractionPart, h', ok_bind]
  · next hpoint =>
    simp only [Except.ok.injEq, Prod.mk.injEq, Text.Tail.all, Subtype.mk.injEq] at h
    obtain ⟨rfl, rfl⟩ := h
    refine ⟨Nat.le_refl _, ?_⟩
    rw [fractionPart]
    · rfl
    · intro t ht
      cases cs with
      | nil => exact (hrest '.' (by rw [← List.nil_append rest, ht]; rfl)).2.1 rfl
      | cons c cs =>
        obtain ⟨rfl, -⟩ := List.cons.inj ht
        exact hpoint cs rfl

/-- The sign of an exponent is taken from its first character alone. -/
theorem exponentSign_append (hcs : cs ≠ []) :
    (exponentSign (cs ++ rest)).1 = (exponentSign cs).1 ∧
      (exponentSign (cs ++ rest)).2.1 = (exponentSign cs).2.1 ++ rest := by
  obtain ⟨c, t, rfl⟩ := List.exists_cons_of_ne_nil hcs
  by_cases hplus : c = '+'
  · subst hplus
    exact ⟨rfl, rfl⟩
  · by_cases hminus : c = '-'
    · subst hminus
      exact ⟨rfl, rfl⟩
    · simp [exponentSign, hplus, hminus, Text.Tail.all]

theorem ne_nil_of_digits (h : ∃ h, digits cs = .ok (run, ⟨r, h⟩)) : cs ≠ [] := by
  rintro rfl
  obtain ⟨rfl, -, hne⟩ := digits_eq_ok_iff.1 h
  exact hne rfl

/-- Behind its letter, an exponent is a sign and digits. -/
theorem exponentPart_letter_iff {c : Char} {t : List Char} {e : Option (Bool × List Char)}
    (hc : (c = 'e' || c = 'E') = true) :
    (∃ h, exponentPart (c :: t) = .ok (e, ⟨r, h⟩)) ↔
      ∃ run, (∃ h, digits (exponentSign t).2.1 = .ok (run, ⟨r, h⟩)) ∧
        e = some ((exponentSign t).1, run) := by
  rw [exponentPart, if_pos hc]
  obtain ⟨minus, t', ht⟩ := exponentSign t
  constructor
  · rintro ⟨hr, h⟩
    obtain ⟨⟨run, r'⟩, hdigits, h⟩ := bind_eq_ok.1 h
    simp only [Except.ok.injEq, Prod.mk.injEq, Subtype.mk.injEq] at h
    obtain ⟨rfl, rfl⟩ := h
    exact ⟨run, ⟨r'.2, hdigits⟩, rfl⟩
  · rintro ⟨run, ⟨hr, hdigits⟩, rfl⟩
    refine ⟨Nat.le_succ_of_le (Nat.le_trans (Nat.le_of_lt hr) ht), ?_⟩
    dsimp only at hdigits ⊢
    rw [hdigits]
    rfl

theorem exponentPart_append {e : Option (Bool × List Char)}
    (h : ∃ h, exponentPart cs = .ok (e, ⟨r, h⟩)) (hrest : Stops rest) :
    ∃ h, exponentPart (cs ++ rest) = .ok (e, ⟨r ++ rest, h⟩) := by
  cases cs with
  | nil =>
    obtain ⟨_, h⟩ := h
    simp only [exponentPart, Except.ok.injEq, Prod.mk.injEq, Text.Tail.all,
      Subtype.mk.injEq] at h
    obtain ⟨rfl, rfl⟩ := h
    refine ⟨Nat.le_refl _, ?_⟩
    change exponentPart rest = _
    cases rest with
    | nil => rfl
    | cons c t =>
      obtain ⟨-, -, he, hE⟩ := hrest c rfl
      rw [exponentPart, if_neg (by simp [he, hE])]
      rfl
  | cons c t =>
    change ∃ h, exponentPart (c :: (t ++ rest)) = .ok (e, ⟨r ++ rest, h⟩)
    by_cases hc : (c = 'e' || c = 'E') = true
    · obtain ⟨run, hdigits, rfl⟩ := (exponentPart_letter_iff hc).1 h
      have hne : t ≠ [] := by
        rintro rfl
        exact ne_nil_of_digits hdigits rfl
      obtain ⟨hsign, htail⟩ := @exponentSign_append t rest hne
      refine (exponentPart_letter_iff hc).2 ⟨run, ?_, by rw [hsign]⟩
      rw [htail]
      exact digits_append hdigits hrest
    · obtain ⟨_, h⟩ := h
      rw [exponentPart, if_neg hc] at h
      simp only [Except.ok.injEq, Prod.mk.injEq, Text.Tail.all, Subtype.mk.injEq] at h
      obtain ⟨rfl, rfl⟩ := h
      refine ⟨Nat.le_refl _, ?_⟩
      rw [exponentPart, if_neg hc]
      rfl

/-- A numeral is read in the same way in front of any text that stops it. -/
theorem ofChars_append {negative : Bool} {n : Numeral}
    (h : ∃ h, ofChars negative cs = .ok (n, ⟨r, h⟩)) (hrest : Stops rest) :
    ∃ h, ofChars negative (cs ++ rest) = .ok (n, ⟨r ++ rest, h⟩) := by
  obtain ⟨hr, h⟩ := h
  obtain ⟨⟨whole, r₁⟩, hwhole, h⟩ := bind_eq_ok.1 h
  obtain ⟨⟨fraction, r₂⟩, hfraction, h⟩ := bind_eq_ok.1 h
  obtain ⟨⟨exponent, r₃⟩, hexponent, h⟩ := bind_eq_ok.1 h
  simp only [Except.ok.injEq, Prod.mk.injEq, Subtype.mk.injEq] at h
  obtain ⟨rfl, rfl⟩ := h
  obtain ⟨h₁, hwhole'⟩ := wholePart_append ⟨r₁.2, hwhole⟩ hrest
  obtain ⟨h₂, hfraction'⟩ := fractionPart_append ⟨r₂.2, hfraction⟩ hrest
  obtain ⟨h₃, hexponent'⟩ := exponentPart_append ⟨r₃.2, hexponent⟩ hrest
  refine ⟨Nat.lt_of_le_of_lt (Nat.le_trans h₃ h₂) h₁, ?_⟩
  rw [ofChars, hwhole', ok_bind]
  dsimp only
  rw [hfraction', ok_bind]
  dsimp only
  rw [hexponent', ok_bind]

/-! ### Integers -/

theorem value_toDigits (n : Nat) : value (Nat.toDigits 10 n) = n := by
  have h : value (Nat.toDigits 10 n) = Nat.ofDigitChars 10 (Nat.toDigits 10 n) 0 := by
    simp only [value, Nat.ofDigitChars, Nat.mul_comm]
  rw [h, Nat.ofDigitChars_ten_toDigits]

theorem head?_toDigits_ne_zero {n : Nat} (h : 0 < n) : (Nat.toDigits 10 n).head? ≠ some '0' := by
  induction n using Nat.strong_induction_on with
  | _ n ih =>
    by_cases hn : n < 10
    · rw [Nat.toDigits_of_lt_base hn]
      simp only [List.head?_cons, ne_eq, Option.some.injEq, Nat.digitChar_eq_zero]
      omega
    · rw [Nat.toDigits_of_base_le (by decide) (by omega),
        List.head?_append_of_ne_nil _ Nat.toDigits_ne_nil]
      exact ih (n / 10) (by omega) (by omega)

theorem wholePart_toDigits (n : Nat) :
    ∃ h, wholePart (Nat.toDigits 10 n) = .ok (Nat.toDigits 10 n, ⟨[], h⟩) := by
  have hdigit : ∀ c ∈ Nat.toDigits 10 n, c.isDigit = true := fun c hc =>
    Nat.isDigit_of_mem_toDigits (by decide) (by decide) hc
  obtain ⟨h, hdigits⟩ := digits_eq_ok_iff.2
    ⟨(List.takeWhile_eq_self_iff.2 hdigit).symm, (List.dropWhile_eq_nil_iff.2 hdigit).symm,
      Nat.toDigits_ne_nil⟩
  refine ⟨h, ?_⟩
  rw [wholePart, hdigits, ok_bind]
  refine if_neg ?_
  simp only [Bool.and_eq_true, decide_eq_true_eq, not_and]
  intro hzero
  rcases Nat.eq_zero_or_pos n with rfl | hn
  · decide
  · exact absurd hzero (head?_toDigits_ne_zero hn)

/-- The digits of a natural number are a numeral. -/
theorem ofChars_toDigits (negative : Bool) (n : Nat) :
    ∃ h, ofChars negative (Nat.toDigits 10 n) =
      .ok (⟨negative, Nat.toDigits 10 n, none, none⟩, ⟨[], h⟩) := by
  obtain ⟨h, hwhole⟩ := wholePart_toDigits n
  refine ⟨h, ?_⟩
  rw [ofChars, hwhole]
  rfl

/-- An integer that a numeral stands for has at most 64 bits. -/
theorem inRange_number {n : Numeral} {v : Number} (h : n.number = .ok v) : v.InRange := by
  unfold number at h
  split at h
  · next i hi =>
    obtain rfl := Except.ok.inj h
    unfold integer? at hi
    split at hi
    · exact nomatch hi
    · split at hi
      · split at hi
        · next hvalue =>
          simp only [Nat.pow_eq, Bool.and_eq_true, decide_eq_true_eq] at hvalue
          obtain rfl := Option.some.inj hi
          constructor <;> omega
        · exact nomatch hi
      · split at hi
        · next hvalue =>
          simp only [wordLimit, Nat.pow_eq] at hvalue
          obtain rfl := Option.some.inj hi
          constructor <;> omega
        · exact nomatch hi
  · split at h
    · obtain rfl := Except.ok.inj h
      exact trivial
    · exact nomatch h

theorem exists_cons_of_ofChars {negative : Bool} {n : Numeral}
    (h : ∃ h, ofChars negative cs = .ok (n, ⟨r, h⟩)) :
    ∃ c t, cs = c :: t ∧ c.isDigit = true := by
  obtain ⟨_, h⟩ := h
  obtain ⟨⟨whole, r₁⟩, hwhole, -⟩ := bind_eq_ok.1 h
  obtain ⟨⟨run, r₁'⟩, hdigits, -⟩ := bind_eq_ok.1 hwhole
  obtain ⟨rfl, -, hne⟩ := digits_eq_ok_iff.1 ⟨r₁'.2, hdigits⟩
  cases cs with
  | nil => exact absurd rfl hne
  | cons c t =>
    refine ⟨c, t, rfl, ?_⟩
    by_contra hc
    rw [List.takeWhile_cons_of_neg hc] at hne
    exact hne rfl

end Numeral

namespace Number

/-- A number is read back from its own digits. -/
def ReadsBack (v : Number) : Prop := Numeral.Spells v.chars v

/-- An integer of at most 64 bits is read back from its digits. -/
theorem readsBack_integer {i : Int} (h : (integer i).InRange) : (integer i).ReadsBack := by
  obtain ⟨hlow, hhigh⟩ := h
  refine ⟨⟨i < 0, Nat.toDigits 10 i.natAbs, none, none⟩, ?_, ?_⟩
  · have hi : Numeral.integer? ⟨i < 0, Nat.toDigits 10 i.natAbs, none, none⟩ = some i := by
      simp only [Numeral.integer?, Option.isSome_none, Bool.or_self, Bool.false_eq_true,
        if_false, Numeral.value_toDigits, Numeral.wordLimit, Nat.pow_eq]
      by_cases hneg : i < 0
      · rw [if_pos (by simpa using hneg), if_pos (by simp; omega)]
        congr 1
        omega
      · rw [if_neg (by simpa using hneg), if_pos (by omega)]
        congr 1
        omega
    rw [Numeral.number, hi]
  · by_cases hneg : i < 0
    · refine .inl ⟨Nat.toDigits 10 i.natAbs, by rw [chars, integerChars, if_pos hneg], ?_⟩
      rw [decide_eq_true hneg]
      exact Numeral.ofChars_toDigits true i.natAbs
    · refine .inr ?_
      rw [chars, integerChars, if_neg hneg, decide_eq_false hneg]
      exact Numeral.ofChars_toDigits false i.natAbs

end Number

end ApiProxy.Json
