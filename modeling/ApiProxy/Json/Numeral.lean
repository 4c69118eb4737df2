import ApiProxy.Json.Fault
import ApiProxy.Text.Rest

/-!
# Numerals

A numeral is an optional minus sign, decimal digits without a leading zero, an optional
fraction and an optional exponent. One with neither fraction nor exponent that fits 64 bits,
and is not minus zero, stands for an integer; every other one stands for a double.

The significand of a double takes the digits of the whole part and of the fraction from the
left for as long as they fit 64 bits. Digits of the whole part that do not fit count as zeros,
those of the fraction are dropped.
-/

namespace ApiProxy.Json

/-- The parts of a numeral as they are written. -/
structure Numeral where
  negative : Bool
  whole : List Char
  fraction : Option (List Char)
  /-- The sign of the exponent, `true` for minus, and its digits. -/
  exponent : Option (Bool × List Char)
deriving DecidableEq, Repr

/-- What is wrong with a misspelt numeral. -/
inductive Numeral.Flaw where
  /-- The text ends where a digit should stand. -/
  | truncated
  /-- A character stands where a digit should, or a zero leads other digits. -/
  | malformed
deriving DecidableEq, Repr

namespace Numeral

open Text (Rest Tail)

/-- What is wrong at the front of a text where a digit should stand. -/
def flawAt (cs : List Char) : Flaw :=
  if cs.isEmpty then .truncated else .malformed

theorem length_dropWhile_isDigit_lt {cs : List Char}
    (h : ¬(cs.takeWhile Char.isDigit).isEmpty = true) :
    (cs.dropWhile Char.isDigit).length < cs.length := by
  have hsplit := congrArg List.length
    (List.takeWhile_append_dropWhile (p := Char.isDigit) (l := cs))
  have : 0 < (cs.takeWhile Char.isDigit).length :=
    List.length_pos_iff.2 fun h' => h (by rw [h']; rfl)
  simp only [List.length_append] at hsplit
  omega

/-- Take one or more digits. -/
def digits (cs : List Char) : Except Flaw (List Char × Rest cs) :=
  if h : (cs.takeWhile Char.isDigit).isEmpty then .error (flawAt cs)
  else .ok (cs.takeWhile Char.isDigit,
    ⟨cs.dropWhile Char.isDigit, length_dropWhile_isDigit_lt h⟩)

/-- Take the digits of the whole part: a zero alone, or digits that begin with another one. -/
def wholePart (cs : List Char) : Except Flaw (List Char × Rest cs) := do
  let (run, r) ← digits cs
  if run.head? = some '0' && 1 < run.length then .error .malformed else .ok (run, r)

/-- Take the fraction, if a point comes next. -/
def fractionPart (cs : List Char) : Except Flaw (Option (List Char) × Tail cs) :=
  match cs with
  | '.' :: r => do
    let (run, r₁) ← digits r
    .ok (some run, ⟨r₁.1, Nat.le_of_lt (Nat.lt_succ_of_lt r₁.2)⟩)
  | cs => .ok (none, .all cs)

/-- Take the sign of an exponent: `true` for minus. -/
def exponentSign (cs : List Char) : Bool × Tail cs :=
  match cs with
  | '+' :: r => (false, ⟨r, Nat.le_succ _⟩)
  | '-' :: r => (true, ⟨r, Nat.le_succ _⟩)
  | cs => (false, .all cs)

/-- Take the exponent, if its letter comes next. -/
def exponentPart (cs : List Char) : Except Flaw (Option (Bool × List Char) × Tail cs) :=
  match cs with
  | [] => .ok (none, .all [])
  | c :: r =>
    if c = 'e' || c = 'E' then do
      let (minus, r₁) := exponentSign r
      let (run, r₂) ← digits r₁.1
      .ok (some (minus, run),
        ⟨r₂.1, Nat.le_succ_of_le (Nat.le_trans (Nat.le_of_lt r₂.2) r₁.2)⟩)
    else .ok (none, .all (c :: r))

/-- Read a numeral behind its optional minus sign. -/
def ofChars (negative : Bool) (cs : List Char) : Except Flaw (Numeral × Rest cs) := do
  let (whole, r₁) ← wholePart cs
  let (fraction, r₂) ← fractionPart r₁.1
  let (exponent, r₃) ← exponentPart r₂.1
  .ok (⟨negative, whole, fraction, exponent⟩,
    ⟨r₃.1, Nat.lt_of_le_of_lt (Nat.le_trans r₃.2 r₂.2) r₁.2⟩)

/-- The first number that does not fit 64 bits. -/
def wordLimit : Nat := Nat.pow 2 64

/-- Append digits to a significand for as long as it fits 64 bits; the number of digits taken
is returned with it. -/
def absorb (significand : Nat) : List Char → Nat × Nat
  | [] => (significand, 0)
  | c :: cs =>
    let next := significand * 10 + (c.toNat - '0'.toNat)
    if next < wordLimit then
      let (s, taken) := absorb next cs
      (s, taken + 1)
    else (significand, 0)

/-- The number that decimal digits stand for. -/
def value (run : List Char) : Nat :=
  run.foldl (fun n c => n * 10 + (c.toNat - '0'.toNat)) 0

/-- The integer that a numeral stands for, if it stands for one. -/
def integer? (n : Numeral) : Option Int :=
  if n.fraction.isSome || n.exponent.isSome then none
  else if n.negative then
    if 0 < value n.whole && value n.whole ≤ Nat.pow 2 63 then some (-(value n.whole : Int))
    else none
  else if value n.whole < wordLimit then some (value n.whole) else none

/-- The double that a numeral stands for, if it is in the range of doubles. -/
def double? (n : Numeral) : Option Double :=
  let (s, taken) := absorb 0 n.whole
  let (s, places) := absorb s (n.fraction.getD [])
  let shift : Int := (n.whole.length - taken : Nat) - (places : Int)
  let exponent : Int := match n.exponent with
    | none => 0
    | some (true, run) => -(value run : Int)
    | some (false, run) => value run
  Double.ofDecimal? n.negative s (shift + exponent)

/-- The number that a numeral stands for. -/
def number (n : Numeral) : Except Fault Number :=
  match n.integer? with
  | some i => .ok (.integer i)
  | none =>
    match n.double? with
    | some d => .ok (.double d)
    | none => .error .numberOutOfRange

end Numeral

end ApiProxy.Json
