/-!
# Encoded labels

A label with characters beyond ASCII can be written in letters, digits and hyphens. Its ASCII
characters come first, with a hyphen behind them if there are any. Behind that stand numbers that
say which character comes next, in ascending order, and at which place: a number counts how often
one goes on through the places of the label, and to the next character after the last place.

The numbers are written to the base 36, the lowest digit first. A digit below a threshold is the
last one of its number, and the thresholds follow a bias that is adapted to the size of the
numbers so far.
-/

namespace ApiProxy.DomainName.Punycode

/-- The value of a digit. -/
def digitValue? (c : Char) : Option Nat :=
  if 'a' ≤ c ∧ c ≤ 'z' then some (c.toNat - 'a'.toNat)
  else if '0' ≤ c ∧ c ≤ '9' then some (c.toNat - '0'.toNat + 26)
  else none

/-- The base of the numbers. -/
def base : Nat := 36

/-- The bias at the beginning. -/
def startBias : Nat := 72

/-- The first character that is not ASCII. -/
def startCode : Nat := 0x80

/-- No number reaches this limit, nor does the weight of a digit. -/
def limit : Nat := 0x100000000

/-- The threshold for a digit at a position that counts in steps of the base. -/
def threshold (position bias : Nat) : Nat :=
  if position ≤ bias then 1 else if bias + 26 ≤ position then 26 else position - bias

/-- Divide a number until it is small: what is left, and how far the positions went on. -/
def reduce (delta position : Nat) : Nat × Nat :=
  if 455 < delta then reduce (delta / 35) (position + base) else (delta, position)
termination_by delta
decreasing_by exact Nat.div_lt_self (by omega) (by omega)

/-- The bias behind a number in a label that has then `count` characters. The first number is
damped, since it is large. -/
def adapt (delta count : Nat) (first : Bool) : Nat :=
  let delta := if first then delta / 700 else delta / 2
  let (delta, position) := reduce (delta + delta / count) 0
  position + base * delta / (delta + 38)

/-- Read a number that is added to `sum`, from the digit at a position on whose weight is `weight`:
the sum and what follows the number. -/
def readNumber? (bias position weight sum : Nat) : List Char → Option (Nat × List Char)
  | [] => none
  | c :: cs => do
    let digit ← digitValue? c
    let sum := sum + digit * weight
    let t := threshold position bias
    if limit ≤ sum then none
    else if digit < t then some (sum, cs)
    else if limit ≤ weight * (base - t) then none
    else readNumber? bias (position + base) (weight * (base - t)) sum cs

/-- Reading a number takes at least one character. -/
theorem length_lt_of_readNumber?_eq_some {bias position weight sum n : Nat}
    {cs rest : List Char} (h : readNumber? bias position weight sum cs = some (n, rest)) :
    rest.length < cs.length := by
  induction cs generalizing position weight sum with
  | nil => simp [readNumber?] at h
  | cons c cs ih =>
    simp only [readNumber?, Option.bind_eq_bind, Option.bind_eq_some_iff] at h
    obtain ⟨digit, _, h⟩ := h
    split at h
    · simp at h
    · split at h
      · obtain ⟨_, rfl⟩ := Prod.mk.inj (Option.some.inj h)
        simp
      · split at h
        · simp at h
        · exact Nat.lt_succ_of_lt (ih h)

/-- Put the characters that numbers stand for into a label. The last one was `code`, and the next
one goes to `place` if it is the same. -/
def insertAll? (bias code place : Nat) (label : List Char) (cs : List Char) :
    Option (List Char) :=
  match cs with
  | [] => some label
  | c :: cs =>
    match _h : readNumber? bias base 1 place (c :: cs) with
    | none => none
    | some (sum, rest) =>
      let count := label.length + 1
      let next := code + sum / count
      if next.isValidChar then
        insertAll? (adapt (sum - place) count (place == 0)) next (sum % count + 1)
          (label.insertIdx (sum % count) (Char.ofNat next)) rest
      else none
termination_by cs.length
decreasing_by exact length_lt_of_readNumber?_eq_some _h

/-- What stands before the last hyphen, and what stands behind it. A hyphen in front is none that
ends anything. -/
def splitAtHyphen (cs : List Char) : List Char × List Char :=
  let behind := (cs.reverse.takeWhile (· != '-')).reverse
  let before := cs.take (cs.length - behind.length - 1)
  if before.isEmpty then ([], cs) else (before, behind)

/-- Read an encoded label in small letters. -/
def decode? (cs : List Char) : Option (List Char) :=
  let (ascii, code) := splitAtHyphen cs
  if ascii.any (startCode ≤ ·.toNat) then none
  else insertAll? startBias startCode 0 ascii code

end ApiProxy.DomainName.Punycode
