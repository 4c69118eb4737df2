import ApiProxy.Json.Double

/-!
# The shortest digits of a double

The text of a double has the fewest significant digits among the decimals that round to it,
and of several with that many digits the one nearest to it; an exact tie goes to the even
digit. The decimals that round to a double form an interval around it, whose ends belong to
it if and only if the mantissa is even. On each decimal grid only the two neighbours of the
value have to be looked at.

A decimal with seventeen digits always reads back, so the search stops there.
-/

namespace ApiProxy.Json

namespace Double

/-- A decimal `digits * 10 ^ exponent`. -/
structure Decimal where
  digits : Nat
  exponent : Int
deriving DecidableEq, Repr

/-- The position of the leading decimal digit of a positive quotient: `0` for the units. -/
def leadingPosition (num den : Nat) : Int :=
  if den ≤ num then (Nat.toDigits 10 (num / den)).length - 1
  else -((Nat.toDigits 10 ((den + num - 1) / num - 1)).length : Int)

/-- Four times the lower end, the value and the upper end of the interval of numbers that
round to a double, over a common denominator. -/
structure Interval where
  lower : Nat
  value : Nat
  upper : Nat
  denominator : Nat
  closed : Bool
deriving Repr

/-- The interval of the numbers that round to the size of a double. Below a power of two the
neighbour is only half as far. -/
def interval (d : Double) : Interval :=
  let scale := Nat.pow 2 d.exponent.toNat
  let below := if d.mantissa = Nat.pow 2 52 ∧ minExponent < d.exponent then 1 else 2
  { lower := (4 * d.mantissa - below) * scale
    value := 4 * d.mantissa * scale
    upper := (4 * d.mantissa + 2) * scale
    denominator := 4 * d.denominator
    closed := d.mantissa % 2 == 0 }

/-- Whether a decimal lies in an interval. -/
def Interval.contains (i : Interval) (n : Decimal) : Bool :=
  let x := n.digits * Nat.pow 10 n.exponent.toNat * i.denominator
  let unit := Nat.pow 10 (-n.exponent).toNat
  if i.closed then i.lower * unit ≤ x && x ≤ i.upper * unit
  else i.lower * unit < x && x < i.upper * unit

/-- The decimal of the given number of digits that reads back as the value, if there is one:
of the two neighbours of the value on that grid, the nearer that lies in the interval. -/
def Interval.onGrid? (i : Interval) (count : Nat) : Option Decimal :=
  let e := leadingPosition i.value i.denominator - (count - 1 : Nat)
  let num := i.value * Nat.pow 10 (-e).toNat
  let den := i.denominator * Nat.pow 10 e.toNat
  let q := num / den
  let twice := 2 * (num % den)
  let below : Decimal := ⟨q, e⟩
  let above : Decimal := ⟨q + 1, e⟩
  let belowIsNearer := twice < den || (twice == den && q % 2 == 0)
  let (near, far) := if belowIsNearer then (below, above) else (above, below)
  if i.contains near then some near else if i.contains far then some far else none

/-- Drop the zeros at the end of the digits. -/
def Decimal.trim (n : Decimal) : Decimal :=
  let zeros := ((Nat.toDigits 10 n.digits).reverse.takeWhile (· == '0')).length
  ⟨n.digits / Nat.pow 10 zeros, n.exponent + zeros⟩

/-- The shortest decimal that reads back as the size of a double. -/
def shortest (d : Double) : Decimal :=
  let i := d.interval
  (((List.range 17).findSome? fun k => i.onGrid? (k + 1)).getD
    ⟨i.value / i.denominator, 0⟩).trim

/-- The decisions about the text of a double. -/
structure Layout where
  /-- The smallest position of the leading digit that is written positionally. -/
  least : Int
  /-- The largest position of the leading digit that is written positionally. -/
  greatest : Int

/-- A double is written positionally from `1e-5` up to below `1e16`, with at least one digit
behind the point; outside of that with an exponent that always has a sign. -/
def layout : Layout := ⟨-5, 15⟩

/-- The digits with a point behind the first `whole` of them. -/
private def withPoint (digits : List Char) (whole : Nat) : List Char :=
  let padded := digits ++ List.replicate (whole - digits.length) '0'
  let fraction := padded.drop whole
  padded.take whole ++ '.' :: (if fraction.isEmpty then ['0'] else fraction)

/-- The text of a decimal under the given layout. -/
def Decimal.text (n : Decimal) (layout : Layout) : List Char :=
  let digits := Nat.toDigits 10 n.digits
  let position := n.exponent + digits.length - 1
  if layout.least ≤ position ∧ position ≤ layout.greatest then
    if 0 ≤ position then withPoint digits (position.toNat + 1)
    else '0' :: '.' :: (List.replicate (-position - 1).toNat '0' ++ digits)
  else
    let mantissa := match digits with
      | [] => []
      | [d] => [d]
      | d :: ds => d :: '.' :: ds
    mantissa ++ 'e' :: (if position < 0 then '-' else '+') ::
      Nat.toDigits 10 position.natAbs

/-- The text of a double. -/
def chars (d : Double) : List Char :=
  let size := if d.mantissa = 0 then ['0', '.', '0'] else d.shortest.text layout
  if d.negative then '-' :: size else size

end Double

end ApiProxy.Json
