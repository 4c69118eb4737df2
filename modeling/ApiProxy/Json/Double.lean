/-!
# Double-precision numbers

A finite double is a sign, a mantissa and a binary exponent: its size is
`mantissa * 2 ^ exponent`. All arithmetic is exact on natural numbers and rounds once at the
end, to the nearest double and of two nearest ones to the even mantissa.

A decimal numeral is read in three steps: its leading digits become a 64-bit significand,
the significand is rounded to a double, and that double is multiplied or divided by a power of
ten which is itself a rounded double. Each step rounds, so the result can differ in its last
bit from the double that is nearest to the numeral.
-/

namespace ApiProxy.Json

/-- A finite double-precision number of size `mantissa * 2 ^ exponent`. -/
structure Double where
  negative : Bool
  mantissa : Nat
  exponent : Int
deriving DecidableEq, Repr, Inhabited

namespace Double

/-- The smallest exponent of a double. -/
def minExponent : Int := -1074

/-- The largest exponent of a double. -/
def maxExponent : Int := 971

/-- Zero, with a sign. -/
def zero (negative : Bool) : Double := ⟨negative, 0, minExponent⟩

/-- The numerator of the size of a double. -/
def numerator (d : Double) : Nat := d.mantissa * Nat.pow 2 d.exponent.toNat

/-- The denominator of the size of a double: a power of two. -/
def denominator (d : Double) : Nat := Nat.pow 2 (-d.exponent).toNat

/-- The whole number nearest to a quotient; a half goes to the even neighbour. -/
def roundHalfEven (num den : Nat) : Nat :=
  let q := num / den
  let twice := 2 * (num % den)
  if twice < den then q else if den < twice then q + 1 else q + q % 2

/-- The exponent at which the mantissa of a quotient takes 53 bits, but not below the
smallest exponent. -/
def exponentFor (num den : Nat) : Int :=
  let guess : Int := (num.log2 : Int) - den.log2 - 52
  let fits := den * Nat.pow 2 (guess + 52).toNat ≤ num * Nat.pow 2 (-(guess + 52)).toNat
  max (if fits then guess else guess - 1) minExponent

/-- The double nearest to a quotient, or nothing if it is too large for a double. -/
def ofRatio? (negative : Bool) (num den : Nat) : Option Double :=
  if num = 0 then some (zero negative)
  else
    let e := exponentFor num den
    let m := roundHalfEven (num * Nat.pow 2 (-e).toNat) (den * Nat.pow 2 e.toNat)
    let (m, e) := if m = Nat.pow 2 53 then (Nat.pow 2 52, e + 1) else (m, e)
    if maxExponent < e then none
    else if m = 0 then some (zero negative) else some ⟨negative, m, e⟩

/-- The product of two doubles, with the sign of the first. -/
def mul? (a b : Double) : Option Double :=
  ofRatio? a.negative (a.numerator * b.numerator) (a.denominator * b.denominator)

/-- The quotient of two doubles, with the sign of the first. -/
def div? (a b : Double) : Option Double :=
  ofRatio? a.negative (a.numerator * b.denominator) (a.denominator * b.numerator)

/-- The double nearest to a power of ten. -/
def powerOfTen? (k : Nat) : Option Double :=
  ofRatio? false (Nat.pow 10 k) 1

/-- The largest power of ten that is a double. -/
def maxPowerOfTen : Nat := 308

/-- Divide by a power of ten that is a double. -/
def divPowerOfTen? (d : Double) (k : Nat) : Option Double :=
  (powerOfTen? k).bind d.div?

/-- Divide by a power of ten, in steps of the largest power that is a double. -/
def scaleDown? (d : Double) (k : Nat) : Option Double :=
  if k ≤ maxPowerOfTen then d.divPowerOfTen? k
  else if d.mantissa = 0 then some d
  else (d.divPowerOfTen? maxPowerOfTen).bind (scaleDown? · (k - maxPowerOfTen))
termination_by k
decreasing_by
  have : 0 < maxPowerOfTen := by decide
  omega

/-- Multiply by a power of ten. -/
def scaleUp? (d : Double) (k : Nat) : Option Double :=
  if k ≤ maxPowerOfTen then (powerOfTen? k).bind d.mul?
  else if d.mantissa = 0 then some d
  else none

/-- The double that a significand times a power of ten is read as, or nothing if it is too
large. -/
def ofDecimal? (negative : Bool) (significand : Nat) (exponent : Int) : Option Double := do
  let d ← ofRatio? negative significand 1
  if 0 ≤ exponent then d.scaleUp? exponent.toNat else d.scaleDown? (-exponent).toNat

end Double

end ApiProxy.Json
