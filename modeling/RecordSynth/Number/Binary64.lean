/-!
# Binary floating point

Finite numbers of the binary format with 53 digits and exponents from -1074 to 971, as exact pairs
of natural and integer. Rounding takes an exact quotient to the nearest of them, a tie to the one
with the even significand; the operations are exact ones followed by rounding.
-/

namespace RecordSynth

/-- The number `±significand · 2 ^ exponent`. -/
structure Binary64 where
  negative : Bool := false
  significand : Nat
  exponent : Int
deriving DecidableEq, Repr

namespace Binary64

/-- The number of binary digits of a significand. -/
def digits : Nat := 53

/-- The exponent of the least positive number. -/
def minExponent : Int := -1074

/-- The exponent of the greatest number. -/
def maxExponent : Int := 971

/-- Zero. -/
def zero : Binary64 := { significand := 0, exponent := minExponent }

/-- The number with the given sign. -/
def withSign (x : Binary64) (negative : Bool) : Binary64 := { x with negative }

/-- Whether the number is zero, of either sign. -/
def isZero (x : Binary64) : Bool := x.significand == 0

/-- The numerator of the absolute value as a quotient. -/
def numerator (x : Binary64) : Nat := x.significand * Nat.pow 2 x.exponent.toNat

/-- The denominator of the absolute value as a quotient. -/
def denominator (x : Binary64) : Nat := Nat.pow 2 (-x.exponent).toNat

/-- The quotient rounded to an integer, a half to the even one. -/
def roundDiv (num den : Nat) : Nat :=
  let q := num / den
  let r := num % den
  if 2 * r < den then q
  else if 2 * r = den then q + q % 2
  else q + 1

/-- The greatest `d` with `2 ^ d ≤ num / den`, for positive numbers. -/
def logQuotient (num den : Nat) : Int :=
  let d : Int := (Nat.log2 num : Int) - Nat.log2 den
  if den * Nat.pow 2 d.toNat ≤ num * Nat.pow 2 (-d).toNat then d else d - 1

/-- The number nearest to `num / den`, or none if it would exceed the greatest one. -/
def ofQuotient? (num den : Nat) : Option Binary64 :=
  if num = 0 then some zero
  else
    let e := max (logQuotient num den - 52) minExponent
    let m := roundDiv (num * Nat.pow 2 (-e).toNat) (den * Nat.pow 2 e.toNat)
    let x : Binary64 :=
      if m = Nat.pow 2 53 then { significand := Nat.pow 2 52, exponent := e + 1 }
      else { significand := m, exponent := e }
    if x.exponent ≤ maxExponent then some x else none

/-- The number nearest to a natural number. -/
def ofNat? (n : Nat) : Option Binary64 := ofQuotient? n 1

/-- The product, rounded. -/
def mul? (x y : Binary64) : Option Binary64 :=
  (ofQuotient? (x.numerator * y.numerator) (x.denominator * y.denominator)).map
    (·.withSign (x.negative != y.negative))

/-- The quotient by a number other than zero, rounded. -/
def div? (x y : Binary64) : Option Binary64 :=
  (ofQuotient? (x.numerator * y.denominator) (x.denominator * y.numerator)).map
    (·.withSign (x.negative != y.negative))

/-- The number nearest to `n · 10 ^ e`, or none if it would exceed the greatest one. Exponents
beyond those of the format are decided by the number of decimal digits of `n`. -/
def ofDecimal? (n : Nat) (e : Int) : Option Binary64 :=
  let size : Int := (Nat.toDigits 10 n).length
  if n = 0 then some zero
  else if e + size > 310 then none
  else if e + size < -330 then some zero
  else ofQuotient? (n * Nat.pow 10 e.toNat) (Nat.pow 10 (-e).toNat)

example : ofDecimal? 1 (-1) = some ⟨false, 7205759403792794, -56⟩ := by decide +kernel
example : ofDecimal? 1 309 = none := by decide +kernel
example : ofDecimal? 5 (-324) = some ⟨false, 1, -1074⟩ := by decide +kernel

end Binary64

end RecordSynth
