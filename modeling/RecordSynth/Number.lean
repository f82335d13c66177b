import RecordSynth.Number.Shortest
import RecordSynth.Text.Split
/-!
# Numbers of documents

A number in a document is an integer of 64 bits, with or without a sign, or a binary floating-point
number. Its text, which a property takes for its value, writes an integer in full and a
floating-point number with the fewest digits.
-/

namespace RecordSynth

/-- A number as a document holds it. -/
inductive Number where
  | integer (value : Int)
  | binary (value : Binary64)
deriving DecidableEq, Repr

namespace Number

/-- How a decimal is laid out. -/
structure Layout where
  /-- The least power of ten of the first digit that is written positionally. -/
  leastPositional : Int
  /-- The least power of ten of the first digit that is again written with an exponent. -/
  firstExponential : Int
  /-- The mark in front of the exponent. -/
  mark : String
  /-- The sign of an exponent that is not negative. -/
  plus : String

/-- Numbers from `0.00001` up to below `10 ^ 16` are written positionally, with at least one digit
on each side of the point, all others with one digit in front of the point and a signed exponent. -/
def layout : Layout := { leastPositional := -5, firstExponential := 16, mark := "e", plus := "+" }

/-- `n` zeros. -/
def zeros (n : Nat) : String := String.ofList (List.replicate n '0')

/-- A decimal laid out. -/
def Layout.write (l : Layout) (d : Decimal) : String :=
  let ds := Nat.toDigits 10 d.digits
  let first : Int := d.exponent + ds.length - 1
  if l.leastPositional ≤ first ∧ first < l.firstExponential then
    if 0 ≤ d.exponent then String.ofList ds ++ zeros d.exponent.toNat ++ ".0"
    else if 0 ≤ first then
      let whole := (first + 1).toNat
      String.ofList (ds.take whole) ++ "." ++ String.ofList (ds.drop whole)
    else "0." ++ zeros (-first - 1).toNat ++ String.ofList ds
  else
    let sign := if first < 0 then "-" else l.plus
    let point := if ds.length = 1 then "" else "."
    String.ofList (ds.take 1) ++ point ++ String.ofList (ds.drop 1) ++ l.mark ++ sign ++
      toString first.natAbs

/-- The text of a floating-point number. -/
def binaryText (x : Binary64) : String :=
  let sign := if x.negative then "-" else ""
  if x.isZero then sign ++ "0.0" else sign ++ layout.write x.shortest

/-- The text of a number. -/
def text : Number → String
  | .integer n => toString n
  | .binary x => binaryText x

/-- Whether an integer fits 64 bits, with or without a sign. -/
def fitsWord (n : Int) : Bool := -(Int.pow 2 63) ≤ n && n < Int.pow 2 64

end Number

end RecordSynth
