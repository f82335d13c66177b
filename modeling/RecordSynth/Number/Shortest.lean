import RecordSynth.Number.Binary64
/-!
# The fewest digits that read back

The decimal text of a binary number is made of the fewest significant digits that still read back as
that number; of several such decimals it takes the nearest. Digits are sought on grids of ever more
places: if any point of a grid reads back, so does one of the two around the number.
-/

namespace RecordSynth

/-- The decimal `digits · 10 ^ exponent`. -/
structure Decimal where
  digits : Nat
  exponent : Int
deriving DecidableEq, Repr

namespace Binary64

/-- An open or closed range of quotients with the number inside it, over one denominator. -/
structure Interval where
  low : Nat
  mid : Nat
  high : Nat
  denominator : Nat
  /-- Whether the ends belong to the range. -/
  closed : Bool
deriving Repr

/-- The quotients that round to a positive number. -/
def interval (x : Binary64) : Interval :=
  let e := x.exponent - 2
  let scale := Nat.pow 2 e.toNat
  let m := 4 * x.significand
  let below := if x.significand = Nat.pow 2 52 ∧ minExponent < x.exponent then 1 else 2
  { low := (m - below) * scale, mid := m * scale, high := (m + 2) * scale,
    denominator := Nat.pow 2 (-e).toNat, closed := x.significand % 2 = 0 }

/-- Whether the grid point `c` lies in the range, where all ends are given in units of `1 / den`
of the grid. -/
def Interval.holds (i : Interval) (up den c : Nat) : Bool :=
  if i.closed then i.low * up ≤ c * den && c * den ≤ i.high * up
  else i.low * up < c * den && c * den < i.high * up

/-- The point of the grid of multiples of `10 ^ g` that lies in the range and is nearest to the
number, if there is one. -/
def Interval.onGrid? (i : Interval) (g : Int) : Option Nat :=
  let up := Nat.pow 10 (-g).toNat
  let den := i.denominator * Nat.pow 10 g.toNat
  let c := i.mid * up / den
  let r := i.mid * up % den
  match i.holds up den c, i.holds up den (c + 1) with
  | false, false => none
  | true, false => some c
  | false, true => some (c + 1)
  | true, true =>
    if 2 * r < den then some c
    else if 2 * r = den then some (c + c % 2)
    else some (c + 1)

/-- The greatest `k` with `10 ^ k ≤ mid / denominator`, found from a bound above it. -/
def Interval.logTen (i : Interval) : Nat → Int → Int
  | 0, k => k
  | fuel + 1, k =>
    if i.denominator * Nat.pow 10 k.toNat ≤ i.mid * Nat.pow 10 (-k).toNat then k else i.logTen fuel (k - 1)

/-- The first grid with a point in the range, from the grid `g` to the next finer ones. -/
def Interval.search (i : Interval) : Nat → Int → Decimal
  | 0, g => { digits := (i.onGrid? g).getD 0, exponent := g }
  | fuel + 1, g =>
    match i.onGrid? g with
    | some c => { digits := c, exponent := g }
    | none => i.search fuel (g - 1)

/-- Drops the zeros at the end of the digits. -/
def dropZeros : Nat → Decimal → Decimal
  | 0, d => d
  | fuel + 1, d =>
    if d.digits ≠ 0 ∧ d.digits % 10 = 0 then
      dropZeros fuel { digits := d.digits / 10, exponent := d.exponent + 1 }
    else d

/-- The decimal with the fewest digits that reads back as the absolute value of a number. -/
def shortest (x : Binary64) : Decimal :=
  if x.isZero then { digits := 0, exponent := 0 }
  else
    let i := x.interval
    dropZeros 20 (i.search 17 (i.logTen 640 310))

example : (ofDecimal? 1 (-1)).map shortest = some ⟨1, -1⟩ := by decide +kernel
example : (ofDecimal? 5 (-324)).map shortest = some ⟨5, -324⟩ := by decide +kernel
example : (ofDecimal? 17976931348623157 292).map shortest = some ⟨17976931348623157, 292⟩ := by
  decide +kernel

end Binary64

end RecordSynth
