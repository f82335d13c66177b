/-!
# Sets and maps of code points

A set of characters given as runs of code points, and a map that shifts each run. Alphabets put
small and capital letters in turn, so a run may step by two.
-/

namespace RecordSynth.Text

/-- Every `step`-th code point from `first` to `last`. -/
structure CodeRun where
  first : Nat
  last : Nat
  step : Nat
deriving DecidableEq, Repr

/-- Whether the code point `n` is one of the run. -/
def CodeRun.contains (r : CodeRun) (n : Nat) : Bool :=
  r.first ≤ n && n ≤ r.last && (n - r.first) % r.step == 0

/-- Whether the character is in one of the runs. -/
def inRuns (runs : List CodeRun) (c : Char) : Bool := runs.any (·.contains c.toNat)

/-- A run of code points that moves as a whole, `run.first` to `target`. -/
structure CodeShift where
  run : CodeRun
  target : Nat
deriving DecidableEq, Repr

/-- The image of a character: a text of its own, else the shift of its run, else itself. -/
def shiftChar (shifts : List CodeShift) (texts : List (Nat × List Nat)) (c : Char) : List Char :=
  match texts.lookup c.toNat with
  | some codes => codes.map Char.ofNat
  | none =>
    match shifts.find? (·.run.contains c.toNat) with
    | some s => [Char.ofNat (s.target + (c.toNat - s.run.first))]
    | none => [c]

end RecordSynth.Text
