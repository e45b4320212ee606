import TextCursor.Benchmark.Failure
import TextCursor.Numeral.Expansion

/-!
Contract: mean and deviation of time samples, and the line that reports them.

Owns: the mean as the exact sum, rounded, divided by the number of samples and rounded again;
the deviation as the square root of the exact variance, rounded once; the choice of unit.

Samples are added up in their order before anything is computed, and the sum has to stay in
range all the way.
-/

namespace TextCursor.Benchmark

/-- Adds samples to a running sum, one after another. A sample that is not finite clears it. -/
def accumulate (sum : Expansion) : List Binary64 → Except Failure Expansion
  | [] => .ok sum
  | sample :: later =>
      if sample.isFinite then
        match sum.insert sample.units with
        | some sum => accumulate sum later
        | none => .error .sumTooLarge
      else accumulate [] later

/-- The samples in units, if they can be added up and each of them is finite. -/
def finiteUnits (samples : List Binary64) : Except Failure (List Int) := do
  let _ ← accumulate [] samples
  if samples.any (fun sample => sample.isInfinite && sample.isNegative) &&
      samples.any (fun sample => sample.isInfinite && !sample.isNegative) then
    throw .oppositeInfinities
  if samples.all Binary64.isFinite then return samples.map Binary64.units
  else throw .notFinite

def total (units : List Int) : Int := units.foldl (fun sum unit => sum + unit) 0

def mean (units : List Int) : Binary64 :=
  let total := (Binary64.ofSignedUnits false (total units)).units
  Binary64.ofUnits (total < 0) total.natAbs units.length

/-- The population standard deviation of samples that are given in units.

With `n` samples, sum `s` and sum of squares `q` it is `√(n q - s²) / n`. The root is taken of
sixteen times the square, and its last bit is set if anything is cut off, so that rounding sees
on which side of a tie the exact root lies. -/
def deviation (units : List Int) : Binary64 :=
  let count := units.length
  let squares := total (units.map fun unit => unit * unit)
  let spread := (count * squares - total units * total units).toNat
  let root := integerSqrt (16 * spread / (count * count))
  let exact := root * root * (count * count) = 16 * spread
  Binary64.ofUnits false (if exact then root else root ||| 1) 4

def microsecond : Binary64 := .ofRatio false 1 1000000

def millisecond : Binary64 := .ofRatio false 1 1000

/-- A time in the unit that suits it. -/
def durationText (seconds : Binary64) : String :=
  if seconds.isLess microsecond then (seconds.scaled 1000000000).toHundredths ++ "ns"
  else if seconds.isLess millisecond then (seconds.scaled 1000000).toHundredths ++ "µs"
  else (seconds.scaled 1000).toHundredths ++ "ms"

/-- The first of the least samples. -/
def least (first : Binary64) (later : List Binary64) : Binary64 :=
  later.foldl (fun best sample => if sample.isLess best then sample else best) first

/-- The first of the greatest samples. -/
def greatest (first : Binary64) (later : List Binary64) : Binary64 :=
  later.foldl (fun best sample => if best.isLess sample then sample else best) first

/-- The line that reports the samples taken under a name. -/
def summary (name : String) : List Binary64 → Except Failure String
  | [] => .error .noSamples
  | first :: later => do
      let units ← finiteUnits (first :: later)
      return name ++ ": mean " ++ durationText (mean units) ++ " ± " ++
        durationText (deviation units) ++ " (min " ++ durationText (least first later) ++
        ", max " ++ durationText (greatest first later) ++ ")"

end TextCursor.Benchmark
