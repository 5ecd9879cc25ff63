/-!
# Runs of code points

Character properties are sets of code points, and such a set is written as a list of runs. A run
goes from its first code point to its last in equal steps, so that blocks in which capitals and
small letters alternate take one run each.
-/

namespace SchemaCompiler.Text

/-- The code points `first`, `first + step`, … up to `last`. -/
structure Run where
  /-- The least code point of the run. -/
  first : Nat
  /-- The greatest code point of the run. -/
  last : Nat
  /-- The distance from one code point of the run to the next. -/
  step : Nat

/-- Whether a code point belongs to a run. -/
def Run.contains (r : Run) (n : Nat) : Bool :=
  r.first ≤ n && n ≤ r.last && (n - r.first) % r.step == 0

/-- Whether a character belongs to one of the runs. -/
def inRuns (runs : List Run) (c : Char) : Bool :=
  runs.any (fun r => r.contains c.toNat)

end SchemaCompiler.Text
