/-! Ranges of code points, as the tables of character properties list them. -/

namespace SqlSchema.Text

/-- Whether some range holds the number, ends included. -/
def inRanges (ranges : List (Nat × Nat)) (n : Nat) : Bool :=
  ranges.any fun r => r.1 ≤ n && n ≤ r.2

/-- A run of code points `first, first + step, …, last` whose images all lie at the same
distance. -/
structure ShiftRun where
  first : Nat
  last : Nat
  step : Nat
  shift : Int
  deriving Repr, DecidableEq

def ShiftRun.holds (r : ShiftRun) (n : Nat) : Bool :=
  r.first ≤ n && n ≤ r.last && (n - r.first) % r.step == 0

/-- The image of a code point under the first run that holds it. -/
def shifted? (runs : List ShiftRun) (n : Nat) : Option Nat :=
  (runs.find? (·.holds n)).map fun r => ((n : Int) + r.shift).toNat

end SqlSchema.Text
