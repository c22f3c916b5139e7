import SqlSchema.Number.Binary

/-! The shortest decimal form of a binary number: the fewest digits that round back to it, and of
those the digits nearest to its exact value. -/

namespace SqlSchema.Number

namespace Binary

variable {f : BinaryFormat}

/-- The power of ten just above a positive fraction: `10 ^ (k - 1) ≤ num / den < 10 ^ k`. -/
def decimalScale (num den : Nat) : Int :=
  let k : Int := (digitCount num : Int) - digitCount den
  let atLeast := if 0 ≤ k then den * powerOfTen k.toNat ≤ num else den ≤ num * powerOfTen (-k).toNat
  if atLeast then k + 1 else k

/-- Whether decimal digits round to the magnitude of the number. -/
def readsBack (x : Binary f) (d : Digits) : Bool :=
  f.round d.ratio.1 d.ratio.2 == x.word

/-- The points just below and just above a fraction on the grid of multiples of `10 ^ exponent`,
the nearer one first, and of two equally near ones the even one. -/
def neighbours (num den : Nat) (exponent : Int) : Digits × Digits :=
  let scaled :=
    if 0 ≤ exponent then (num, den * powerOfTen exponent.toNat)
    else (num * powerOfTen (-exponent).toNat, den)
  let below := scaled.1 / scaled.2
  let rest := scaled.1 % scaled.2
  let low : Digits := ⟨below, exponent⟩
  let high : Digits := ⟨below + 1, exponent⟩
  if 2 * rest < scaled.2 || (2 * rest == scaled.2 && below % 2 == 0) then (low, high)
  else (high, low)

/-- The first grid, from the one of `count` digits on, that holds a point rounding back to the
number; `fuel` bounds the number of grids tried. -/
def shortestFrom (x : Binary f) (scale : Int) : (fuel count : Nat) → Digits
  | 0, count => (neighbours x.ratio.1 x.ratio.2 (scale - count)).1
  | fuel + 1, count =>
    let pair := neighbours x.ratio.1 x.ratio.2 (scale - count)
    if x.readsBack pair.1 then pair.1
    else if x.readsBack pair.2 then pair.2
    else shortestFrom x scale fuel (count + 1)

/-- The fewest digits that read back, for a finite number; zero has the digit zero. As many digits
as the significand has bits are always enough. -/
def shortest (x : Binary f) : Digits :=
  if x.ratio.1 = 0 then ⟨0, 0⟩
  else (shortestFrom x (decimalScale x.ratio.1 x.ratio.2) f.precision 1).trimmed

def signText (x : Binary f) : String :=
  if x.negative then "-" else ""

/-- The positional text of a number, which never has an exponent: `1`, `-0`, `0.25`, `NaN`,
`-inf`. -/
def positional (x : Binary f) : String :=
  match x.shape with
  | .nan => "NaN"
  | .infinite => x.signText ++ "inf"
  | .finite _ _ => x.signText ++ x.shortest.positional

end Binary

/-- Which powers of ten are written positionally: those of the first digit from `least` to
`greatest`. -/
structure PlainRange where
  least : Int
  greatest : Int
  deriving Repr, DecidableEq

/-- A finite number with a point: positional within the range, `.0` marking an integral one, and
scientific outside it. -/
def Binary.pointed {f : BinaryFormat} (range : PlainRange) (x : Binary f) : String :=
  let d := x.shortest
  let power := d.leadingExponent
  let body :=
    if d.coefficient = 0 then "0.0"
    else if range.least ≤ power && power ≤ range.greatest then
      if 0 ≤ d.exponent then d.positional ++ ".0" else d.positional
    else d.scientific
  x.signText ++ body

end SqlSchema.Number
