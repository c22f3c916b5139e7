import SqlSchema.Number.Power

/-! Decimal digits: a natural number of them with a power of ten, and the positional text of such a
number. -/

namespace SqlSchema.Number

/-- The number `coefficient * 10 ^ exponent`. -/
structure Digits where
  coefficient : Nat
  exponent : Int
  deriving Repr, DecidableEq

/-- How many decimal digits a number is written with; zero has one. -/
def digitCount (n : Nat) : Nat :=
  (Nat.toDigits 10 n).length

/-- The same number with no zero at the end of its coefficient. -/
def Digits.trimmed (d : Digits) : Digits :=
  if 0 < d.coefficient ∧ d.coefficient % 10 = 0 then
    Digits.trimmed ⟨d.coefficient / 10, d.exponent + 1⟩
  else d
termination_by d.coefficient
decreasing_by omega

def Digits.ratio (d : Digits) : Nat × Nat :=
  if 0 ≤ d.exponent then (d.coefficient * powerOfTen d.exponent.toNat, 1)
  else (d.coefficient, powerOfTen (-d.exponent).toNat)

/-- A digit list with a point before its last `places` digits, zeros being put in front so that at
least one digit stands before the point. -/
def withPoint (digits : List Char) (places : Nat) : List Char :=
  if places = 0 then digits
  else
    let padded := List.replicate (places + 1 - digits.length) '0' ++ digits
    padded.take (padded.length - places) ++ '.' :: padded.drop (padded.length - places)

/-- The positional text: every digit down to the last one of the coefficient, no exponent. -/
def Digits.positional (d : Digits) : String :=
  let digits := Nat.toDigits 10 d.coefficient
  if 0 ≤ d.exponent then
    if d.coefficient = 0 then "0"
    else String.ofList (digits ++ List.replicate d.exponent.toNat '0')
  else String.ofList (withPoint digits (-d.exponent).toNat)

/-- The exponent of the first digit: the number lies between this power of ten and the next. -/
def Digits.leadingExponent (d : Digits) : Int :=
  (digitCount d.coefficient : Int) - 1 + d.exponent

/-- The scientific text: one digit before the point, the rest behind it, and a signed exponent. -/
def Digits.scientific (d : Digits) : String :=
  let digits := Nat.toDigits 10 d.coefficient
  let mantissa := match digits with
    | first :: second :: rest => first :: '.' :: second :: rest
    | short => short
  let power := d.leadingExponent
  let sign := if power < 0 then '-' else '+'
  String.ofList (mantissa ++ 'e' :: sign :: Nat.toDigits 10 power.natAbs)

end SqlSchema.Number
