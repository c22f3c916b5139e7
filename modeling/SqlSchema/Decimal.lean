import SqlSchema.Number.Reader

/-! Decimal numbers of fixed scale: an integer of at most 96 bits with a point before its last
digits, of which there are at most 28. The scale is kept, so `1.50` and `1.5` differ. A zero has a
sign only where an exponent moved every digit of a negative number away. -/

namespace SqlSchema

open SqlSchema.Number

/-- One past the largest coefficient. -/
def Decimal.coefficientLimit : Nat := powerOfTwo 96

def Decimal.scaleLimit : Nat := 28

/-- A decimal number, `coefficient / 10 ^ scale` with a sign. -/
structure Decimal where
  negative : Bool
  coefficient : Nat
  scale : Nat
  coefficient_lt : coefficient < Decimal.coefficientLimit := by decide
  scale_le : scale ≤ Decimal.scaleLimit := by decide
  deriving Repr, DecidableEq

namespace Decimal

def ofParts? (negative : Bool) (coefficient scale : Nat) : Option Decimal :=
  if h : coefficient < coefficientLimit ∧ scale ≤ scaleLimit then
    some ⟨negative, coefficient, scale, h.1, h.2⟩
  else none

/-- The number with the given parts, if they are within the limits; a zero loses its sign. -/
def of? (negative : Bool) (coefficient scale : Nat) : Option Decimal :=
  ofParts? (negative && coefficient != 0) coefficient scale

def ofInt? (n : Int) : Option Decimal :=
  of? (n < 0) n.natAbs 0

/-- The written form: the digits down to the scale. -/
def text (d : Decimal) : String :=
  (if d.negative then "-" else "") ++ Digits.positional ⟨d.coefficient, -(d.scale : Int)⟩

/-! ### Reading -/

/-- Why a text is no number without an exponent. -/
inductive Fault
  | empty
  | noDigits
  | secondPoint
  | leadingSeparator
  | unknownCharacter
  | tooManyDigits
  | roundedPastLimit
  deriving Repr, DecidableEq

def Fault.message : Fault → String
  | .empty => "Invalid decimal: empty"
  | .noDigits => "Invalid decimal: no digits found"
  | .secondPoint => "Invalid decimal: two decimal points"
  | .leadingSeparator => "Invalid decimal: must start lead with a number"
  | .unknownCharacter => "Invalid decimal: unknown character"
  | .tooManyDigits => "Invalid decimal: overflow from too many digits"
  | .roundedPastLimit => "Invalid decimal: overflow from mantissa after rounding"

def Fault.ofChar (c : Char) : Fault :=
  if c == '.' then .secondPoint
  else if c == '_' then .leadingSeparator
  else .unknownCharacter

/-- A reading under way: the number so far, whether a point and whether a digit has been read,
whether the last character was a digit, and whether the coefficient was long before it. -/
structure Reading where
  negative : Bool
  point : Bool := false
  started : Bool := false
  afterDigit : Bool := false
  long : Bool := false
  coefficient : Nat := 0
  scale : Nat := 0
  coefficient_lt : coefficient < Decimal.coefficientLimit := by decide

namespace Reading

/-- From here on a coefficient is long: with two digits more it may leave 64 bits. -/
def longFrom : Nat := (powerOfTwo 64 - 1) / 10 - 255

/-- The number that has been read; a zero loses its sign. A separator can let digits in past the
largest scale, and the scale then starts again from zero. -/
def finish (r : Reading) : Decimal :=
  { negative := r.negative && r.coefficient != 0
    coefficient := r.coefficient
    scale := r.scale % (scaleLimit + 1)
    coefficient_lt := r.coefficient_lt
    scale_le := Nat.le_of_lt_succ (Nat.mod_lt _ (Nat.succ_pos _)) }

/-- Whether the next character decides the rounding: all places are taken, and it follows the last
digit. Behind a long coefficient a separator is skipped first. -/
def isFull (r : Reading) (next : Char) : Bool :=
  r.point && scaleLimit ≤ r.scale && r.afterDigit && (!r.long || next != '_')

/-- The number rounded up; past the limit one digit is given up. -/
def roundUp (r : Reading) : Except Fault Decimal :=
  if h : r.coefficient + 1 < coefficientLimit then
    .ok { r with coefficient := r.coefficient + 1, coefficient_lt := h }.finish
  else if r.scale = 0 then .error .roundedPastLimit
  else
    have h : (r.coefficient + 5) / 10 < coefficientLimit := by
      have h₁ := r.coefficient_lt
      have h₂ : 5 < coefficientLimit := by decide
      omega
    .ok
      { r with coefficient := (r.coefficient + 5) / 10, scale := r.scale - 1,
               coefficient_lt := h }.finish

/-- The number rounded by the character behind its last digit, a half and more going up; a separator
counts as zero. The rest must be digits and separators. -/
def round (r : Reading) (next : Char) (rest : List Char) : Except Fault Decimal :=
  match (next :: rest).find? fun c => !(isDigit c || c == '_') with
  | some c => .error (.ofChar c)
  | none => if next.toNat - 48 < 5 || next == '_' then .ok r.finish else r.roundUp

def run (r : Reading) : List Char → Except Fault Decimal
  | [] => if r.started then .ok r.finish else .error .noDigits
  | c :: rest =>
    if r.isFull c then r.round c rest
    else if isDigit c then
      let next := 10 * r.coefficient + (c.toNat - 48)
      if h : next < coefficientLimit then
        { r with
          started := true
          afterDigit := true
          long := longFrom ≤ r.coefficient
          coefficient := next
          scale := if r.point then r.scale + 1 else r.scale
          coefficient_lt := h : Reading }.run rest
      else if r.point then r.round c rest
      else .error .tooManyDigits
    else if c == '.' && !r.point then
      { r with point := true, afterDigit := false : Reading }.run rest
    else if c == '_' && r.started then { r with afterDigit := false : Reading }.run rest
    else .error (.ofChar c)

end Reading

/-- A number without an exponent: a sign, digits and at most one point; separators may follow any
digit. -/
def readPlain (cs : List Char) : Except Fault Decimal :=
  if cs.isEmpty then .error .empty
  else
    let (negative, body) := takeSign cs
    { negative := negative : Reading }.run body

/-- A power of ten in a text, a plus sign being allowed. -/
def readPower? (cs : List Char) : Option Nat :=
  let digits := match cs with
    | '+' :: rest => rest
    | cs => cs
  if digits.isEmpty || !digits.all isDigit then none
  else
    let n := digitsValue 0 digits
    if n < UInt32.size then some n else none

/-- The number divided by a power of ten, which is at most the largest scale. Digits past that scale
are rounded away, a half going up. -/
def shiftDown? (d : Decimal) (power : Nat) : Option Decimal :=
  if scaleLimit < power then none
  else
    let scale := min (d.scale + power) scaleLimit
    let unit := powerOfTen (d.scale + power - scale)
    ofParts? d.negative ((2 * d.coefficient + unit) / (2 * unit)) scale

/-- The number times a power of ten. Within the scale the point moves; a larger power, of at most
the largest scale, gives an integer. -/
def shiftUp? (d : Decimal) (power : Nat) : Option Decimal :=
  if power ≤ d.scale then of? d.negative d.coefficient (d.scale - power)
  else if scaleLimit < power then none
  else of? d.negative (d.coefficient * powerOfTen (power - d.scale)) 0

def readScientific? (cs : List Char) : Option Decimal :=
  let isMark := fun c => c == 'e' || c == 'E'
  let mantissa := cs.takeWhile (!isMark ·)
  match cs.dropWhile (!isMark ·) with
  | [] => none
  | _ :: power => do
    let d ← (readPlain mantissa).toOption
    match power with
    | '-' :: power => d.shiftDown? (← readPower? power)
    | power => d.shiftUp? (← readPower? power)

def ofPlainText (s : String) : Except Fault Decimal :=
  readPlain s.toList

def ofText? (s : String) : Option Decimal :=
  match ofPlainText s with
  | .ok d => some d
  | .error _ => readScientific? s.toList

end Decimal

end SqlSchema
