import SqlSchema.Number.Digits

/-! Binary floating-point numbers, held by sign and magnitude word. Words of one sign are ordered
as the numbers they stand for, so the word after the largest finite one is infinity, and rounding
is the choice of the nearest word. -/

namespace SqlSchema.Number

/-- A binary interchange format: the bits of a significand, the leading one included, and the
bias of the exponent. -/
structure BinaryFormat where
  precision : Nat
  bias : Nat
  deriving Repr, DecidableEq

def binary64 : BinaryFormat := ⟨53, 1023⟩

def binary32 : BinaryFormat := ⟨24, 127⟩

namespace BinaryFormat

variable (f : BinaryFormat)

/-- The exponent of the last place of the smallest numbers. -/
def minExponent : Int :=
  2 - (f.bias : Int) - f.precision

/-- How many words share one exponent. -/
def binade : Nat :=
  powerOfTwo (f.precision - 1)

def infinity : Nat :=
  (2 * f.bias + 1) * f.binade

def quietNan : Nat :=
  f.infinity + f.binade / 2

/-- One past the last word. -/
def wordLimit : Nat :=
  (2 * f.bias + 2) * f.binade

theorem binade_pos : 0 < f.binade :=
  powerOfTwo_pos _

theorem wordLimit_eq : f.wordLimit = f.infinity + f.binade := by
  simp [wordLimit, infinity, Nat.add_mul]
  omega

theorem infinity_lt_wordLimit : f.infinity < f.wordLimit := by
  have := f.binade_pos
  rw [wordLimit_eq]
  omega

theorem quietNan_lt_wordLimit : f.quietNan < f.wordLimit := by
  have := f.binade_pos
  rw [wordLimit_eq, quietNan]
  omega

theorem wordLimit_pos : 0 < f.wordLimit :=
  Nat.lt_of_le_of_lt (Nat.zero_le _) f.infinity_lt_wordLimit

end BinaryFormat

/-- The quotient rounded to the nearest natural number, a half going to the even neighbour. -/
def roundQuotient (num den : Nat) : Nat :=
  let q := num / den
  let r := num % den
  if 2 * r < den then q else if den < 2 * r then q + 1 else q + q % 2

/-- The fraction `num / den` divided by a power of two, again as a fraction. -/
def scaleDown (num den : Nat) (exponent : Int) : Nat × Nat :=
  if 0 ≤ exponent then (num, den * powerOfTwo exponent.toNat)
  else (num * powerOfTwo (-exponent).toNat, den)

/-- The word nearest to a fraction, ties to even; a fraction past the largest finite number by half
a place or more gives infinity. -/
def BinaryFormat.round (f : BinaryFormat) (num den : Nat) : Nat :=
  if num = 0 then 0
  else
    let guess : Int := (num.log2 : Int) - den.log2 - f.precision
    let near := scaleDown num den guess
    let fitted := if near.2 * powerOfTwo f.precision ≤ near.1 then guess + 1 else guess
    let exponent := max fitted f.minExponent
    let scaled := scaleDown num den exponent
    min ((exponent - f.minExponent).toNat * f.binade + roundQuotient scaled.1 scaled.2) f.infinity

theorem BinaryFormat.round_lt_wordLimit (f : BinaryFormat) (num den : Nat) :
    f.round num den < f.wordLimit := by
  unfold BinaryFormat.round
  split
  · exact f.wordLimit_pos
  · exact Nat.lt_of_le_of_lt (Nat.min_le_right _ _) f.infinity_lt_wordLimit

structure Binary (f : BinaryFormat) where
  negative : Bool
  word : Nat
  word_lt : word < f.wordLimit
  deriving Repr, DecidableEq

abbrev Double := Binary binary64

abbrev Single := Binary binary32

/-- What a magnitude word stands for; a finite number is `mantissa * 2 ^ exponent`. -/
inductive Shape
  | nan
  | infinite
  | finite (mantissa : Nat) (exponent : Int)
  deriving Repr, DecidableEq

namespace Binary

variable {f : BinaryFormat}

/-- What the number stands for, its sign aside. -/
def shape (x : Binary f) : Shape :=
  if f.infinity < x.word then .nan
  else if x.word = f.infinity then .infinite
  else if x.word < f.binade then .finite x.word f.minExponent
  else .finite (f.binade + x.word % f.binade) (f.minExponent + (x.word / f.binade - 1 : Nat))

def isFinite (x : Binary f) : Bool :=
  x.word < f.infinity

def zero (negative : Bool) : Binary f :=
  ⟨negative, 0, f.wordLimit_pos⟩

def infinite (negative : Bool) : Binary f :=
  ⟨negative, f.infinity, f.infinity_lt_wordLimit⟩

def nan : Binary f :=
  ⟨false, f.quietNan, f.quietNan_lt_wordLimit⟩

def ofRatio (negative : Bool) (num den : Nat) : Binary f :=
  ⟨negative, f.round num den, f.round_lt_wordLimit num den⟩

def ofInt (n : Int) : Binary f :=
  ofRatio (n < 0) n.natAbs 1

/-- The number whose sign and word are the given bits, high ones being dropped. -/
def ofBits (bits : Nat) : Binary f :=
  ⟨bits / f.wordLimit % 2 == 1, bits % f.wordLimit, Nat.mod_lt _ f.wordLimit_pos⟩

/-- A finite magnitude as a fraction of naturals; zero for the others. -/
def ratio (x : Binary f) : Nat × Nat :=
  match x.shape with
  | .finite m e => if 0 ≤ e then (m * powerOfTwo e.toNat, 1) else (m, powerOfTwo (-e).toNat)
  | _ => (0, 1)

/-- The nearest number of another format, of the same sign. -/
def convert {g : BinaryFormat} (x : Binary f) : Binary g :=
  match x.shape with
  | .nan => ⟨x.negative, g.quietNan, g.quietNan_lt_wordLimit⟩
  | .infinite => infinite x.negative
  | .finite _ _ => ofRatio x.negative x.ratio.1 x.ratio.2

/-- The number nearest to a decimal one. Past the powers of ten that bound the format the result is
infinite or zero without the power being computed. -/
def ofDigits (negative : Bool) (d : Digits) : Binary f :=
  if d.coefficient = 0 then zero negative
  else if (f.bias : Int) + 1 < d.leadingExponent then infinite negative
  else if d.leadingExponent < -((f.bias : Int) + f.precision) then zero negative
  else ofRatio negative d.ratio.1 d.ratio.2

def integral? (x : Binary f) : Option Nat :=
  match x.shape with
  | .finite _ _ => if x.ratio.1 % x.ratio.2 = 0 then some (x.ratio.1 / x.ratio.2) else none
  | _ => none

end Binary

end SqlSchema.Number
