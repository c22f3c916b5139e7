import SqlSchema.Number.Reader
import SqlSchema.Number.Shortest
import SqlSchema.Number.Word
import SqlSchema.Text.Case
import SqlSchema.Text.Fragment
import SqlSchema.Text.Utf8

/-! What SQLite stores. A cell holds any class of value; the declared type of its column gives an
affinity, by which numbers and texts are converted when they are stored. -/

namespace SqlSchema.Sqlite

open SqlSchema.Number SqlSchema.Text

/-- A stored value, by storage class. -/
inductive Stored
  | null
  | integer (n : Int64)
  | real (x : Double)
  | text (s : String)
  | blob (data : List UInt8)
  deriving Inhabited, Repr, DecidableEq

/-- What a column prefers to store. -/
inductive Affinity
  | integer
  | text
  | blob
  | real
  | numeric
  deriving Repr, DecidableEq

/-- The affinity of a declared type, by the first of these fragments that occurs in it. -/
def Affinity.ofDeclared (declared : String) : Affinity :=
  let type := lowerAscii declared
  if occurs "int" type then .integer
  else if occurs "char" type || occurs "clob" type || occurs "text" type then .text
  else if occurs "blob" type || type.isEmpty then .blob
  else if occurs "real" type || occurs "floa" type || occurs "doub" type then .real
  else .numeric

/-! ### Numbers as text -/

def realDigits : Nat := 15

def significant (num den : Nat) : Digits :=
  let scale := Binary.decimalScale num den - realDigits
  let scaled : Nat × Nat :=
    if 0 ≤ scale then (num, den * powerOfTen scale.toNat)
    else (num * powerOfTen (-scale).toNat, den)
  ⟨roundQuotient scaled.1 scaled.2, scale⟩

/-- Digits with a point, a zero behind it if there is nothing else. -/
def fixedText (d : Digits) : String :=
  if 0 ≤ d.exponent then d.positional ++ ".0" else d.positional

def exponentText (d : Digits) : String :=
  let power := d.leadingExponent
  let digits := Nat.toDigits 10 d.coefficient
  let fraction := if digits.length = 1 then ['0'] else digits.drop 1
  let exponent := Nat.toDigits 10 power.natAbs
  let exponent := List.replicate (2 - exponent.length) '0' ++ exponent
  String.ofList
    (digits.take 1 ++ '.' :: fraction ++ ['e', if power < 0 then '-' else '+'] ++ exponent)

/-- A real number as text: fifteen significant digits, positional unless the first of them is more
than four places behind the point or more than fourteen before it. -/
def realText (x : Double) : String :=
  match x.shape with
  | .nan => ""
  | .infinite => x.signText ++ "Inf"
  | .finite _ _ =>
    if x.ratio.1 = 0 then "0.0"
    else
      let d := (significant x.ratio.1 x.ratio.2).trimmed
      let power := d.leadingExponent
      x.signText ++ (if power < -4 || 14 < power then exponentText d else fixedText d)

/-- The integer that a finite real number is, strictly within the bounds of 64 bits. -/
def integerOfReal? (x : Double) : Option Int64 := do
  let magnitude ← x.integral?
  let n : Int := if x.negative then -(magnitude : Int) else magnitude
  let limit : Int := powerOfTwo 63
  if -limit < n ∧ n < limit - 1 then some (.ofInt n) else none

def isAsciiSpace (c : Char) : Bool :=
  c == ' ' || (9 ≤ c.toNat && c.toNat ≤ 13)

def numberOfText? (s : String) : Option Stored :=
  let front := s.toList.dropWhile isAsciiSpace
  let cs := (front.reverse.dropWhile isAsciiSpace).reverse
  let (negative, body) := takeSign cs
  let magnitude := digitsValue 0 body
  let whole? : Option Int64 :=
    if body.isEmpty || !body.all isDigit then none
    else int64? (if negative then -(magnitude : Int) else magnitude)
  match whole? with
  | some n => some (.integer n)
  | none => (digits? body).map fun d => .real (.ofDigits negative d)

def preferInteger : Stored → Stored
  | .real x => (integerOfReal? x).elim (.real x) .integer
  | v => v

def preferReal : Stored → Stored
  | .integer n => .real (.ofInt n.toInt)
  | v => v

def preferText : Stored → Stored
  | .integer n => .text (toString n.toInt)
  | .real x => .text (realText x)
  | v => v

def preferNumber : Stored → Stored
  | .text s => (numberOfText? s).getD (.text s)
  | v => v

def Affinity.store : Affinity → Stored → Stored
  | .integer, v => preferInteger (preferNumber v)
  | .numeric, v => preferInteger (preferNumber v)
  | .real, v => preferReal (preferNumber v)
  | .text, v => preferText v
  | .blob, v => v

end SqlSchema.Sqlite
