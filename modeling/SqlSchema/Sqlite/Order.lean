import SqlSchema.Sqlite.Command
import SqlSchema.Sqlite.Token
import SqlSchema.Text.Utf8

/-! The order of values, and what a value is as a text, as a number and as a condition. Null is
unknown: a condition holds only if its value is a number other than zero. -/

namespace SqlSchema.Sqlite

open SqlSchema.Number SqlSchema.Text

def ofBool (b : Bool) : Stored :=
  .integer (if b then 1 else 0)

def ofTruth (truth : Option Bool) : Stored :=
  (truth.map ofBool).getD .null

/-- The text of a value, of a blob the text that its bytes encode. -/
def asText : Stored → String
  | .null => ""
  | .integer n => toString n.toInt
  | .real x => realText x
  | .text s => s
  | .blob data => (utf8Decode data).toOption.getD ""

/-- The characters of the number that a text begins with, the sign among them. -/
def numberInFront (s : String) : String :=
  let cs := s.toList.dropWhile isAsciiSpace
  let (_, body) := takeSign cs
  let (whole, fraction, exponent) := numberParts isDigit body
  String.ofList (cs.take (cs.length - body.length + whole + fraction + exponent))

/-- The number that a text begins with, zero if there is none. -/
def leadingNumber (s : String) : Stored :=
  (numberOfText? (numberInFront s)).getD (.integer 0)

def asNumber : Stored → Stored
  | .text s => leadingNumber s
  | .blob data => leadingNumber (asText (.blob data))
  | v => v

/-- A number as a fraction. An infinite one counts as more than every finite one. -/
def fractionOf : Stored → Int × Nat
  | .integer n => (n.toInt, 1)
  | .real x =>
    let magnitude : Nat × Nat := if x.isFinite then x.ratio else (powerOfTwo 1024, 1)
    (if x.negative then -(magnitude.1 : Int) else magnitude.1, magnitude.2)
  | _ => (0, 1)

/-- Whether a value is true: unknown for a null, and otherwise whether it is a number other than
zero. -/
def truth : Stored → Option Bool
  | .null => none
  | v => some ((fractionOf (asNumber v)).1 != 0)

/-- The place of a storage class in the order of values. -/
def classRank : Stored → Nat
  | .null => 0
  | .integer _ | .real _ => 1
  | .text _ => 2
  | .blob _ => 3

def compareFractions (a b : Int × Nat) : Ordering :=
  compare (a.1 * b.2) (b.1 * a.2)

/-- A text as a collation sees it. -/
def Collation.view (collation : Collation) (s : String) : String :=
  match collation with
  | .binary => s
  | .noCase => lowerAscii s
  | .rightTrimmed => String.ofList (s.toList.reverse.dropWhile (· == ' ')).reverse

/-- The order of values: nulls, numbers, texts by code points under a collation, blobs by bytes. -/
def compareUnder (collation : Collation) (a b : Stored) : Ordering :=
  match a, b with
  | .text s, .text t => compareOfLessAndEq (collation.view s) (collation.view t)
  | .blob s, .blob t => compareOfLessAndEq (s.map UInt8.toNat) (t.map UInt8.toNat)
  | a, b =>
    if classRank a = 1 ∧ classRank b = 1 then compareFractions (fractionOf a) (fractionOf b)
    else compare (classRank a) (classRank b)

/-- The best of some values, null if there is none. -/
def best (collation : Collation) (better : Ordering) : List Stored → Stored
  | [] => .null
  | first :: rest =>
    rest.foldl (fun found v => if compareUnder collation v found == better then v else found) first

end SqlSchema.Sqlite
