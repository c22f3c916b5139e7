import SqlSchema.Sqlite.Order

/-! Operators on values, and conversions that are asked for. -/

namespace SqlSchema.Sqlite

open SqlSchema.Number SqlSchema.Text

def realOf (n : Int) (den : Nat) : Stored :=
  .real (.ofRatio (n < 0) n.natAbs den)

/-- A whole number, or the nearest real one if it has more than 64 bits. -/
def wholeOf (n : Int) : Stored :=
  ((int64? n).map .integer).getD (realOf n 1)

/-- A whole number of 64 bits, or the nearest one within them. -/
def clamped (n : Int) : Int64 :=
  match int64? n with
  | some word => word
  | none => if n < 0 then Int64.minValue else Int64.maxValue

/-- The whole number that a text begins with. -/
def leadingInteger (s : String) : Int64 :=
  let (negative, body) := takeSign (s.toList.dropWhile isAsciiSpace)
  let magnitude := digitsValue 0 (body.takeWhile isDigit)
  clamped (if negative then -(magnitude : Int) else magnitude)

/-- A value as a whole number; a fraction loses what is behind its point. -/
def asInteger : Stored → Int64
  | .null => 0
  | .integer n => n
  | .real x => clamped ((fractionOf (.real x)).1.tdiv (fractionOf (.real x)).2)
  | .text s => leadingInteger s
  | .blob data => leadingInteger (asText (.blob data))

/-- Arithmetic on two numbers: whole if both are, and null for a division by zero. -/
def arithmetic (op : Operator) (a b : Stored) : Stored :=
  let (m, c) := fractionOf a
  let (n, d) := fractionOf b
  match a, b with
  | .null, _ | _, .null => .null
  | .integer _, .integer _ =>
    match op with
    | .add => wholeOf (m + n)
    | .subtract => wholeOf (m - n)
    | .multiply => wholeOf (m * n)
    | _ => if n = 0 then .null else wholeOf (m.tdiv n)
  | _, _ =>
    match op with
    | .add => realOf (m * d + n * c) (c * d)
    | .subtract => realOf (m * d - n * c) (c * d)
    | .multiply => realOf (m * n) (c * d)
    | _ => if n = 0 then .null else realOf (m * d * n.sign) (c * n.natAbs)

/-- The remainder of a division of whole numbers, null for a division by zero. It is a whole number
if both operands are or spell ones. -/
def remainderOf (a b : Stored) : Stored :=
  let found := (asInteger a).toInt.tmod (asInteger b).toInt
  if a = .null || b = .null || asInteger b = 0 then .null
  else
    match asNumber a, asNumber b with
    | .integer _, .integer _ => wholeOf found
    | _, _ => realOf found 1

/-- A number moved by so many bits, to the right for a negative count. Bits beyond the word are
lost, and the sign fills what comes in from the left. -/
def shifted (n : Int64) (count : Int) : Int64 :=
  if 0 ≤ count then
    if 64 ≤ count then 0 else .ofInt (n.toInt * powerOfTwo count.toNat)
  else if count ≤ -64 then (if n < 0 then -1 else 0)
  else .ofInt (n.toInt.fdiv (powerOfTwo (-count).toNat))

def bitwise (op : Operator) (a b : Stored) : Stored :=
  match a, b with
  | .null, _ | _, .null => .null
  | a, b =>
    let m := asInteger a
    let n := asInteger b
    match op with
    | .bitAnd => .integer (m &&& n)
    | .bitOr => .integer (m ||| n)
    | .shiftLeft => .integer (shifted m n.toInt)
    | _ => .integer (shifted m (-n.toInt))

def comparison (collation : Collation) (holds : Ordering → Bool) (a b : Stored) : Stored :=
  match a, b with
  | .null, _ | _, .null => .null
  | a, b => ofBool (holds (compareUnder collation a b))

/-- A conjunction: false if one side is. -/
def conjunction (a b : Option Bool) : Option Bool :=
  if a == some false || b == some false then some false
  else if a.isNone || b.isNone then none
  else some true

/-- A disjunction: true if one side is. -/
def disjunction (a b : Option Bool) : Option Bool :=
  if a == some true || b == some true then some true
  else if a.isNone || b.isNone then none
  else some false

/-- The value of an operator, texts being compared under a collation. -/
def Operator.apply (op : Operator) (collation : Collation) (a b : Stored) : Stored :=
  match op with
  | .or => ofTruth (disjunction (truth a) (truth b))
  | .and => ofTruth (conjunction (truth a) (truth b))
  | .same => ofBool (compareUnder collation a b == .eq)
  | .different => ofBool (compareUnder collation a b != .eq)
  | .equal => comparison collation (· == .eq) a b
  | .unequal => comparison collation (· != .eq) a b
  | .less => comparison collation (· == .lt) a b
  | .atMost => comparison collation (· != .gt) a b
  | .greater => comparison collation (· == .gt) a b
  | .atLeast => comparison collation (· != .lt) a b
  | .bitAnd | .bitOr | .shiftLeft | .shiftRight => bitwise op a b
  | .concat =>
    if a = .null || b = .null then .null else .text (asText a ++ asText b)
  | .remainder => remainderOf a b
  | op => arithmetic op (asNumber a) (asNumber b)

def Operator.isComparison : Operator → Bool
  | .same | .different | .equal | .unequal | .less | .atMost | .greater | .atLeast => true
  | _ => false

/-- The operands of a comparison after each has taken on the preference of the other: numbers for a
side that prefers them, and texts against a column that has no other preference. -/
def alike (left right : Option Affinity) (a b : Stored) : Stored × Stored :=
  let numeric : Option Affinity → Bool
    | some .integer | some .real | some .numeric => true
    | _ => false
  if numeric left || numeric right then
    (if numeric left then a else preferNumber a, if numeric right then b else preferNumber b)
  else if left == some .text && right.isNone then (a, preferText b)
  else if right == some .text && left.isNone then (preferText a, b)
  else (a, b)

def asReal (v : Stored) : Stored :=
  let (n, d) := fractionOf (asNumber v)
  match asNumber v with
  | .real x => .real x
  | _ => realOf n d

/-- The affinity of a type that values are converted to, a number if it has no name. -/
def castAffinity (type : String) : Affinity :=
  if type.isEmpty then .numeric else .ofDeclared type

def castTo (type : String) (v : Stored) : Stored :=
  match v, castAffinity type with
  | .null, _ => .null
  | v, .integer => .integer (asInteger v)
  | v, .real => asReal v
  | v, .numeric =>
    match v with
    | .integer n => .integer n
    | .real x => .real x
    | v => preferInteger (asNumber v)
  | v, .text => .text (asText v)
  | .blob data, .blob => .blob data
  | v, .blob => .blob (utf8Encode (asText v))

end SqlSchema.Sqlite
