import SqlSchema.Sqlite.Arithmetic
import SqlSchema.Sqlite.Pattern
import SqlSchema.Text.Percent

/-! Functions: of the values in one row, and of the values in many rows. -/

namespace SqlSchema.Sqlite

open SqlSchema.Number SqlSchema.Text

/-- The functions of values in one row, each with the counts of arguments that it takes. -/
def scalarFunctions : List (String × (Nat → Bool)) :=
  [("abs", (· == 1)), ("changes", (· == 0)), ("char", fun _ => true), ("coalesce", (2 ≤ ·)),
   ("glob", (· == 2)), ("hex", (· == 1)), ("ifnull", (· == 2)), ("iif", (· == 3)),
   ("instr", (· == 2)), ("last_insert_rowid", (· == 0)), ("length", (· == 1)),
   ("like", fun n => n == 2 || n == 3), ("lower", (· == 1)), ("ltrim", fun n => n == 1 || n == 2),
   ("max", (2 ≤ ·)), ("min", (2 ≤ ·)), ("nullif", (· == 2)), ("octet_length", (· == 1)),
   ("quote", (· == 1)), ("replace", (· == 3)), ("round", fun n => n == 1 || n == 2),
   ("rtrim", fun n => n == 1 || n == 2), ("sign", (· == 1)),
   ("substr", fun n => n == 2 || n == 3), ("substring", fun n => n == 2 || n == 3),
   ("trim", fun n => n == 1 || n == 2), ("typeof", (· == 1)), ("unicode", (· == 1)),
   ("upper", (· == 1))]

def aggregateFunctions : List (String × (Nat → Bool)) :=
  [("avg", (· == 1)), ("count", fun n => n == 0 || n == 1),
   ("group_concat", fun n => n == 1 || n == 2), ("max", (· == 1)), ("min", (· == 1)),
   ("string_agg", (· == 2)), ("sum", (· == 1)), ("total", (· == 1))]

def hasFunction (functions : List (String × (Nat → Bool))) (name : String) (count : Nat) : Bool :=
  (Keyed.get? (lowerAscii name) functions).any fun accepts => accepts count

/-- Whether a function with a count of arguments runs over rows. -/
def isAggregate (function : String) (arguments : Nat) : Bool :=
  hasFunction aggregateFunctions function arguments

def isFunction (name : String) : Bool :=
  Keyed.contains (lowerAscii name) scalarFunctions
    || Keyed.contains (lowerAscii name) aggregateFunctions

/-! ### Pieces -/

/-- A value as a whole number of 32 bits, of which those beyond are lost. -/
def halfWord (v : Stored) : Int :=
  (asInteger v).toInt32.toInt

def className : Stored → String
  | .null => "null"
  | .integer _ => "integer"
  | .real _ => "real"
  | .text _ => "text"
  | .blob _ => "blob"

def upperAscii (s : String) : String :=
  String.ofList (s.toList.map Char.toUpper)

def bytesOf : Stored → List UInt8
  | .blob data => data
  | v => utf8Encode (asText v)

def upperHex (data : List UInt8) : String :=
  String.ofList (data.flatMap fun b =>
    [upperHexDigit (b.toNat / 16), upperHexDigit (b.toNat % 16)])

/-- The part of a list from a place, counted from one, or from the end if it is negative, and of a
length, which a negative sign lets end there. -/
def slice {α : Type} (items : List α) (start : Int) (length : Option Int) : List α :=
  let size : Int := items.length
  let count := (length.map Int.natAbs).elim (size + start.natAbs + 1) Int.ofNat
  let (start, count) :=
    if start < 0 then
      if size + start < 0 then ((0 : Int), max 0 (count + (size + start)))
      else (size + start, count)
    else if 0 < start then (start - 1, count)
    else (0, if 0 < count then count - 1 else count)
  let (start, count) :=
    if length.any (· < 0) then
      if start - count < 0 then (0, start) else (start - count, count)
    else (start, count)
  (items.drop start.toNat).take count.toNat

/-- The place of a list within another, counted from one, or zero. -/
def placeWithin {α : Type} [BEq α] (part : List α) : List α → Nat
  | [] => if part.isEmpty then 1 else 0
  | c :: rest =>
    if part.isPrefixOf (c :: rest) then 1
    else
      let behind := placeWithin part rest
      if behind = 0 then 0 else behind + 1

/-- A text with every occurrence of a part, which is not empty, replaced. The count says how many
characters of the last one are still to be passed over. -/
def replaceAll (part new : List Char) (passing : Nat) : List Char → List Char
  | [] => []
  | c :: rest =>
    match passing with
    | n + 1 => replaceAll part new n rest
    | 0 =>
      if part.isPrefixOf (c :: rest) then new ++ replaceAll part new (part.length - 1) rest
      else c :: replaceAll part new 0 rest

def quotedValue : Stored → String
  | .null => "NULL"
  | .integer n => toString n.toInt
  | .real x => realText x
  | .text s =>
    let doubled := s.toList.flatMap fun c => if c == '\x27' then [c, c] else [c]
    "'" ++ String.ofList doubled ++ "'"
  | .blob data => "X'" ++ upperHex data ++ "'"

/-- A number rounded to so many places, a half going away from zero. -/
def roundedTo (places : Nat) (v : Stored) : Stored :=
  match asReal v with
  | .real x =>
    if x.isFinite then
      let (n, d) := fractionOf (.real x)
      let unit := powerOfTen places
      let scaled := (2 * n.natAbs * unit + d) / (2 * d)
      .real (.ofRatio (x.negative && scaled != 0) scaled unit)
    else .real x
  | v => v

def magnitude : Stored → Stored
  | .null => .null
  | .integer n => wholeOf n.toInt.natAbs
  | v =>
    match asReal v with
    | .real x => .real { x with negative := false }
    | v => v

/-- The sign of a number, null for what is none. -/
def signOf (v : Stored) : Stored :=
  match preferNumber v with
  | .integer n => .integer (.ofInt n.toInt.sign)
  | .real x => .integer (.ofInt (fractionOf (.real x)).1.sign)
  | _ => .null

/-- A text without characters of a set at its start, at its end, or at both. -/
def trimmedBy (atStart atEnd : Bool) (set s : List Char) : List Char :=
  let front := if atStart then s.dropWhile set.contains else s
  if atEnd then (front.reverse.dropWhile set.contains).reverse else front

/-- The place of a value within another, by bytes if both are blobs. -/
def placeOfValue (whole part : Stored) : Nat :=
  match whole, part with
  | .blob a, .blob b => placeWithin b a
  | a, b => placeWithin (asText b).toList (asText a).toList

def sliceOf (v : Stored) (start : Int) (length : Option Int) : Stored :=
  match v with
  | .blob data => .blob (slice data start length)
  | v => .text (String.ofList (slice (asText v).toList start length))

/-! ### Values -/

/-- The value of a function that is null if one of its arguments is. -/
def strictScalar (function : String) (arguments : List Stored) : Stored :=
  let nth (n : Nat) := arguments.getD n .null
  let text (n : Nat) := (asText (nth n)).toList
  let set := if arguments.length = 2 then text 1 else [' ']
  match function with
  | "abs" => magnitude (nth 0)
  | "glob" =>
    ofBool (fitsGlob ((text 0).length + (text 1).length + 1) (text 0) (text 1))
  | "instr" => .integer (.ofNat (placeOfValue (nth 0) (nth 1)))
  | "length" =>
    match nth 0 with
    | .blob data => .integer (.ofNat data.length)
    | v => .integer (.ofNat (asText v).length)
  | "like" =>
    let escape := if arguments.length = 3 then (text 2).head? else none
    ofBool (fitsLike escape (text 0) (text 1))
  | "lower" => .text (lowerAscii (asText (nth 0)))
  | "ltrim" => .text (String.ofList (trimmedBy true false set (text 0)))
  | "octet_length" => .integer (.ofNat (bytesOf (nth 0)).length)
  | "replace" =>
    if (text 1).isEmpty then .text (asText (nth 0))
    else .text (String.ofList (replaceAll (text 1) (text 2) 0 (text 0)))
  | "round" => roundedTo (min 30 (halfWord (nth 1)).toNat) (nth 0)
  | "rtrim" => .text (String.ofList (trimmedBy false true set (text 0)))
  | "substr" | "substring" =>
    sliceOf (nth 0) (halfWord (nth 1)) ((arguments[2]?).map halfWord)
  | "trim" => .text (String.ofList (trimmedBy true true set (text 0)))
  | "unicode" => ((text 0).head?.map fun c => Stored.integer (.ofNat c.toNat)).getD .null
  | "upper" => .text (upperAscii (asText (nth 0)))
  | _ => signOf (nth 0)

/-- The value of a function of values in one row, texts being compared under a collation. -/
def scalar (changes : Nat) (lastRowId : Int64) (collation : Collation) (function : String)
    (arguments : List Stored) : Stored :=
  let first := arguments.headD .null
  let second := arguments.getD 1 .null
  match lowerAscii function with
  | "changes" => .integer (.ofNat changes)
  | "char" =>
    .text (String.ofList (arguments.map fun v => Char.ofNat (asInteger v).toInt.toNat))
  | "coalesce" | "ifnull" => (arguments.find? (· ≠ .null)).getD .null
  | "hex" => .text (upperHex (bytesOf first))
  | "iif" => if truth first == some true then second else arguments.getD 2 .null
  | "last_insert_rowid" => .integer lastRowId
  | "max" => if arguments.contains .null then .null else best collation .gt arguments
  | "min" =>
    if arguments.contains .null then .null else best collation .lt arguments.reverse
  | "nullif" => if compareUnder collation first second == .eq then .null else first
  | "quote" => .text (quotedValue first)
  | "typeof" => .text (className first)
  | name => if arguments.contains .null then .null else strictScalar name arguments

/-- The exact sum of some values as a real number. -/
def realSum (values : List Stored) : Stored :=
  let (n, d) := values.foldl
    (fun (sum : Int × Nat) v =>
      let (n, d) := fractionOf (asReal v)
      (sum.1 * d + n * sum.2, sum.2 * d))
    (0, 1)
  realOf n d

/-- The sum of some values: whole if all are whole numbers or spell them, and null if there is
none. -/
def sumOf (values : List Stored) : Stored :=
  match values with
  | [] => .null
  | _ =>
    let numbers := values.map preferNumber
    if numbers.all (· matches .integer _) then
      wholeOf (numbers.foldl (fun sum v => sum + (asInteger v).toInt) 0)
    else realSum values

/-- The value of a function over the values of many rows, of which nulls do not count. A second
argument stands between texts that are joined. -/
def aggregate (collation : Collation) (function : String) (rows : List (List Stored)) : Stored :=
  let present := rows.filter fun row => row.head? != some .null
  let values := present.map fun row => row.headD .null
  match lowerAscii function with
  | "avg" =>
    if values.isEmpty then .null
    else arithmetic .divide (realSum values) (.integer (.ofNat values.length))
  | "count" => .integer (.ofNat values.length)
  | "max" => best collation .gt values
  | "min" => best collation .lt values
  | "sum" => sumOf values
  | "total" => realSum values
  | _ =>
    let between := fun row : List Stored =>
      if row.length = 2 then asText (row.getD 1 .null) else ","
    match present with
    | [] => .null
    | first :: rest =>
      .text (rest.foldl (fun s row => s ++ between row ++ asText (row.headD .null))
        (asText (first.headD .null)))

end SqlSchema.Sqlite
