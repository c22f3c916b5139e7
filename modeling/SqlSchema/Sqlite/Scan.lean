import SqlSchema.Sqlite.Table

/-! The order in which the rows of a table are gone through: by their numbers or by a key, whichever
is thought to cost less. Costs are logarithms to the base two, in tenths; a table counts as having
about a million rows. -/

namespace SqlSchema.Sqlite

/-! ### Costs -/

/-- The logarithm of a number, in tenths, with three bits behind the first. -/
def logarithm (n : Nat) : Nat :=
  let bits := Nat.log2 n
  let next :=
    if 3 ≤ bits then n / Number.powerOfTwo (bits - 3) else n * Number.powerOfTwo (3 - bits)
  10 * bits + ([0, 2, 3, 5, 6, 7, 8, 9].getD (next - 8) 0)

/-- The logarithm of the sum of two numbers from their logarithms. -/
def logarithmOfSum (a b : Nat) : Nat :=
  let apart := max a b - min a b
  let more :=
    if 49 < apart then 0
    else if 31 < apart then 1
    else
      ([10, 10, 9, 9, 8, 8, 7, 7, 7, 6, 6, 6, 5, 5, 5, 4, 4, 4, 4, 3, 3, 3, 3, 3, 3]).getD apart 2
  max a b + more

def rowsEstimate : Nat := 200

def seekCost : Nat := logarithm rowsEstimate - 33

/-- The digits of a number in a declared type. -/
def declaredLength (declared : String) : Nat :=
  let digits := (declared.toList.dropWhile fun c => !Number.isDigit c).takeWhile Number.isDigit
  Number.digitsValue 0 digits

def ColumnDefinition.width (c : ColumnDefinition) : Nat :=
  let type := Text.lowerAscii c.declared
  match Affinity.ofDeclared c.declared with
  | .text | .blob =>
    if c.declared.isEmpty then 1
    else
      let length := if Text.occurs "char" type then declaredLength type else 16
      min 255 (length / 4 + 1)
  | _ => 1

namespace Table

def width (t : Table) : Nat :=
  let columns := t.columns.foldl (fun sum c => sum + c.width) 0
  logarithm (4 * (columns + if t.rowKey.isNone then 1 else 0))

/-- The width of an entry of a key, as a logarithm. -/
def keyWidth (t : Table) (key : Key) : Nat :=
  let columns := key.places.foldl
    (fun sum place => sum + (t.columns[place]?.map ColumnDefinition.width).getD 1) 0
  logarithm (4 * (columns + 1))

/-- The cost of each entry of a key over that of a row. -/
def entryCost (t : Table) (key : Key) : Nat :=
  1 + 15 * t.keyWidth key / t.width

/-! ### Conditions that limit what is gone through -/

/-- How a condition limits the values of a column: to some values, from below, from above, or to
those that are no nulls. -/
inductive Limit
  | among (count : Nat)
  | below
  | above
  | notNull
  deriving Repr, DecidableEq

/-- The place of a column, the number of the row having the place of its column, or the one behind
all columns. -/
def limitedPlace? (t : Table) (scope : List ScopeColumn) (e : Expr) : Option Nat :=
  match e with
  | .column table name _ =>
    (resolve? scope table name).map fun found =>
      if found.2 < t.columns.length then found.2
      else (t.rowKey.map RowKey.place).getD t.columns.length
  | _ => none

/-- The limit that an operator sets for a column on its left, the other way round for one on its
right. -/
def limitOf? (op : Operator) (flipped : Bool) : Option Limit :=
  match op with
  | .equal | .same => some (.among 1)
  | .less | .atMost => some (if flipped then .above else .below)
  | .greater | .atLeast => some (if flipped then .below else .above)
  | _ => none

/-- Whether a comparison of a column with something else goes by the order of the column, which is
one value for all rows. -/
def isComparable (t : Table) (scope : List ScopeColumn) (place : Nat) (left right other : Expr) :
    Bool :=
  (other.parts.all fun part => (t.limitedPlace? scope part).isNone)
    && (other.affinity? scope).isNone
    && comparisonCollation scope left right == t.collation place

/-- The limits that a condition sets, each for the place of a column. All must hold. -/
def limits (t : Table) (scope : List ScopeColumn) : Expr → List (Nat × Limit)
  | .binary .and a b => t.limits scope a ++ t.limits scope b
  | .binary .or a b =>
    match t.limits scope a, t.limits scope b with
    | [(p, .among m)], [(q, .among n)] => if p = q then [(p, .among (m + n))] else []
    | _, _ => []
  | .binary .different e (.literal .null) =>
    (t.limitedPlace? scope e).toList.map fun place => (place, .notNull)
  | .binary op left right =>
    match t.limitedPlace? scope left, t.limitedPlace? scope right with
    | some place, none =>
      if t.isComparable scope place left right right then
        (limitOf? op false).toList.map fun limit => (place, limit)
      else []
    | none, some place =>
      if t.isComparable scope place left right left then
        (limitOf? op true).toList.map fun limit => (place, limit)
      else []
    | _, _ => []
  | .member e items =>
    match t.limitedPlace? scope e with
    | some place =>
      if items.all fun item => t.isComparable scope place e e item then
        [(place, .among items.length)]
      else []
    | none => []
  | _ => []

/-- The number of rows within the bounds for a column, none if there are no bounds. -/
def boundedRows? (bounds : List Limit) : Option Nat :=
  match bounds.contains .below, bounds.contains .above with
  | true, true => some (rowsEstimate - 60)
  | false, false => if bounds.contains .notNull then some (rowsEstimate - 1) else none
  | _, _ => some (rowsEstimate - 20)

/-- The values that a column is limited to, if it is. -/
def amongCount? (bounds : List Limit) : Option Nat :=
  bounds.findSome? fun limit =>
    match limit with
    | .among count => some count
    | _ => none

/-! ### The choice -/

def leastCost (costs : List Nat) : Option Nat :=
  costs.min?

/-- The cost of going through the rows by their numbers within some limits. -/
def numberCost (t : Table) (found : List (Nat × Limit)) : Nat :=
  let place := (t.rowKey.map RowKey.place).getD t.columns.length
  let bounds := (found.filter fun entry => entry.1 = place).map Prod.snd
  let among := (amongCount? bounds).map fun n => logarithmOfSum seekCost 16 + logarithm n
  let bounded := (boundedRows? (bounds.filter (· ≠ .notNull))).map fun rows =>
    logarithmOfSum seekCost (rows + 16)
  (leastCost (among.toList ++ bounded.toList ++ [rowsEstimate + 16])).getD 0

/-- The cost of going through the rows by a key within some limits, none if there is nothing to
gain. A key that has all that is asked for spares the rows themselves. -/
def keyCost? (t : Table) (found : List (Nat × Limit)) (used : List Nat) (key : Key) : Option Nat :=
  let covers := used.all fun place =>
    key.places.contains place || t.columns.length ≤ place
      || t.rowKey.any fun rowKey => rowKey.place == place
  let visiting (rows more : Nat) : Nat :=
    let entries := logarithmOfSum seekCost (rows + t.entryCost key)
    (if covers then entries else logarithmOfSum entries (rows + 16)) + more
  let bounds := (found.filter fun entry => key.places.head? == some entry.1).map Prod.snd
  let bounds := if covers then bounds else bounds.filter (· ≠ .notNull)
  let first := if key.places.length = 1 then 0 else 33
  let among := (amongCount? bounds).map fun n => visiting first (logarithm n)
  let bounded := (boundedRows? bounds).map fun rows => visiting rows 0
  let whole :=
    if covers && t.keyWidth key < t.width then some (rowsEstimate + t.entryCost key) else none
  leastCost (among.toList ++ bounded.toList ++ whole.toList)

def compareByKey (t : Table) (key : Key) (a b : StoredRow) : Ordering :=
  let ofPlace (place : Nat) :=
    compareUnder (t.collation place) (a.cells.getD place .null) (b.cells.getD place .null)
  (key.places.find? fun place => ofPlace place != .eq).elim .eq ofPlace

/-- The rows in the order in which a condition and the places that are asked for let them be gone
through. -/
def scan (t : Table) (scope : List ScopeColumn) (condition : Option Expr) (used : List Nat) :
    List StoredRow :=
  let found := condition.elim [] (t.limits scope)
  let start : Nat × Option Key := (t.numberCost found, none)
  let chosen := t.keys.foldl
    (fun best key =>
      match t.keyCost? found used key with
      | some cost => if cost < best.1 then (cost, some key) else best
      | none => best)
    start
  match chosen.2 with
  | none => t.rows
  | some key => t.rows.mergeSort fun a b => t.compareByKey key a b != .gt

/-- Every row is gone through once. -/
theorem scan_perm (t : Table) (scope : List ScopeColumn) (condition : Option Expr)
    (used : List Nat) : (t.scan scope condition used).Perm t.rows := by
  simp only [scan]
  split
  · exact .refl _
  · exact List.mergeSort_perm _ _

end Table

end SqlSchema.Sqlite
