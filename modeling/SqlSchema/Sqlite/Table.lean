import SqlSchema.Sqlite.Evaluate

/-! Tables: columns, keys, conditions, references, and rows in the order of their numbers. A column
that is an integer primary key is the number of the row. -/

namespace SqlSchema.Sqlite

/-- A row: its number and its cells. -/
structure StoredRow where
  number : Int64
  cells : List Stored
  deriving Repr, DecidableEq

/-- Columns whose values together may not be repeated, by their places. -/
structure Key where
  primary : Bool
  places : List Nat
  conflict : Option Conflict := none
  deriving Repr, DecidableEq

/-- Two keys of the same columns as one. Where both say what is done about repetitions they must
agree. -/
def Key.merged (a b : Key) : Except Fault Key :=
  if a.conflict.isSome && b.conflict.isSome && a.conflict ≠ b.conflict then .error .keyConflict
  else .ok { a with primary := a.primary || b.primary, conflict := a.conflict.or b.conflict }

/-- Keys with one more. The later ones are tried first, but those that replace rows after all
others. -/
def Key.joining (key : Key) : List Key → List Key
  | [] => [key]
  | first :: rest =>
    if key.conflict = some .replace && first.conflict ≠ some .replace then
      first :: joining key rest
    else key :: first :: rest

/-- How the column that is the number of the row treats repetitions, and whether new numbers go on
from the largest that there ever was. -/
structure RowKey where
  place : Nat
  conflict : Option Conflict := none
  counting : Bool := false
  deriving Repr, DecidableEq

/-- A table. Keys stand in the order in which they are tried. -/
structure Table where
  name : String
  columns : List ColumnDefinition
  rowKey : Option RowKey := none
  keys : List Key := []
  conditions : List (String × Expr) := []
  references : List Reference := []
  rows : List StoredRow := []
  largest : Int64 := 0
  deriving Repr

/-- Why a row is not stored: it is passed over, or the statement fails, and keeps what it did so far
or does not. -/
inductive Rejection
  | passedOver
  | failed (fault : Fault) (keeps : Bool)
  deriving Repr, DecidableEq

/-- What is done about a row: what the statement asks for, or else what the constraint says. -/
def settled (asked own : Option Conflict) : Conflict :=
  (asked.or own).getD .abort

/-- The rejection of a row for a fault, where it does not replace others. -/
def Conflict.rejection (conflict : Conflict) (fault : Fault) : Rejection :=
  match conflict with
  | .ignore => .passedOver
  | .fail => .failed fault true
  | .rollback | .abort | .replace => .failed fault false

namespace Table

def place? (t : Table) (column : String) : Option Nat :=
  t.columns.findIdx? fun c => sameName c.name column

/-- The place of a column that is written to. The number of the row stands for its column. -/
def writtenPlace? (t : Table) (column : String) : Option Nat :=
  (t.place? column).or
    (if rowNumberNames.contains (Text.lowerAscii column) then t.rowKey.map RowKey.place else none)

/-- A column as errors name it. -/
def fullName (t : Table) (place : Nat) : String :=
  t.name ++ "." ++ ((t.columns[place]?.map ColumnDefinition.name).getD "")

def affinity (t : Table) (place : Nat) : Affinity :=
  .ofDeclared ((t.columns[place]?.map ColumnDefinition.declared).getD "")

def collation (t : Table) (place : Nat) : Collation :=
  (t.columns[place]?.map ColumnDefinition.collation).getD .binary

/-- The columns that expressions on the table can name, under a label. -/
def scopeColumns (t : Table) (label : String) : List ScopeColumn :=
  let rowKeyName := t.rowKey.bind fun key => t.columns[key.place]?.map ColumnDefinition.name
  (t.columns.map fun c =>
      { table := label, name := c.name, declared := c.declared, collation := c.collation })
    ++ [{ table := label, name := rowKeyName.getD "rowid", declared := "INTEGER", hidden := true }]

def visible (r : StoredRow) : List Stored :=
  r.cells ++ [.integer r.number]

def withRows (t : Table) (rows : List StoredRow) : Table :=
  { t with rows := rows }

/-! ### Definition -/

/-- The first name that repeats one of those before it. -/
def repeated? (before : List String) : List String → Option String
  | [] => none
  | first :: rest =>
    if before.any (sameName first) then some first else repeated? (first :: before) rest

def hasPrimaryKey (t : Table) : Bool :=
  t.rowKey.isSome || t.keys.any Key.primary

/-- The places of the columns of a key, all of which must exist. -/
def keyPlaces (t : Table) (columns : List String) : Except Fault (List Nat) :=
  columns.mapM fun column =>
    match t.place? column with
    | some place => .ok place
    | none => .error (.noColumn column)

/-- The place of the column that a primary key makes the number of the row: its only one, declared
as an integer. -/
def rowKeyPlace? (t : Table) (columns : List String) : Option Nat :=
  match columns with
  | [column] => (t.place? column).filter fun place =>
    (t.columns[place]?).any fun c => sameName c.declared "integer"
  | _ => none

def addKey (t : Table) (key : Key) : Except Fault Table := do
  match t.keys.find? fun other => other.places == key.places with
  | none => return { t with keys := key.joining t.keys }
  | some other =>
    let merged ← other.merged key
    return { t with keys := t.keys.map fun k => if k.places == key.places then merged else k }

def addPrimaryKey (t : Table) (columns : List String) (conflict : Option Conflict)
    (descending counting : Bool) : Except Fault Table := do
  if t.hasPrimaryKey then throw (.manyPrimaryKeys t.name)
  match if descending then none else t.rowKeyPlace? columns with
  | some place => return { t with rowKey := some ⟨place, conflict, counting⟩ }
  | none =>
    if counting then throw .countingKey
    t.addKey ⟨true, ← t.keyPlaces columns, conflict⟩

/-- The table with a reference, of columns that it has to as many others. -/
def addReference (t : Table) (r : Reference) : Except Fault Table := do
  if !r.targets.isEmpty && r.targets.length ≠ r.columns.length then throw .referenceWidth
  match r.columns.find? fun column => (t.place? column).isNone with
  | some column => throw (.unknownReferrer column)
  | none => return { t with references := t.references ++ [r] }

def constrain (t : Table) : TableConstraint → Except Fault Table
  | .primaryKey columns conflict descending counting =>
    t.addPrimaryKey columns conflict descending counting
  | .unique columns conflict => do t.addKey ⟨false, ← t.keyPlaces columns, conflict⟩
  | .check name condition => .ok { t with conditions := t.conditions ++ [(name, condition)] }
  | .reference r => t.addReference r

def define (name : String) (columns : List ColumnDefinition)
    (constraints : List TableConstraint) : Except Fault Table := do
  if let some column := repeated? [] (columns.map ColumnDefinition.name) then
    throw (.duplicateColumn column)
  if let some c := columns.find? fun c => !c.default.all Expr.isConstant then
    throw (.variableDefault c.name)
  let t ← constraints.foldlM constrain { name := name, columns := columns }
  let scope := t.scopeColumns name
  checkAll .tableCondition scope (t.conditions.map Prod.snd)
  checkAll .tableCondition scope (columns.filterMap ColumnDefinition.generated)
  if columns.all fun c => c.generated.isSome then throw .noPlainColumn
  return t

/-! ### New rows -/

def defaultOf (c : ColumnDefinition) : Stored :=
  (c.default.map fun e => e.eval {}).getD .null

/-- The number of a new row: one more than the last, or than any before it if the table counts.
There is none after the largest. -/
def nextNumber (t : Table) : Except Fault Int64 :=
  let last := (t.rows.getLast?.map StoredRow.number).getD 0
  let reached := if t.rowKey.any RowKey.counting then max last t.largest else last
  if reached = Int64.maxValue then .error .full else .ok (reached + 1)

def storeCells (t : Table) (cells : List Stored) : List Stored :=
  t.columns.zipWith (fun c v => (Affinity.ofDeclared c.declared).store v) cells

def generate (t : Table) (number : Int64) (cells : List Stored) : List Stored :=
  t.columns.zipIdx.foldl
    (fun cells entry =>
      match entry.1.generated with
      | none => cells
      | some e =>
        let scope : Scope := { columns := t.scopeColumns t.name, row := visible ⟨number, cells⟩ }
        cells.set entry.2 ((t.affinity entry.2).store (e.eval scope)))
    cells

/-- The number of a row: what its key column holds, or a fresh one. -/
def numberOf (t : Table) (cells : List Stored) (fresh : Except Fault Int64) : Except Fault Int64 :=
  match t.rowKey with
  | none => fresh
  | some key =>
    match cells.getD key.place .null with
    | .null => fresh
    | .integer n => .ok n
    | _ => .error .wrongClass

/-- The row of some cells, with the number in its key column. -/
def rowOf (t : Table) (cells : List Stored) (fresh : Except Fault Int64) :
    Except Fault StoredRow := do
  let number ← t.numberOf cells fresh
  let cells := t.rowKey.elim cells fun key => cells.set key.place (.integer number)
  return ⟨number, t.generate number cells⟩

/-- The row of some cells in place of another. Its number cannot become null. -/
def changedRow (t : Table) (old : StoredRow) (cells : List Stored) : Except Fault StoredRow :=
  let cells := t.storeCells cells
  if t.rowKey.any fun key => cells.getD key.place .null == .null then .error .wrongClass
  else t.rowOf cells (.ok old.number)

/-- The rows with one more in its place. -/
def inOrder (row : StoredRow) (rows : List StoredRow) : List StoredRow :=
  rows.takeWhile (·.number < row.number) ++ row :: rows.dropWhile (·.number < row.number)

def without (t : Table) (number : Int64) : Table :=
  t.withRows (t.rows.filter (·.number != number))

/-- The table with a row in place of another, or without that one. -/
def exchange (t : Table) (old : StoredRow) (new : Option StoredRow) : Table :=
  let others := t.without old.number
  match new with
  | some row => others.withRows (inOrder row others.rows)
  | none => others

def insert (t : Table) (row : StoredRow) : Table :=
  { t with rows := inOrder row t.rows, largest := max t.largest row.number }

/-! ### Acceptance -/

/-- The value of a cell where a column may do without nulls. A replacement takes the default. -/
def acceptCell (t : Table) (asked : Option Conflict) (entry : (ColumnDefinition × Stored) × Nat) :
    Except Rejection Stored :=
  let ((c, v), place) := entry
  match v, c.notNull with
  | .null, some own =>
    let conflict := settled asked (some own)
    let instead := if conflict = .replace then defaultOf c else .null
    if instead = .null then .error (conflict.rejection (.nullRefused (t.fullName place)))
    else .ok ((Affinity.ofDeclared c.declared).store instead)
  | v, _ => .ok v

/-- The conditions must not be false of a row. -/
def acceptConditions (t : Table) (asked : Option Conflict) (row : StoredRow) :
    Except Rejection Unit :=
  let scope : Scope := { columns := t.scopeColumns t.name, row := visible row }
  match t.conditions.find? fun entry => truth (entry.2.eval scope) == some false with
  | some entry => .error ((settled asked none).rejection (.checkFailed entry.1))
  | none => .ok ()

/-- Whether two rows agree on a key. A null agrees with nothing. -/
def agree (t : Table) (key : Key) (a b : StoredRow) : Bool :=
  key.places.all fun place =>
    let v := a.cells.getD place .null
    v ≠ .null && compareUnder (t.collation place) v (b.cells.getD place .null) == .eq

/-- A test that a row may not share with others, what is done where it does, and the fault. -/
structure Barrier where
  holds : StoredRow → Bool
  conflict : Conflict
  fault : Fault

/-- The barriers to a row, in the order in which they are tried: its number, and the keys. -/
def barriers (t : Table) (asked : Option Conflict) (row : StoredRow) : List Barrier :=
  let number : Barrier := {
    holds := fun other => other.number == row.number
    conflict := settled asked (t.rowKey.bind RowKey.conflict)
    fault := .keyRepeated (t.rowKey.toList.map fun key => t.fullName key.place) }
  let ofKey (key : Key) : Barrier :=
    let columns := key.places.map t.fullName
    { holds := t.agree key row
      conflict := settled asked key.conflict
      fault := if key.primary then .keyRepeated columns else .valueRepeated columns }
  number :: t.keys.map ofKey

/-- The rows that a row replaces. Barriers that let it replace none come first. -/
def acceptKeys (t : Table) (asked : Option Conflict) (row : StoredRow) :
    Except Rejection (List StoredRow) :=
  let met := (t.barriers asked row).filter fun b => t.rows.any b.holds
  match met.find? fun b => b.conflict ≠ .replace with
  | some b => .error (b.conflict.rejection b.fault)
  | none => .ok (t.rows.filter fun other => met.any fun b => b.holds other)

/-- The row as it is stored among the rows of the table, and the rows that it replaces. -/
def accept (t : Table) (asked : Option Conflict) (row : StoredRow) :
    Except Rejection (StoredRow × List StoredRow) := do
  let cells ← ((t.columns.zip row.cells).zipIdx).mapM (t.acceptCell asked)
  let row := { row with cells := cells }
  t.acceptConditions asked row
  return (row, ← t.acceptKeys asked row)

/-- Whether a row that is written to in some places can replace others: by its number, or by a key
that has one of the places. -/
def canReplace (t : Table) (asked : Option Conflict) (places : List Nat) : Bool :=
  let numbered := t.rowKey.any fun key => places.contains key.place
  (numbered && settled asked (t.rowKey.bind RowKey.conflict) == .replace)
    || t.keys.any fun key =>
      (numbered || key.places.any places.contains) && settled asked key.conflict == .replace

end Table

end SqlSchema.Sqlite
