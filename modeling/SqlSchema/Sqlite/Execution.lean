import SqlSchema.Sqlite.Linking
import SqlSchema.Sqlite.Selection

/-! What commands do to a database. A command that fails leaves it as it was, unless it is to keep
the rows before the one that it failed on. -/

namespace SqlSchema.Sqlite

/-- What a command works with: the journal of its connection, whether references are enforced, and
what its selections draw on. -/
structure Setting where
  journal : String
  enforcing : Bool
  sources : Sources

/-- What a command gives: rows, the number of rows it changed if it is one that does, the number of
the last row that it inserted, whether references are enforced from now on if it says so, and the
fault of a row that it failed on. A row that was inserted before such a fault has left its number,
though not itself. -/
structure Answer where
  result : Relation := { columns := [], rows := [] }
  changes : Option Nat := none
  inserted : Option Int64 := none
  enforcing : Option Bool := none
  fault : Option Fault := none

/-! ### Row after row -/

/-- How far a command has come with its rows: the database, how many it changed, the number of the
last that it inserted, and the fault that ended it, with which it keeps what it did or does not. -/
structure Course where
  database : Database
  count : Nat := 0
  inserted : Option Int64 := none
  fault : Option (Fault × Bool) := none

/-- The course after one more row, of which `change` tells what it does, unless it has ended. A row
that is passed over changes nothing. -/
def Course.step (change : Database → Except Rejection (Database × Option Int64)) (c : Course) :
    Course :=
  if c.fault.isSome then c
  else
    match change c.database with
    | .ok (d, number) =>
      { c with database := d, count := c.count + 1, inserted := number.or c.inserted }
    | .error .passedOver => c
    | .error (.failed fault keeps) => { c with fault := some (fault, keeps) }

def Course.through {α : Type}
    (change : α → Database → Except Rejection (Database × Option Int64)) (rows : List α)
    (d : Database) : Course :=
  rows.foldl (fun c row => Course.step (change row) c) { database := d }

/-- What a command has done after its rows: nothing if it failed, unless it keeps what it did, and
nothing if it made references lead nowhere. `noting` tells whether the number of a row outlasts
that. -/
def Course.settle (enforcing noting : Bool) (before : Database) (c : Course) :
    Database × Answer :=
  let undone (fault : Fault) (inserted : Option Int64) : Database × Answer :=
    (before, { changes := some 0, inserted := inserted, fault := some fault })
  match c.fault with
  | some (fault, false) => undone fault c.inserted
  | fault =>
    if enforcing && before.violations < c.database.violations then
      undone .referenceFailed (if noting then c.inserted else none)
    else
      (c.database,
        { changes := some c.count, inserted := c.inserted, fault := fault.map Prod.fst })

def orFail {α : Type} (result : Except Fault α) : Except Rejection α :=
  result.mapError fun fault => .failed fault false

def removeRows (enforcing : Bool) (table : String) (rows : List StoredRow) (d : Database) :
    Except Fault Database :=
  rows.foldlM (fun d row => d.change enforcing table row none) d

/-! ### Insertions -/

/-- The cells of a row from the values for some of its columns; the others get their defaults, but
that of the number of the row does not count. -/
def fullCells (t : Table) (places : List Nat) (values : List Stored) : List Stored :=
  let defaults := t.columns.map Table.defaultOf
  let defaults := t.rowKey.elim defaults fun key => defaults.set key.place .null
  (places.zip values).foldl (fun cells entry => cells.set entry.1 entry.2) defaults

/-- The places that an insertion writes to: those that it gives values for, and all others but that
of the number of the row. -/
def writtenPlaces (t : Table) (places : List Nat) : List Nat :=
  (List.range t.columns.length).filter fun place =>
    places.contains place || !t.rowKey.any fun key => key.place == place

def insertRow (enforcing : Bool) (asked : Option Conflict) (table : String) (cells : List Stored)
    (d : Database) : Except Rejection (Database × Option Int64) := do
  let t ← orFail (d.table table)
  let row ← orFail (t.rowOf (t.storeCells cells) t.nextNumber)
  let (row, replaced) ← t.accept asked row
  let d ← orFail (removeRows enforcing table replaced d)
  let t ← orFail (d.table table)
  return (d.put (t.insert row), some row.number)

/-- The places that an insertion gives values for. Generated columns cannot be given any. -/
def insertedPlaces (t : Table) (columns : Option (List String)) : Except Fault (List Nat) :=
  match columns with
  | none =>
    .ok ((t.columns.zipIdx.filter fun entry => entry.1.generated.isNone).map Prod.snd)
  | some columns => columns.mapM fun column =>
    match t.writtenPlace? column with
    | none => .error (.noColumnOf t.name column)
    | some place =>
      if (t.columns[place]?).any fun c => c.generated.isSome then .error (.generatedGiven column)
      else .ok place

/-- Whether the rows of an insertion are written out as one row at most. -/
def isSingleRow : Option Query → Bool
  | none => true
  | some (.values rows) => rows.length ≤ 1
  | some (.select _) => false

def runInsert (s : Setting) (asked : Option Conflict) (table : String)
    (columns : Option (List String)) (source : Option Query) :
    Except Fault (Database × Answer) := do
  let d := s.sources.database
  let t ← d.table table
  let places ← insertedPlaces t columns
  let rows ← match source with
    | none => pure [[]]
    | some q => do
      let relation ← q.run s.sources
      let width := relation.columns.length
      if width ≠ places.length then
        match columns with
        | none => throw (.tableWidth t.name places.length width)
        | some _ => throw (.listWidth width places.length)
      pure relation.rows
  checkAll .byDefault [] ((t.columns.zipIdx.filter fun entry => !places.contains entry.2).filterMap
    fun entry => entry.1.default)
  let written := writtenPlaces t places
  let replacing := d.isTied t && t.canReplace asked written
  let several := replacing || !isSingleRow source
  if s.enforcing then d.checkLinks t asked written (.insertion several)
  let noting := several || t.references.all Reference.deferred
  let course := Course.through (insertRow s.enforcing asked table) (rows.map (fullCells t places)) d
  return course.settle s.enforcing noting d

/-! ### Updates and removals -/

/-- Whether a row meets a condition, which none at all always is. -/
def meets (condition : Option Expr) (scope : Scope) (row : StoredRow) : Bool :=
  condition.all fun e => truth (e.eval { scope with row := Table.visible row }) == some true

/-- The cells of a row after assignments, all of which see the row as it was. -/
def assigned (assignments : List (Nat × Expr)) (scope : Scope) (row : StoredRow) : List Stored :=
  assignments.foldl
    (fun cells a => cells.set a.1 (a.2.eval { scope with row := Table.visible row })) row.cells

/-- Updates the row of a number, if there still is one. -/
def updateRow (enforcing : Bool) (asked : Option Conflict) (table : String)
    (assignments : List (Nat × Expr)) (scope : Scope) (number : Int64) (d : Database) :
    Except Rejection (Database × Option Int64) := do
  let t ← orFail (d.table table)
  match t.rows.find? (·.number == number) with
  | none => throw .passedOver
  | some old =>
    let row ← orFail (t.changedRow old (assigned assignments scope old))
    let (row, replaced) ← (t.without number).accept asked row
    let d ← orFail (removeRows enforcing table replaced d)
    return (← orFail (d.change enforcing table old (some row)), none)

def runUpdate (s : Setting) (asked : Option Conflict) (table : String)
    (assignments : List (String × Expr)) (condition : Option Expr) :
    Except Fault (Database × Answer) := do
  let d := s.sources.database
  let t ← d.table table
  let columns := t.scopeColumns table
  let places ← assignments.mapM fun a =>
    match t.writtenPlace? a.1 with
    | none => .error (.noColumn a.1)
    | some place =>
      if (t.columns[place]?).any fun c => c.generated.isSome then .error (.generatedAssigned a.1)
      else .ok (place, a.2)
  checkAll .oneRow columns (assignments.map Prod.snd)
  checkAll .oneRow columns condition.toList
  let written := places.map Prod.fst
  if s.enforcing then d.checkLinks t asked written (.update written)
  let scope := s.sources.scope columns
  let met := (t.rows.filter (meets condition scope)).map StoredRow.number
  let course := Course.through (updateRow s.enforcing asked table places scope) met d
  return course.settle s.enforcing true d

def deleteRow (enforcing : Bool) (table : String) (number : Int64) (d : Database) :
    Except Rejection (Database × Option Int64) := do
  let t ← orFail (d.table table)
  match t.rows.find? (·.number == number) with
  | none => throw .passedOver
  | some old => return (← orFail (d.change enforcing table old none), none)

def deleteRows (enforcing : Bool) (table : String) (rows : List StoredRow) (d : Database) :
    Database × Answer :=
  (Course.through (deleteRow enforcing table) (rows.map StoredRow.number) d).settle enforcing true d

def runDelete (s : Setting) (table : String) (condition : Option Expr) :
    Except Fault (Database × Answer) := do
  let d := s.sources.database
  let t ← d.table table
  let columns := t.scopeColumns table
  checkAll .oneRow columns condition.toList
  if s.enforcing then d.checkLinks t none [] .removal
  return deleteRows s.enforcing table (t.rows.filter (meets condition (s.sources.scope columns))) d

/-! ### Tables and settings -/

def runCreate (d : Database) (ifAbsent : Bool) (name : String) (columns : List ColumnDefinition)
    (constraints : List TableConstraint) : Except Fault Database := do
  if "sqlite_".isPrefixOf (Text.lowerAscii name) then throw (.reservedName name)
  if (d.table? name).isSome then
    if ifAbsent then return d else throw (.tableExists name)
  let t ← Table.define name columns constraints
  return { d with tables := d.tables ++ [t] }

/-- The end of a table. Where references lead to it, its rows are removed first. With a deferred
reference of its own it counts as a change of no rows. -/
def runDrop (s : Setting) (ifPresent : Bool) (name : String) :
    Except Fault (Database × Answer) := do
  let d := s.sources.database
  match d.table? name with
  | none => if ifPresent then return (d, {}) else throw (.noTable name)
  | some t =>
    if s.enforcing && !(d.referencesTo t).isEmpty then
      d.checkDropped t
      let (emptied, answer) := deleteRows s.enforcing name t.rows d
      if answer.fault.isSome then return (d, answer) else return (emptied.drop name, answer)
    else
      let counted := s.enforcing && t.references.any Reference.deferred
      return (d.drop name, { changes := if counted then some 0 else none })

def settingRow (name : String) (v : Stored) : Answer :=
  { result := {
      columns := [{ table := "", name := name, declared := "" }]
      rows := [[v]] } }

def turnsOn (assigned : String) : Bool :=
  match assigned.toList with
  | c :: rest =>
    if Number.isDigit c then
      Number.digitsValue 0 ((c :: rest).takeWhile Number.isDigit) % 256 != 0
    else ["on", "yes", "true"].contains (Text.lowerAscii assigned)
  | [] => false

/-- A setting that is asked for or made; an unknown one gives no rows. -/
def runPragma (s : Setting) (name : String) (assigned : Option String) : Answer :=
  match Text.lowerAscii name with
  | "journal_mode" => settingRow "journal_mode" (.text s.journal)
  | "foreign_keys" =>
    match assigned with
    | none => settingRow "foreign_keys" (ofBool s.enforcing)
    | some text => { enforcing := some (turnsOn text) }
  | _ => {}

def Command.run (s : Setting) (c : Command) : Except Fault (Database × Answer) := do
  let sources ← nameQueries c.named s.sources
  let s := { s with sources := sources }
  let d := sources.database
  match c.action with
  | .createTable ifAbsent name columns constraints =>
    return (← runCreate d ifAbsent name columns constraints, {})
  | .dropTable ifPresent name => runDrop s ifPresent name
  | .insert conflict table columns source => runInsert s conflict table columns source
  | .update conflict table assignments condition => runUpdate s conflict table assignments condition
  | .delete table condition => runDelete s table condition
  | .query q => return (d, { result := ← q.run sources })
  | .pragma name assigned => return (d, runPragma s name assigned)

/-- Whether a command writes to a database. One that asks for a table that is there, or for the end
of one that is not, does not. -/
def Command.writes (c : Command) (d : Database) : Bool :=
  match c.action with
  | .query _ | .pragma _ _ => false
  | .createTable ifAbsent name _ _ => !(ifAbsent && (d.table? name).isSome)
  | .dropTable ifPresent name => !(ifPresent && (d.table? name).isNone)
  | _ => true

end SqlSchema.Sqlite
