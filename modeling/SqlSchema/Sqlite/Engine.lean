import SqlSchema.Driver.Keyword
import SqlSchema.Driver.Pooled
import SqlSchema.Files
import SqlSchema.Sqlite.Decode
import SqlSchema.Sqlite.Execution
import SqlSchema.Sqlite.Grammar

/-! SQLite as the engine of a driver. A database is a file of the working directory, which stays
when a connection is closed, or private to a connection. -/

namespace SqlSchema.Sqlite

open SqlSchema.Connection SqlSchema.Driver SqlSchema.Text

/-! ### Texts of several statements -/

/-- How a connection treats its database. -/
structure Mode where
  journal : String
  readOnly : Bool := false
  enforcing : Bool := true
  deriving Repr, DecidableEq

/-- What a text has done so far: the database, the counters and the mode after it, the relations it
gave, the sum of the changes that were reported after each statement, and the fault that ended
it. -/
structure Progress where
  database : Database
  counters : Counters
  mode : Mode
  relations : List Relation := []
  changes : Nat := 0
  fault : Option Fault := none

/-- The counters after a command. One that changes no rows leaves the count of the last that did. -/
def Counters.after (k : Counters) (answer : Answer) : Counters :=
  { changes := answer.changes.getD k.changes, lastRowId := answer.inserted.getD k.lastRowId }

/-- Why the first parameter of a statement cannot go without a value: its name is no number. -/
def parameterFault? (tokens : List Token) : Option Fault := do
  let t ← tokens.find? (·.kind = .parameter)
  match t.chars with
  | '?' :: _ => none
  | '$' :: rest =>
    if rest.head?.any Number.isDigit then none else some (.parameterName (String.ofList rest))
  | chars => some (.parameterFormat (String.ofList chars))

/-- One command more, written in these tokens. -/
def Progress.step (c : Command) (tokens : List Token) (p : Progress) : Progress :=
  let s : Setting := {
    journal := p.mode.journal
    enforcing := p.mode.enforcing
    sources := { database := p.database, counters := p.counters } }
  match c.run s with
  | .error fault => { p with fault := some fault }
  | .ok (database, answer) =>
    if let some fault := parameterFault? tokens then { p with fault := some fault }
    else if p.mode.readOnly && c.writes p.database then { p with fault := some .readOnly }
    else
      let counters := p.counters.after answer
      { database := database
        counters := counters
        mode := { p.mode with enforcing := answer.enforcing.getD p.mode.enforcing }
        relations := p.relations ++ [answer.result]
        changes := p.changes + counters.changes
        fault := answer.fault }

/-- The commands of some tokens one after another, up to the first that fails. Each is read when
those before it are done; the fuel bounds their number. -/
def runTokens : Nat → List Token → Progress → Progress
  | 0, _, p => p
  | fuel + 1, tokens, p =>
    match readCommand tokens with
    | .error fault => { p with fault := some fault }
    | .ok none => p
    | .ok (some (c, own, rest)) =>
      let p := p.step c own
      if p.fault.isSome then p else runTokens fuel rest p

def runText (mode : Mode) (sql : String) (database : Database) (counters : Counters) : Progress :=
  let tokens := tokensOf sql
  runTokens tokens.length tokens { database := database, counters := counters, mode := mode }

/-! ### Rows of results -/

def ScopeColumn.typeName (c : ScopeColumn) : String :=
  reportedType c.declared

def Relation.columnInfos (r : Relation) : List ColumnInfo :=
  r.columns.zipIdx.map fun entry => ⟨entry.1.name, entry.1.typeName, entry.2⟩

def Relation.decodedRows (r : Relation) : List Row :=
  r.rows.map fun row =>
    .ofValues (r.columns.zipWith (fun c v => decodeCell c.typeName v) row)

/-- The rows of some relations, with the columns of the first that has rows. -/
def rowSet (relations : List Relation) : RowSet :=
  let withRows := relations.filter fun r => !r.rows.isEmpty
  ((withRows.head?.map Relation.columnInfos).getD [], withRows.flatMap Relation.decodedRows)

/-! ### Connections -/

/-- The databases that lie in files of the working directory. -/
abbrev Disk := List (String × Database)

/-- An open connection: the file of its database, or a database of its own. -/
structure Pool where
  file : Option String := none
  own : Database := {}
  counters : Counters := {}
  mode : Mode

namespace Pool

def database (p : Pool) (disk : Disk) : Database :=
  match p.file with
  | some name => (Keyed.get? name disk).getD {}
  | none => p.own

def store (p : Pool) (database : Database) (disk : Disk) : Pool × Disk :=
  match p.file with
  | some name => (p, Keyed.put name database disk)
  | none => ({ p with own := database }, disk)

def run (p : Pool) (sql : String) (disk : Disk) : Progress × Pool × Disk :=
  let progress := runText p.mode sql (p.database disk) p.counters
  let next := { p with counters := progress.counters, mode := progress.mode }
  (progress, next.store progress.database disk)

def inMemory : Pool :=
  { mode := { journal := "memory" } }

/-- A connection to the database in a file. A file that is missing is created unless it is only to
be read; without a path the database is private. -/
def openFile (path : String) (readOnly : Bool) (disk : Disk) :
    Except DriverFault Pool × Disk :=
  let refused := DriverFault.backend Fault.cannotOpen.reported
  if path.isEmpty then (.ok { mode := { journal := "delete", readOnly := readOnly } }, disk)
  else if path == ":memory:" then
    (.ok { mode := { journal := "memory", readOnly := readOnly } }, disk)
  else match placeOf path with
    | .name name =>
      let pool : Pool :=
        { file := some name, mode := { journal := "wal", readOnly := readOnly } }
      if Keyed.contains name disk then (.ok pool, disk)
      else if readOnly then (.error refused, disk)
      else (.ok pool, Keyed.put name {} disk)
    | _ => (.error refused, disk)

end Pool

def connect (config : Config) (disk : Disk) : Except DriverFault Pool × Disk :=
  match config.parameters with
  | .file path readOnly => Pool.openFile path readOnly disk
  | .inMemory => (.ok .inMemory, disk)
  | .server _ => (.error (.unsupportedParameters .sqlite), disk)

def select (sql : String) (p : Pool) (disk : Disk) : Except BackendFault RowSet × Pool × Disk :=
  let (progress, next) := p.run sql disk
  match progress.fault with
  | some fault => (.error fault.reported, next)
  | none => (.ok (rowSet progress.relations), next)

/-- The rows that a statement changed, and the number of the row that the connection inserted last,
which need not be the work of this statement. -/
def modify (sql : String) (p : Pool) (disk : Disk) :
    Except BackendFault Driver.Effect × Pool × Disk :=
  let (progress, next) := p.run sql disk
  match progress.fault with
  | some fault => (.error fault.reported, next)
  | none => (.ok ⟨progress.changes, progress.counters.lastRowId.toInt⟩, next)

/-- The identifier that a statement generated: the number of the row that was inserted last, if the
statement is one that inserts. -/
def generatedId (sql : String) (effect : Driver.Effect) : Option Nat :=
  if insertsRows sql && 0 < effect.reportedId then some effect.reportedId.toNat else none

def engine : Engine Pool Disk where
  backend := .sqlite
  connect := connect
  close := fun _ disk => disk
  ping := fun p disk => (true, p, disk)
  returnsRows := returnsRows .sqlite
  select := select
  modify := modify
  generatedId := generatedId

end SqlSchema.Sqlite
