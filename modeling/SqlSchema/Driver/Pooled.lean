import SqlSchema.Driver.Basic
import SqlSchema.Text.Blank

/-! Drivers over a pool of connections to a backend. The backend is given by its engine; the driver
adds the pool, the choice between statements that return rows and those that change them, and the
bookkeeping. -/

namespace SqlSchema.Driver

open SqlSchema.Connection SqlSchema.Text

/-- What a statement did: the rows it changed, and the identifier that the backend reports with it,
whether or not this statement generated it. -/
structure Effect where
  rowsAffected : Nat
  reportedId : Int
  deriving Repr, DecidableEq

/-- The rows of a statement, with the columns that the first of them shows. -/
abbrev RowSet := List ColumnInfo × List Row

/-- A backend: `π` is what an open connection holds, and `ω` what stays when it is closed. -/
structure Engine (π ω : Type) where
  backend : Backend
  connect : Config → ω → Except DriverFault π × ω
  close : π → ω → ω
  ping : π → ω → Bool × π × ω
  returnsRows : String → Bool
  select : String → π → ω → Except BackendFault RowSet × π × ω
  modify : String → π → ω → Except BackendFault Effect × π × ω
  generatedId : String → Effect → Option Nat

/-- The state of a pooled driver: the pool while there is one, the world outside, and the
bookkeeping. -/
structure Pooled (π ω : Type) where
  pool : Option π := none
  world : ω
  stats : Stats := {}

namespace Engine

variable {π ω : Type}

/-- A pool in place of the one there may be. A failure leaves what there is. -/
def connectPool (e : Engine π ω) (config : Config) (s : Pooled π ω) :
    Except DriverFault Unit × Pooled π ω :=
  match e.connect config s.world with
  | (.ok pool, world) => (.ok (), { s with pool := some pool, world := world })
  | (.error cause, world) => (.error cause, { s with world := world })

def disconnectPool (e : Engine π ω) (s : Pooled π ω) : Except DriverFault Unit × Pooled π ω :=
  match s.pool with
  | some pool => (.ok (), { s with pool := none, world := e.close pool s.world })
  | none => (.error .noConnection, s)

def pingPool (e : Engine π ω) (s : Pooled π ω) : Bool × Pooled π ω :=
  match s.pool with
  | some pool =>
    let (answers, pool, world) := e.ping pool s.world
    (answers, { s with pool := some pool, world := world })
  | none => (false, s)

/-- The result of a statement that is not blank. -/
def run (e : Engine π ω) (sql : String) (pool : π) (world : ω) : Execution × π × ω :=
  if e.returnsRows sql then
    match e.select sql pool world with
    | (.ok (columns, rows), pool, world) => (.selected ⟨columns, rows, 0, sql⟩, pool, world)
    | (.error cause, pool, world) => (.rejected { message := cause.message }, pool, world)
  else
    match e.modify sql pool world with
    | (.ok effect, pool, world) =>
      (.modified
        { rowsAffected := effect.rowsAffected, lastInsertId := e.generatedId sql effect },
        pool, world)
    | (.error cause, pool, world) => (.rejected { message := cause.message }, pool, world)

/-- The rejection of a blank statement, of which the backend hears nothing. -/
def emptyQuery : Execution :=
  .rejected { message := "Empty query" }

/-- One statement, blanks around it aside. -/
def executePool (e : Engine π ω) (sql : String) (s : Pooled π ω) :
    Except DriverFault Execution × Pooled π ω :=
  match s.pool with
  | none => (.error .notConnected, s)
  | some pool =>
    let sql := trim sql
    if sql.isEmpty then (.ok emptyQuery, s)
    else
      let (result, pool, world) := e.run sql pool s.world
      (.ok result, { pool := some pool, world := world, stats := s.stats.record result })

def driver (e : Engine π ω) (config : Config) : Driver (Pooled π ω) where
  backend := e.backend
  config := config
  escape := e.backend.escape
  connect := e.connectPool config
  disconnect := e.disconnectPool
  isConnected := e.pingPool
  execute := e.executePool
  stats := Pooled.stats

end Engine

end SqlSchema.Driver
