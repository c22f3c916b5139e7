import SqlSchema.Connection.Session
import SqlSchema.MySql.Engine
import SqlSchema.Sqlite.Engine

/-! Drivers by configuration. The backends lie in a world outside: the files of the working
directory and the server that the network leads to. -/

namespace SqlSchema.Connection

open SqlSchema.Driver SqlSchema.Schema

/-- What lies outside of a program. -/
structure World where
  disk : Sqlite.Disk := []
  server : MySql.Server := {}

/-- A driver with its state. -/
structure Machine where
  State : Type
  driver : Driver State
  state : State

/-- The driver of the backend that a configuration names, not connected, whatever its parameters. -/
def Machine.ofBackend (config : Config) (world : World) : Machine :=
  match config.backend with
  | .sqlite => ⟨_, Sqlite.engine.driver config, { world := world.disk }⟩
  | .mySql => ⟨_, MySql.engine.driver config, { world := world.server }⟩

def Machine.ofConfig (config : Config) (world : World) : Except DriverFault Machine :=
  match config.validate with
  | .ok () => .ok (.ofBackend config world)
  | .error cause => .error (.mismatch cause)

/-- A session with the type of its driver's state. -/
structure OpenSession where
  State : Type
  session : Session State

def OpenSession.ofConfig (config : Config) (registry : Registry) (world : World) :
    Except DatabaseError OpenSession :=
  match Machine.ofConfig config world with
  | .error cause => .error (.connect cause)
  | .ok machine =>
    match Session.connect machine.driver machine.state registry with
    | .ok session => .ok ⟨machine.State, session⟩
    | .error e => .error e

end SqlSchema.Connection
