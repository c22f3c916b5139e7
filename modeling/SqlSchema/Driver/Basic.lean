import SqlSchema.Connection.Config
import SqlSchema.Driver.Result

/-! Drivers. A driver is a machine over a state of its own: each call gives an answer and the next
state. A call fails when the statement could not even be tried; a rejection by the backend is an
answer. -/

namespace SqlSchema.Driver

open SqlSchema.Connection

/-- What a backend says when it refuses. -/
inductive BackendFault
  | sqlite (code : Nat) (message : String)
  | mySql (code : Nat) (state message : String)
  | protocol (message : String)
  | networkUnreachable
  | noEncryption
  deriving Repr, DecidableEq

def BackendFault.message : BackendFault → String
  | .sqlite code message => s!"error returned from database: (code: {code}) {message}"
  | .mySql code state message => s!"error returned from database: {code} ({state}): {message}"
  | .protocol message => s!"encountered unexpected or invalid data: {message}"
  | .networkUnreachable =>
    "error communicating with database: Network is unreachable (os error 101)"
  | .noEncryption =>
    "error occurred while attempting to establish a TLS connection: server does not support TLS"

/-- Why a call failed. `stated` is a cause known only by its wording. -/
inductive DriverFault
  | mismatch (cause : Mismatch)
  | unsupportedParameters (backend : Backend)
  | notConnected
  | noConnection
  | backend (cause : BackendFault)
  | stated (wording : String)
  deriving Repr, DecidableEq

def DriverFault.message : DriverFault → String
  | .mismatch cause => cause.message
  | .unsupportedParameters .mySql =>
    "MySQL does not support file-based or in-memory connections"
  | .unsupportedParameters .sqlite =>
    "SQLite does not support server-based connections. Use File or InMemory params."
  | .notConnected => "Database not connected"
  | .noConnection => "No active database connection to disconnect"
  | .backend cause => cause.message
  | .stated wording => wording

/-- Statements one after another by the way to execute one, up to the first that is rejected, whose
rejection is the last result. -/
def executeEach {σ : Type} (execute : String → σ → Except DriverFault Execution × σ) :
    List String → σ → Except DriverFault (List Execution) × σ
  | [], s => (.ok [], s)
  | sql :: rest, s =>
    match execute sql s with
    | (.error cause, s) => (.error cause, s)
    | (.ok result, s) =>
      if result.isRejected then (.ok [result], s)
      else
        match executeEach execute rest s with
        | (.error cause, s) => (.error cause, s)
        | (.ok results, s) => (.ok (result :: results), s)

end SqlSchema.Driver

namespace SqlSchema

open Connection Driver

/-- A driver over a state. A batch is executed statement by statement unless the driver has a way
of its own. -/
structure Driver (σ : Type) where
  backend : Backend
  config : Config
  escape : Escaper
  connect : σ → Except DriverFault Unit × σ
  disconnect : σ → Except DriverFault Unit × σ
  isConnected : σ → Bool × σ
  execute : String → σ → Except DriverFault Execution × σ
  executeBatch : List String → σ → Except DriverFault (List Execution) × σ := executeEach execute
  stats : σ → Stats

namespace Driver

variable {σ : Type}

def displayName (d : Driver σ) : String :=
  d.config.parameters.displayName

end Driver

end SqlSchema
