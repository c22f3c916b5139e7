import SqlSchema.Connection.Session
import SqlSchema.Text.Quoted

/-! Texts that show what a driver or a session holds, for diagnostics. -/

namespace SqlSchema.Connection

open SqlSchema.Text

def SslMode.debugText : SslMode → String
  | .disable => "Disable"
  | .prefer => "Prefer"
  | .require => "Require"
  | .verifyCa => "VerifyCa"
  | .verifyFull => "VerifyFull"

def debugRecord (name : String) (fields : List (String × String)) : String :=
  name ++ " \x7b " ++ joined ", " (fields.map fun field => field.1 ++ ": " ++ field.2) ++ " \x7d"

def debugBool (b : Bool) : String :=
  if b then "true" else "false"

def Parameters.debugText : Parameters → String
  | .server s =>
    debugRecord "Server"
      [("hostname", quoted s.hostname), ("port", toString s.port.toNat),
       ("username", quoted s.username), ("password", quoted s.password),
       ("database", quoted s.database), ("ssl_mode", s.sslMode.debugText)]
  | .file path readOnly =>
    debugRecord "File" [("path", quoted path), ("read_only", debugBool readOnly)]
  | .inMemory => "InMemory"

def Config.debugText (c : Config) : String :=
  debugRecord "ConnectionConfig"
    [("id", c.id.text), ("name", quoted c.name), ("database_type", c.backend.displayName),
     ("params", c.parameters.debugText)]

/-- The driver of a configuration in a diagnostic, which does not show its pool. -/
def Config.driverDebugText (c : Config) : String :=
  match c.backend with
  | .mySql =>
    debugRecord "MySqlDriver" [("config", c.debugText), ("pool", quoted "<MySqlPool>")]
  | .sqlite =>
    debugRecord "SqliteDriver" [("config", c.debugText), ("pool", quoted "<SqlitePool>")]

def Status.debugText (s : Status) : String :=
  debugRecord "ConnectionState"
    [("connected", debugBool s.connected), ("error", debugBool s.error),
     ("message", quoted s.message)]

def Session.debugText {σ : Type} (c : Session σ) : String :=
  debugRecord "DatabaseConnection"
    [("driver", quoted c.driver.displayName), ("tables", toString c.registry.size),
     ("state", c.status.debugText)]

end SqlSchema.Connection
