import SqlSchema.Backend
import SqlSchema.Uuid

/-! Configurations of connections: a name, a backend, and the parameters by which the backend is
reached. A server takes parameters of its own; a backend in the process has a file or lives in
memory. -/

namespace SqlSchema.Connection

open SqlSchema.Text

/-- How far a connection to a server is secured. -/
inductive SslMode
  | disable
  | prefer
  | require
  | verifyCa
  | verifyFull
  deriving Inhabited, Repr, DecidableEq

namespace SslMode

def all : List SslMode := [.disable, .prefer, .require, .verifyCa, .verifyFull]

def name : SslMode → String
  | .disable => "disable"
  | .prefer => "prefer"
  | .require => "require"
  | .verifyCa => "verify-ca"
  | .verifyFull => "verify-full"

/-- The mode that an option of an address means, in any case. Any other text means `prefer`. -/
def ofOption (s : String) : SslMode :=
  match lower s with
  | "disable" | "disabled" => .disable
  | "require" | "required" => .require
  | "verify-ca" | "verify_ca" => .verifyCa
  | "verify-full" | "verify_identity" => .verifyFull
  | _ => .prefer

def mySqlName : SslMode → String
  | .disable => "Disabled"
  | .prefer => "Preferred"
  | .require => "Required"
  | .verifyCa => "VerifyCa"
  | .verifyFull => "VerifyIdentity"

/-- Whether a connection without encryption is refused. -/
def needsEncryption : SslMode → Bool
  | .disable | .prefer => false
  | .require | .verifyCa | .verifyFull => true

end SslMode

/-- How a server is reached. -/
structure Server where
  hostname : String
  port : UInt16
  username : String
  password : String := ""
  database : String
  sslMode : SslMode := .prefer
  deriving Repr, DecidableEq

/-- How a backend is reached. -/
inductive Parameters
  | server (s : Server)
  | file (path : String) (readOnly : Bool)
  | inMemory
  deriving Repr, DecidableEq

def Parameters.server? : Parameters → Option Server
  | .server s => some s
  | _ => none

def Parameters.withoutPassword : Parameters → Parameters
  | .server s => .server { s with password := "" }
  | p => p

def Parameters.displayName : Parameters → String
  | .server s => s!"{s.username}@{s.hostname}:{s.port}/{s.database}"
  | .file path _ => path
  | .inMemory => ":memory:"

/-- The configuration of a connection. -/
structure Config where
  id : Uuid
  name : String
  backend : Backend
  parameters : Parameters
  deriving Repr, DecidableEq

/-- Parameters that do not suit the backend. -/
inductive Mismatch
  | needsLocal (backend : Backend)
  | needsServer (backend : Backend)
  deriving Repr, DecidableEq

def Mismatch.message : Mismatch → String
  | .needsLocal backend =>
    s!"{backend.displayName} requires file or in-memory connection parameters"
  | .needsServer backend => s!"{backend.displayName} requires server connection parameters"

/-- The parameters must suit the backend. -/
def Config.validate (c : Config) : Except Mismatch Unit :=
  match c.backend, c.parameters with
  | .sqlite, .server _ => .error (.needsLocal .sqlite)
  | .mySql, .file _ _ => .error (.needsServer .mySql)
  | .mySql, .inMemory => .error (.needsServer .mySql)
  | _, _ => .ok ()

def Config.withoutPassword (c : Config) : Config :=
  { c with parameters := c.parameters.withoutPassword }

end SqlSchema.Connection
