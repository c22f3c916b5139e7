import SqlSchema.Connection.Config

/-! Configurations as documents. The password is read and never written. -/

namespace SqlSchema.Connection

open SqlSchema.Decode

def SslMode.toJson (m : SslMode) : Json :=
  .text m.name

def SslMode.ofJson : Decoder SslMode :=
  choice true (SslMode.all.map fun m => (m.name, m))

/-- The document of parameters, the kind first. -/
def Parameters.toJson : Parameters → Json
  | .server s =>
    .object
      [("type", .text "server"), ("hostname", .text s.hostname), ("port", .integer s.port.toNat),
       ("username", .text s.username), ("database", .text s.database),
       ("ssl_mode", s.sslMode.toJson)]
  | .file path readOnly =>
    .object [("type", .text "file"), ("path", .text path), ("read_only", .bool readOnly)]
  | .inMemory => .object [("type", .text "inmemory")]

inductive Kind
  | server
  | file
  | inMemory
  deriving Repr, DecidableEq

def kinds : List (String × Kind) :=
  [("server", .server), ("file", .file), ("inmemory", .inMemory)]

/-- What is said when a list of parameters has more items than there are fields. -/
def surplusItems (count : Nat) : String :=
  s!"{elements count} in sequence"

def port : Decoder UInt16 :=
  fun doc => (natural 16 "u16" doc).map UInt16.ofNat

def path : Decoder String
  | .text s => .ok s
  | doc => .error (.wrongType doc "path string")

def serverForm : RecordForm :=
  { title := "struct variant ConnectionParams::Server"
    fields :=
      [.of "hostname" Decode.text, .of "port" port, .of "username" Decode.text,
       .of "password" Decode.text, .of "database" Decode.text, .of "ssl_mode" SslMode.ofJson]
    surplus := surplusItems }

def buildServer (members : List (String × Json)) : Except DecodeError Parameters := do
  let hostname ← required "hostname" Decode.text members
  let port ← required "port" port members
  let username ← required "username" Decode.text members
  let password ← defaulted "password" "" Decode.text members
  let database ← required "database" Decode.text members
  let sslMode ← defaulted "ssl_mode" .prefer SslMode.ofJson members
  return .server
    { hostname := hostname, port := port, username := username, password := password,
      database := database, sslMode := sslMode }

def fileForm : RecordForm :=
  { title := "struct variant ConnectionParams::File"
    fields := [.of "path" path, .of "read_only" Decode.bool]
    surplus := surplusItems }

def buildFile (members : List (String × Json)) : Except DecodeError Parameters := do
  let path ← required "path" path members
  let readOnly ← defaulted "read_only" false Decode.bool members
  return .file path readOnly

/-- The parameters of a kind, of which a database in memory has none. -/
def inMemoryForm : RecordForm :=
  { title := "unit variant", fields := [], surplus := surplusItems }

/-- The reading of the parameters of a kind from the members of an object or the items of a list. -/
def contentOf : Kind → RecordForm × (List (String × Json) → Except DecodeError Parameters)
  | .server => (serverForm, buildServer)
  | .file => (fileForm, buildFile)
  | .inMemory => (inMemoryForm, fun _ => .ok .inMemory)

def kind : Decoder Kind :=
  variant kinds

def Parameters.ofJson : Decoder Parameters
  | .object members => do
    let k ← required "type" kind members
    let (form, build) := contentOf k
    recordOfMembers form build (members.filter fun member => member.1 != "type")
  | .list [] => .error (.missingField "type")
  | .list (first :: items) => do
    let k ← kind first
    let (form, build) := contentOf k
    recordOfItems form build items
  | doc => .error (.wrongType doc "internally tagged enum ConnectionParams")

def Config.toJson (c : Config) : Json :=
  .object
    [("id", .text c.id.text), ("name", .text c.name), ("database_type", c.backend.toJson),
     ("params", c.parameters.toJson)]

def Config.ofJson : Decoder Config :=
  record { title := "struct ConnectionConfig",
           fields :=
             [.of "id" uuid, .of "name" Decode.text, .of "database_type" Backend.ofJson,
              .of "params" Parameters.ofJson] }
    fun members => do
      let id ← required "id" uuid members
      let name ← required "name" Decode.text members
      let backend ← required "database_type" Backend.ofJson members
      let parameters ← required "params" Parameters.ofJson members
      return ⟨id, name, backend, parameters⟩

end SqlSchema.Connection
