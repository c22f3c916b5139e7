import SqlSchema.Driver.Basic
import SqlSchema.Schema.Error

/-! What can go wrong on a connection. -/

namespace SqlSchema.Connection

open SqlSchema.Driver SqlSchema.Schema

/-- An error of a connection: of the schema, in which case the driver was not asked; of the backend,
which rejected a statement; or of the driver. -/
inductive DatabaseError
  | schema (cause : SchemaError)
  | rejected (context query message : String)
  | notConnected
  | connect (cause : DriverFault)
  | driver (cause : DriverFault)
  deriving Repr

namespace DatabaseError

def message : DatabaseError → String
  | .schema cause => cause.message
  | .rejected context query message => s!"{context}. Error: {message}. Query: {query}"
  | .notConnected => "Database not connected"
  | .connect cause => s!"Could not connect to database server: {cause.message}"
  | .driver cause => s!"Driver error: {cause.message}"

/-- Whether the schema was at fault. -/
def isValidation : DatabaseError → Bool
  | .schema _ => true
  | _ => false

end DatabaseError

end SqlSchema.Connection
