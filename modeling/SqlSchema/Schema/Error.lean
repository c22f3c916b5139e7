import SqlSchema.Decode
import SqlSchema.Files
import SqlSchema.Json.Reader

/-! What can be wrong with a schema. -/

namespace SqlSchema.Schema

/-- What is wrong with a schema document. `stated` is a cause known only by its wording. -/
inductive ConfigFault
  | unreadable (path : String) (cause : FileFault)
  | malformed (cause : Json.ReadError)
  | rootNotObject
  | tableNotObject (table : String)
  | primaryKeyNotName (table : String)
  | column (table name : String) (cause : DecodeError)
  | stated (wording : String)
  deriving Repr

def ConfigFault.message : ConfigFault → String
  | .unreadable path cause => s!"could not read {path}: {cause.message}"
  | .malformed cause => cause.message
  | .rootNotObject => "schema root must be an object of tables"
  | .tableNotObject table => s!"table {table} must be an object"
  | .primaryKeyNotName table => s!"primary_key of table {table} must be a column name"
  | .column table name cause => s!"column {table}.{name}: {cause.message}"
  | .stated wording => wording

inductive SchemaError
  | unknownTable (table : String)
  | missingType (column : String)
  | missingField (column field : String)
  | invalidAction (column field value expected : String)
  | unknownPrimaryKey (table column : String)
  | invalidConfig (cause : ConfigFault)
  deriving Repr

def SchemaError.message : SchemaError → String
  | .unknownTable table => s!"Could not find configuration for table {table}"
  | .missingType column => s!"Could not find type for column: {column}"
  | .missingField column field => s!"Foreign key on column {column} has no `{field}` key"
  | .invalidAction column field value expected =>
    s!"Error with column {column}: {field} must be one of {expected}, got `{value}`"
  | .unknownPrimaryKey table column =>
    s!"Primary key `{column}` of table {table} is not a column"
  | .invalidConfig cause => s!"Invalid schema configuration: {cause.message}"

end SqlSchema.Schema
