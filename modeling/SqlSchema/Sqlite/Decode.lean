import SqlSchema.Sqlite.Storage
import SqlSchema.Temporal.Reader
import SqlSchema.Value

/-! Stored cells as values. The declared type of a column has a reported name, which decides what is
tried first; a cell that holds something else is decoded by its storage class. -/

namespace SqlSchema.Sqlite

open SqlSchema.Temporal SqlSchema.Text

def reportedType (declared : String) : String :=
  let type := lowerAscii declared
  if type == "int4" || type == "int8" then "INTEGER"
  else if type == "boolean" || type == "bool" then "BOOLEAN"
  else if type == "date" then "DATE"
  else if type == "time" then "TIME"
  else if type == "datetime" || type == "timestamp" then "DATETIME"
  else if occurs "int" type then "INTEGER"
  else if occurs "char" type || occurs "clob" type || occurs "text" type then "TEXT"
  else if occurs "blob" type then "BLOB"
  else if occurs "real" type || occurs "floa" type || occurs "doub" type then "REAL"
  else "NULL"

namespace Stored

def integer? : Stored → Option Int64
  | .integer n => some n
  | _ => none

def real? : Stored → Option Number.Double
  | .real x => some x
  | _ => none

def text? : Stored → Option String
  | .text s => some s
  | _ => none

/-- The bytes of a text or a blob. -/
def bytes? : Stored → Option (List UInt8)
  | .blob data => some data
  | .text s => some (utf8Encode s)
  | _ => none

end Stored

/-- A cell by its storage class, with the exact content. -/
def decodeByClass (type : String) : Stored → Value
  | .integer n => .int64 n
  | .real x => .float64 x
  | .text s => .text s
  | .blob data => .bytes data
  | .null => .other type "<unknown>"

/-- A text by a reader, or as it is if the reader refuses it; any other cell by its class. -/
def decodeText (type : String) (read : String → Option Value) (v : Stored) : Value :=
  match v.text? with
  | some s => (read s).getD (.text s)
  | none => decodeByClass type v

def dateValue? (s : String) : Option Value :=
  (Date.read .strict s).toOption.map .date

def timeValue? (s : String) : Option Value :=
  (Time.readFull s).toOption.map .time

def momentValue? (s : String) : Option Value :=
  (DateTime.readCell s).toOption.map .dateTime

/-- A cell that is not null by the name of its type, in upper case. -/
def decodeByType (type : String) (v : Stored) : Value :=
  if ["INTEGER", "INT", "TINYINT", "SMALLINT", "MEDIUMINT", "BIGINT", "INT2", "INT8"].contains
      type then
    (v.integer?.map .int64).getD (decodeByClass type v)
  else if ["BOOLEAN", "BOOL"].contains type then
    (v.integer?.map fun n => .bool (n != 0)).getD .null
  else if ["REAL", "DOUBLE", "DOUBLE PRECISION", "FLOAT"].contains type then
    (v.real?.map .float64).getD (decodeByClass type v)
  else if ["TEXT", "VARCHAR", "NVARCHAR", "CLOB", "CHARACTER", "CHAR"].contains type then
    (v.text?.map .text).getD (decodeByClass type v)
  else if type == "BLOB" then (v.bytes?.map .bytes).getD .null
  else if type == "DATE" then decodeText type dateValue? v
  else if type == "TIME" then decodeText type timeValue? v
  else if type == "DATETIME" || type == "TIMESTAMP" then decodeText type momentValue? v
  else if type == "NUMERIC" || type == "DECIMAL" then
    decodeText type (fun s => (Decimal.ofPlainText s).toOption.map .decimal) v
  else decodeByClass type v

def decodeCell (type : String) (v : Stored) : Value :=
  match v with
  | .null => .null
  | v => decodeByType type v

end SqlSchema.Sqlite
