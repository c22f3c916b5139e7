import SqlSchema.Json.Reader
import SqlSchema.MySql.ColumnType
import SqlSchema.MySql.Payload
import SqlSchema.Text.Utf8
import SqlSchema.Value

/-! Cells of the binary protocol as values. The name of the column's type decides what a cell is
read as; what cannot be read so is null, and a type without a reading keeps its name alone. -/

namespace SqlSchema.MySql

open SqlSchema.Number SqlSchema.Text

def integer? (t : ColumnType) (payload : List UInt8) : Option Int :=
  if t.readsSigned then some (littleEndianSigned payload) else none

def natural? (t : ColumnType) (payload : List UInt8) : Option Nat :=
  if t.readsUnsigned then some (littleEndian payload) else none

def utf8? (payload : List UInt8) : Option String :=
  (utf8Decode payload).toOption

def text? (t : ColumnType) (payload : List UInt8) : Option String :=
  if t.readsText then utf8? payload else none

def bytes? (t : ColumnType) (payload : List UInt8) : Option (List UInt8) :=
  if t.readsBytes then some payload else none

/-- A cell that is read as nothing in particular: its text under the name of its type, or the name
alone. -/
def unknown (t : ColumnType) (payload : List UInt8) : Value :=
  .other t.name ((text? t payload).getD "<unknown>")

/-- What a cell that is not null is read as by the name of its type; none if the reading fails. -/
def read? (t : ColumnType) (payload : List UInt8) : Option Value :=
  match t.name with
  | "BOOLEAN" => some (.bool (littleEndian payload != 0))
  | "TINYINT" => (integer? t payload).map fun n => .int16 (.ofInt n)
  | "TINYINT UNSIGNED" => (natural? t payload).map fun n => .int16 (.ofNat n)
  | "SMALLINT" => (integer? t payload).map fun n => .int16 (.ofInt n)
  | "SMALLINT UNSIGNED" => (natural? t payload).map fun n => .int32 (.ofNat n)
  | "MEDIUMINT" | "INT" => (integer? t payload).map fun n => .int32 (.ofInt n)
  | "MEDIUMINT UNSIGNED" | "INT UNSIGNED" => (natural? t payload).map fun n => .int64 (.ofNat n)
  | "BIGINT" => (integer? t payload).map fun n => .int64 (.ofInt n)
  | "BIGINT UNSIGNED" => (natural? t payload).map fun n => .uint64 (.ofNat n)
  | "FLOAT" => some (.float32 (.ofBits (littleEndian payload)))
  | "DOUBLE" => some (.float64 (.ofBits (littleEndian payload)))
  | "DECIMAL" => ((utf8? payload).bind fun s => (Decimal.ofPlainText s).toOption).map .decimal
  | "CHAR" | "VARCHAR" | "TINYTEXT" | "TEXT" | "MEDIUMTEXT" | "LONGTEXT" | "ENUM" | "SET" =>
    (text? t payload).map .text
  | "BINARY" | "VARBINARY" | "TINYBLOB" | "BLOB" | "MEDIUMBLOB" | "LONGBLOB" =>
    (bytes? t payload).map .bytes
  | "DATE" => ((content? payload).bind date?).map .date
  | "TIME" => ((content? payload).bind duration?).map .time
  | "DATETIME" => ((content? payload).bind moment?).map .dateTime
  | "TIMESTAMP" => ((content? payload).bind moment?).map .dateTimeTz
  | "YEAR" => (integer? t payload).map fun n => .int16 (.ofInt n)
  | "JSON" => ((utf8? payload).bind fun s => (Json.parse s).toOption).map .json
  | _ => some (unknown t payload)

/-- The value of a cell, which is null if it has no content. -/
def decodeCell (t : ColumnType) (payload : Option (List UInt8)) : Value :=
  match payload with
  | none => .null
  | some payload => (read? t payload).getD .null

end SqlSchema.MySql
