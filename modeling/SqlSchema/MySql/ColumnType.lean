/-! Types of columns as a MySQL server describes them: a code, flags and a size. -/

namespace SqlSchema.MySql

structure ColumnType where
  code : Nat
  flags : Nat := 0
  size : Nat := 0
  deriving Repr, DecidableEq

namespace ColumnType

def isUnsigned (t : ColumnType) : Bool := t.flags / 32 % 2 == 1

/-- Whether a column holds bytes and no text. -/
def isBinary (t : ColumnType) : Bool := t.flags / 128 % 2 == 1

/-- Whether a column of characters is an enumeration. -/
def isEnum (t : ColumnType) : Bool := t.flags / 256 % 2 == 1

def integerName (t : ColumnType) (name : String) : String :=
  if t.isUnsigned then name ++ " UNSIGNED" else name

/-- The name of a type. A tiny integer of size one is a truth value. -/
def name (t : ColumnType) : String :=
  match t.code with
  | 1 => if t.size = 1 then "BOOLEAN" else t.integerName "TINYINT"
  | 2 => t.integerName "SMALLINT"
  | 3 => t.integerName "INT"
  | 8 => t.integerName "BIGINT"
  | 9 => t.integerName "MEDIUMINT"
  | 4 => "FLOAT"
  | 5 => "DOUBLE"
  | 6 => "NULL"
  | 0 | 246 => "DECIMAL"
  | 7 => "TIMESTAMP"
  | 10 => "DATE"
  | 11 => "TIME"
  | 12 => "DATETIME"
  | 13 => "YEAR"
  | 16 => "BIT"
  | 245 => "JSON"
  | 247 => "ENUM"
  | 248 => "SET"
  | 249 => if t.isBinary then "TINYBLOB" else "TINYTEXT"
  | 250 => if t.isBinary then "MEDIUMBLOB" else "MEDIUMTEXT"
  | 251 => if t.isBinary then "LONGBLOB" else "LONGTEXT"
  | 252 => if t.isBinary then "BLOB" else "TEXT"
  | 15 | 253 => if t.isBinary then "VARBINARY" else "VARCHAR"
  | 254 => if t.isBinary then "BINARY" else if t.isEnum then "ENUM" else "CHAR"
  | _ => "GEOMETRY"

def integerCodes : List Nat := [1, 2, 3, 8, 9]

/-- The codes of what is sent as a string of bytes and can be read as one. -/
def stringCodes : List Nat := [15, 247, 249, 250, 251, 252, 253, 254]

def readsSigned (t : ColumnType) : Bool :=
  integerCodes.contains t.code && !t.isUnsigned

def readsUnsigned (t : ColumnType) : Bool :=
  integerCodes.contains t.code && t.isUnsigned

def readsBytes (t : ColumnType) : Bool :=
  stringCodes.contains t.code

def readsText (t : ColumnType) : Bool :=
  t.readsBytes && !t.isBinary

end ColumnType

end SqlSchema.MySql
